import ClientGen.Proofs.Files.Place

/-!
Reading a file that was moved. A move leaves every directory as it is, so a path that was followed
to fill its place is followed to it afterwards, and reading it gives what was moved there.
-/
namespace ClientGen.Files.FileSystem

variable {fs after : FileSystem}

theorem walk_append (fs : FileSystem) (location : Location) (front back : List String) :
    fs.walk location (front ++ back) = fs.walk location front >>= (fs.walk · back) := by
  induction front generalizing location with
  | nil => rfl
  | cons name rest ih =>
    rw [List.cons_append, walk, walk]
    cases fs.checkDirectory location with
    | error fault => rfl
    | ok =>
      simp only [bind, Except.bind]
      split
      · exact ih _
      · split
        · exact ih _
        · split
          · rfl
          · split
            · rfl
            · exact ih _

theorem at?_of_checkDirectory (checked : fs.checkDirectory location = .ok ()) :
    ∃ entry, fs.at? location = some entry ∧ entry.isDirectory = true := by
  unfold checkDirectory at checked
  split at checked
  next => cases checked
  next entry stands =>
    split at checked
    next directory => exact ⟨entry, stands, directory⟩
    next => cases checked

/-- Directories of one file system stand in another one. -/
def SameDirectories (fs after : FileSystem) : Prop :=
  ∀ location entry, fs.at? location = some entry → entry.isDirectory = true →
    after.at? location = some entry

theorem SameDirectories.checkDirectory (same : SameDirectories fs after)
    (checked : fs.checkDirectory location = .ok ()) : after.checkDirectory location = .ok () := by
  obtain ⟨entry, stands, directory⟩ := at?_of_checkDirectory checked
  rw [FileSystem.checkDirectory, same location entry stands directory]
  exact if_pos directory

/-- A walk that ends at a directory starts at one. -/
theorem checkDirectory_of_walk (found : fs.walk location names = .ok target)
    (checked : fs.checkDirectory target = .ok ()) : fs.checkDirectory location = .ok () := by
  cases names with
  | nil =>
    cases found
    exact checked
  | cons name rest =>
    cases start : fs.checkDirectory location with
    | ok => rfl
    | error fault =>
      rw [walk, start] at found
      cases found

/-- Names are followed in the same way where the same directories stand. -/
theorem SameDirectories.walk (same : SameDirectories fs after)
    (found : fs.walk location names = .ok target)
    (checked : fs.checkDirectory target = .ok ()) : after.walk location names = .ok target := by
  induction names generalizing location with
  | nil =>
    cases found
    rfl
  | cons name rest ih =>
    have start := checkDirectory_of_walk found checked
    rw [FileSystem.walk, start] at found
    rw [FileSystem.walk, same.checkDirectory start]
    simp only [bind, Except.bind] at found ⊢
    split
    next dot =>
      rw [if_pos dot] at found
      exact ih found
    next noDot =>
      rw [if_neg noDot] at found
      split
      next dots =>
        rw [if_pos dots] at found
        exact ih found
      next noDots =>
        rw [if_neg noDots] at found
        split
        next long =>
          rw [if_pos long] at found
          cases found
        next short =>
          rw [if_neg short] at found
          split at found
          next => cases found
          next =>
            obtain ⟨entry, stands, directory⟩ :=
              at?_of_checkDirectory (checkDirectory_of_walk found checked)
            have kept := same _ entry stands directory
            rw [kept]
            exact ih found

/-- The names of a path whose last name is found lead to its place, if something stands there. -/
theorem SameDirectories.walk_names (same : SameDirectories fs after)
    (directory : after.workingDirectory = fs.workingDirectory)
    (found : fs.locateLast p = .ok (outer, some name))
    (stands : after.at? (name :: outer) = some entry) :
    after.walk (after.start p) p.names = .ok (name :: outer) := by
  obtain ⟨-, ⟨front, names, walked⟩, checked, dot, dots, short⟩ := walk_of_locateLast found
  have start : after.start p = fs.start p := by
    rw [FileSystem.start, FileSystem.start, directory]
  rw [names, start, walk_append, same.walk walked checked]
  change after.walk outer [name] = _
  rw [FileSystem.walk, same.checkDirectory checked]
  change (if _ then _ else _) = _
  rw [if_neg dot, if_neg dots, if_neg short, stands]
  rfl

/-- A file at the place of a path that was followed in the same directories can be read. -/
theorem SameDirectories.read (same : SameDirectories fs after)
    (directory : after.workingDirectory = fs.workingDirectory)
    (found : fs.locateLast p = .ok (outer, some name)) (plain : p.endsInSlash = false)
    (stands : after.at? (name :: outer) = some (.file bytes)) : after.read p = .ok bytes := by
  have located : after.locate p = .ok (name :: outer) := by
    rw [locate, (walk_of_locateLast found).1, plain]
    change after.walk (after.start p) (p.names ++ []) = _
    rw [List.append_nil, same.walk_names directory found stands]
  rw [FileSystem.read, located]
  dsimp only [bind, Except.bind]
  rw [stands]

theorem SameDirectories.of_rename {source target : FilePath}
    (moved : fs.rename source target = .ok after) : SameDirectories fs after := by
  obtain ⟨name, outer, targetName, targetOuter, bytes, -, -, file, -, free, moved⟩ :=
    rename_eq_ok moved
  intro location entry stands directory
  rcases moved with ⟨-, rfl⟩ | ⟨-, rfl⟩
  · exact stands
  · have notTarget : location ≠ targetName :: targetOuter := by
      rintro rfl
      rw [stands, Option.any_some, directory] at free
      cases free
    have notSource : location ≠ name :: outer := by
      rintro rfl
      rw [stands] at file
      cases file
      cases directory
    rw [at?_put_of_ne _ _ notTarget, at?_clear_of_ne _ notSource]
    exact stands

/-- What was moved can be read at its target. -/
theorem read_of_rename {source target : FilePath} (moved : fs.rename source target = .ok after)
    (apart : fs.place source ≠ fs.place target)
    (staged : fs.at? (fs.place source) = some (.file bytes)) : after.read target = .ok bytes := by
  have same := SameDirectories.of_rename moved
  obtain ⟨name, outer, targetName, targetOuter, held, sourceFound, found, file, plain, -, moved⟩ :=
    rename_eq_ok moved
  rw [place_of_locateLast sourceFound, place_of_locateLast found] at apart
  rw [place_of_locateLast sourceFound, file] at staged
  cases staged
  rcases moved with ⟨one, -⟩ | ⟨-, rfl⟩
  · exact absurd one.symm apart
  · exact same.read rfl found plain (at?_put_self ..)

end ClientGen.Files.FileSystem
