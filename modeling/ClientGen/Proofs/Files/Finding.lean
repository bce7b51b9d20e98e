import ClientGen.Proofs.Files.Reading

/-!
Files that a path leads to. A file that was just made is found and empty, what is written at its end
is found behind what was there, and a file that was removed is no longer found.
-/
namespace ClientGen.Files.FileSystem

variable {fs after : FileSystem}

/-- What is found to be a file stands at the place of its path. -/
theorem at?_of_isFile (found : fs.isFile p = true) :
    ∃ bytes, fs.at? (fs.place p) = some (.file bytes) := by
  rw [isFile, Option.any_eq_true] at found
  obtain ⟨entry, stands, file⟩ := found
  unfold find? at stands
  split at stands
  next location located =>
    rw [place_of_locate located] at stands
    cases entry with
    | file bytes => exact ⟨bytes, stands⟩
    | directory => cases file
    | sealedDirectory => cases file
  next => cases stands

theorem isFile_of_read (found : fs.read p = .ok bytes) : fs.isFile p = true := by
  obtain ⟨location, located, stands⟩ := ok_of_bind found
  split at stands
  next => cases stands
  next file entry => simp [isFile, find?, located, entry, Entry.isDirectory]
  next => cases stands

/-- Where nothing stands no file is found. -/
theorem isFile_eq_false (absent : fs.at? (fs.place p) = none) : fs.isFile p = false := by
  cases found : fs.isFile p with
  | false => rfl
  | true =>
    obtain ⟨bytes, stands⟩ := at?_of_isFile found
    rw [absent] at stands
    cases stands

/-- What was removed is gone. -/
theorem at?_of_remove (removed : fs.remove p = .ok after) : after.at? (after.place p) = none := by
  obtain ⟨name, outer, bytes, place, -, rfl⟩ := place_of_remove removed
  change (fs.clear (name :: outer)).at? (fs.place p) = none
  rw [place, at?_clear_self]

/-- What was moved is gone from its place. -/
theorem at?_of_rename {source target : FilePath} (moved : fs.rename source target = .ok after)
    (apart : fs.place source ≠ fs.place target) : after.at? (after.place source) = none := by
  obtain ⟨name, outer, targetName, targetOuter, bytes, found, aim, -, -, -, moved⟩ :=
    rename_eq_ok moved
  rw [place_of_locateLast found, place_of_locateLast aim] at apart
  rcases moved with ⟨same, -⟩ | ⟨-, rfl⟩
  · exact absurd same.symm apart
  · change FileSystem.at? _ (fs.place source) = none
    rw [place_of_locateLast found, at?_put_of_ne _ _ apart, at?_clear_self]

/-- Where a file takes no directory's place, all directories stay. -/
theorem SameDirectories.of_put_file
    (free : (fs.at? (name :: outer)).any Entry.isDirectory = false) (bytes : ByteArray) :
    SameDirectories fs (fs.put (name :: outer) (.file bytes)) := by
  intro location entry stands directory
  have apart : location ≠ name :: outer := by
    rintro rfl
    rw [stands, Option.any_some, directory] at free
    cases free
  rw [at?_put_of_ne _ _ apart]
  exact stands

/-- A file that was made is there, and is empty. -/
theorem read_of_createFile (made : fs.createFile p = .ok after) : after.read p = .ok .empty := by
  obtain ⟨name, outer, located, plain, free, -, rfl⟩ := createFile_eq_ok_iff.mp made
  exact (SameDirectories.of_put_file free .empty).read rfl located plain (at?_put_self ..)

/-- A walk only asks where directories stand and where something else does. -/
theorem walk_congr (kinds : ∀ location,
      (after.at? location).map Entry.isDirectory = (fs.at? location).map Entry.isDirectory)
    (location : Location) (names : List String) :
    after.walk location names = fs.walk location names := by
  have stands : ∀ location, (after.at? location).isNone = (fs.at? location).isNone := by
    intro location
    simpa using congrArg Option.isNone (kinds location)
  have checks : ∀ location, after.checkDirectory location = fs.checkDirectory location := by
    intro location
    have kind := kinds location
    unfold checkDirectory
    cases before : fs.at? location with
    | none =>
      rw [before, Option.map_none, Option.map_eq_none_iff] at kind
      simp [kind]
    | some entry =>
      rw [before, Option.map_some, Option.map_eq_some_iff] at kind
      obtain ⟨other, found, same⟩ := kind
      simp [found, same]
  induction names generalizing location with
  | nil => rfl
  | cons name rest ih => simp only [walk, checks, stands, ih]

/-- What is written at the end of a file is read behind what was there. -/
theorem read_of_appendFile (found : fs.read p = .ok content)
    (written : fs.appendFile p bytes = .ok after) : after.read p = .ok (content ++ bytes) := by
  obtain ⟨location, located, stands⟩ := ok_of_bind found
  obtain ⟨name, outer, held, place, file, rfl⟩ := place_of_appendFile written
  have here : location = name :: outer := (place_of_locate located).trans place
  rw [here, file] at stands
  cases stands
  have kinds : ∀ location,
      ((fs.put (name :: outer) (.file (content ++ bytes))).at? location).map Entry.isDirectory =
        (fs.at? location).map Entry.isDirectory := by
    intro location
    by_cases same : location = name :: outer
    · rw [same, at?_put_self, file]
      rfl
    · rw [at?_put_of_ne _ _ same]
  have relocated : (fs.put (name :: outer) (.file (content ++ bytes))).locate p = fs.locate p := by
    rw [locate, locate]
    simp only [walk_congr kinds]
    rfl
  rw [read, relocated, located, here]
  dsimp only [bind, Except.bind]
  rw [at?_put_self]

end ClientGen.Files.FileSystem
