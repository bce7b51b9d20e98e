import ClientGen.Proofs.Files.Directories

/-!
File systems with the same directories. Where a file can be made depends on the directories alone,
and operations on files keep all of these. So a file that can be made once can be made again,
however often files were made, filled, moved and removed in between.
-/
namespace ClientGen.Files.FileSystem

variable {fs middle after : FileSystem} {p : FilePath}

/-- File systems with the same directories. -/
structure Alike (fs after : FileSystem) : Prop where
  workingDirectory : after.workingDirectory = fs.workingDirectory
  kept : SameDirectories fs after
  present : SameDirectories after fs

theorem Alike.refl (fs : FileSystem) : Alike fs fs :=
  ⟨rfl, fun _ _ stands _ => stands, fun _ _ stands _ => stands⟩

theorem Alike.symm (alike : Alike fs after) : Alike after fs :=
  ⟨alike.workingDirectory.symm, alike.present, alike.kept⟩

theorem Alike.trans (one : Alike fs middle) (two : Alike middle after) : Alike fs after :=
  ⟨two.workingDirectory.trans one.workingDirectory,
    fun location entry stands directory =>
      two.kept location entry (one.kept location entry stands directory) directory,
    fun location entry stands directory =>
      one.present location entry (two.present location entry stands directory) directory⟩

/-- A file put where no directory stands changes no directories. -/
theorem Alike.put_file (free : (fs.at? (name :: outer)).any Entry.isDirectory = false)
    (bytes : ByteArray) : Alike fs (fs.put (name :: outer) (.file bytes)) := by
  refine ⟨rfl, SameDirectories.of_put_file free bytes, ?_⟩
  intro location entry stands directory
  by_cases here : location = name :: outer
  · rw [here, at?_put_self] at stands
    cases stands
    cases directory
  · rwa [at?_put_of_ne _ _ here] at stands

/-- Nor does a file taken away. -/
theorem Alike.clear_file (file : fs.at? (name :: outer) = some (.file bytes)) :
    Alike fs (fs.clear (name :: outer)) := by
  refine ⟨rfl, ?_, ?_⟩
  · intro location entry stands directory
    have apart : location ≠ name :: outer := by
      rintro rfl
      rw [stands] at file
      cases file
      cases directory
    rwa [at?_clear_of_ne _ apart]
  · intro location entry stands directory
    by_cases here : location = name :: outer
    · rw [here, at?_clear_self] at stands
      cases stands
    · rwa [at?_clear_of_ne _ here] at stands

/-- A path that leads to a directory still does where the same directories stand. -/
theorem Alike.isDirectory (alike : Alike fs after) (stands : fs.isDirectory p = true) :
    after.isDirectory p = true := by
  obtain ⟨text, location, walked, directory⟩ := isDirectory_iff.mp stands
  have start : after.start p = fs.start p := by
    rw [FileSystem.start, FileSystem.start, alike.workingDirectory]
  refine isDirectory_iff.mpr ⟨text, location, ?_, alike.kept.checkDirectory directory⟩
  rw [start]
  exact alike.kept.walk walked directory

theorem Alike.locateLast (alike : Alike fs after)
    (found : fs.locateLast p = .ok (outer, some name)) :
    after.locateLast p = .ok (outer, some name) := by
  obtain ⟨text, ⟨front, names, walked⟩, directory, dot, dots, short⟩ := walk_of_locateLast found
  have start : after.start p = fs.start p := by
    rw [FileSystem.start, FileSystem.start, alike.workingDirectory]
  rw [FileSystem.locateLast, text, names, List.getLast?_concat, List.dropLast_concat, start]
  dsimp only [bind, Except.bind]
  rw [alike.kept.walk walked directory]
  dsimp only
  rw [alike.kept.checkDirectory directory]
  simp [dot, dots, short, pure, Except.pure]

theorem Alike.of_createFile (made : fs.createFile p = .ok after) : Alike fs after := by
  obtain ⟨name, outer, -, -, free, -, rfl⟩ := createFile_eq_ok_iff.mp made
  exact .put_file free .empty

theorem Alike.of_appendFile (written : fs.appendFile p bytes = .ok after) : Alike fs after := by
  obtain ⟨name, outer, before, -, file, rfl⟩ := place_of_appendFile written
  exact .put_file (by rw [file]; rfl) _

theorem Alike.of_rename {source target : FilePath} (moved : fs.rename source target = .ok after) :
    Alike fs after := by
  obtain ⟨name, outer, targetName, targetOuter, bytes, -, -, file, -, free, moved⟩ :=
    rename_eq_ok moved
  rcases moved with ⟨-, rfl⟩ | ⟨-, rfl⟩
  · exact .refl after
  · refine (Alike.clear_file file).trans (.put_file ?_ bytes)
    by_cases same : targetName :: targetOuter = name :: outer
    · rw [same, at?_clear_self]
      rfl
    · rwa [at?_clear_of_ne _ same]

theorem Alike.of_remove (removed : fs.remove p = .ok after) : Alike fs after := by
  obtain ⟨name, outer, bytes, -, file, rfl⟩ := place_of_remove removed
  exact .clear_file file

def CanFill (fs : FileSystem) (p : FilePath) : Prop := ∃ after, fs.createFile p = .ok after

/-- A file can be made wherever it can be made among the same directories. -/
theorem Alike.canFill (alike : Alike fs after) (fills : fs.CanFill p) : after.CanFill p := by
  obtain ⟨filled, made⟩ := fills
  obtain ⟨name, outer, located, plain, free, unsealed, -⟩ := createFile_eq_ok_iff.mp made
  obtain ⟨-, -, directory, -⟩ := walk_of_locateLast located
  obtain ⟨entry, stands, isDirectory⟩ := at?_of_checkDirectory directory
  refine ⟨_, createFile_eq_ok_iff.mpr ⟨name, outer, alike.locateLast located, plain, ?_, ?_, rfl⟩⟩
  · cases there : after.at? (name :: outer) with
    | none => rfl
    | some other =>
      cases taken : other.isDirectory with
      | false => simpa using taken
      | true =>
        rw [alike.present _ other there taken, Option.any_some, taken] at free
        cases free
  · rw [checkUnsealed, stands] at unsealed
    rw [checkUnsealed, alike.kept _ entry stands isDirectory]
    exact unsealed

/-- What can be read can be written at its end. -/
theorem appendFile_of_read (found : fs.read p = .ok content) (bytes : ByteArray) :
    ∃ after, fs.appendFile p bytes = .ok after := by
  obtain ⟨location, located, stands⟩ := ok_of_bind found
  split at stands
  next => cases stands
  next before file => simp [appendFile, located, file, bind, Except.bind, pure, Except.pure]
  next => cases stands

theorem syncFile_of_read (found : fs.read p = .ok content) : fs.syncFile p = .ok fs := by
  rw [syncFile, found]
  rfl

/-- A file is moved where one can be made. -/
theorem rename_of_canFill {source target : FilePath} (held : fs.held source = some bytes)
    (fills : fs.CanFill source) (targetFills : fs.CanFill target) :
    ∃ after, fs.rename source target = .ok after := by
  obtain ⟨_, made⟩ := fills
  obtain ⟨_, targetMade⟩ := targetFills
  obtain ⟨name, outer, found, plain, -⟩ := createFile_eq_ok_iff.mp made
  obtain ⟨targetName, targetOuter, aim, targetPlain, free, unsealed, -⟩ :=
    createFile_eq_ok_iff.mp targetMade
  have file := at?_of_held held
  rw [place_of_locateLast found] at file
  rw [rename, found, aim]
  dsimp only [bind, Except.bind]
  rw [file]
  by_cases same : targetName :: targetOuter = name :: outer
  · rw [same] at free
    simp [plain, targetPlain, free, same]
  · simp [plain, targetPlain, free, unsealed, same, pure, Except.pure]

/-- Where a file was moved from another place, one can be made. -/
theorem canFill_of_rename {source target : FilePath} (moved : fs.rename source target = .ok after)
    (apart : fs.place source ≠ fs.place target) : fs.CanFill target := by
  obtain ⟨name, outer, targetName, targetOuter, bytes, found, aim, -, plain, free, moved⟩ :=
    rename_eq_ok moved
  rw [place_of_locateLast found, place_of_locateLast aim] at apart
  rcases moved with ⟨same, -⟩ | ⟨unsealed, -⟩
  · exact absurd same.symm apart
  · exact ⟨_, createFile_eq_ok_iff.mpr ⟨targetName, targetOuter, aim, plain, free, unsealed, rfl⟩⟩

end ClientGen.Files.FileSystem
