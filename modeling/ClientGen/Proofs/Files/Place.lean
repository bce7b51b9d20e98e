import ClientGen.Files.System

/-!
Places of paths. A path has a place that its names alone determine, whether or not anything stands
there. Whenever an operation on files finds its way, it is at this place that it reads or changes
something, and nothing else changes.
-/
namespace ClientGen.Files
open Text

/-- The location that names lead to from another one. -/
def follow (location : Location) : List String → Location
  | [] => location
  | name :: rest =>
    if name = "." then follow location rest
    else if name = ".." then follow location.tail rest
    else follow (name :: location) rest

theorem follow_append (location : Location) (front back : List String) :
    follow location (front ++ back) = follow (follow location front) back := by
  induction front generalizing location with
  | nil => rfl
  | cons name rest ih =>
    rw [List.cons_append, follow, follow]
    split
    · exact ih _
    · split
      · exact ih _
      · exact ih _

theorem follow_name (location : Location) (name : String) (dot : name ≠ ".") (dots : name ≠ "..") :
    follow location [name] = name :: location := by
  rw [follow, if_neg dot, if_neg dots, follow]

namespace FileSystem

def place (fs : FileSystem) (p : FilePath) : Location := follow (fs.start p) p.names

@[simp] theorem place_put (fs : FileSystem) (location : Location) (entry : Entry) (p : FilePath) :
    (fs.put location entry).place p = fs.place p := rfl

def held (fs : FileSystem) (p : FilePath) : Option ByteArray :=
  match fs.at? (fs.place p) with
  | some (.file bytes) => some bytes
  | _ => none

variable {fs : FileSystem} {p : FilePath}

theorem at?_of_held (held : fs.held p = some bytes) :
    fs.at? (fs.place p) = some (.file bytes) := by
  unfold FileSystem.held at held
  split at held
  next found stands =>
    cases held
    exact stands
  next => cases held

theorem ok_of_bind {first : Except ε α} {next : α → Except ε β}
    (ended : (first >>= next) = .ok b) : ∃ a, first = .ok a ∧ next a = .ok b := by
  cases first with
  | error e => cases ended
  | ok a => exact ⟨a, rfl, ended⟩

/-- Names are followed to where they lead. -/
theorem follow_of_walk (found : fs.walk location names = .ok target) :
    target = follow location names := by
  induction names generalizing location with
  | nil =>
    cases found
    rfl
  | cons name rest ih =>
    obtain ⟨-, -, walked⟩ := ok_of_bind found
    rw [follow]
    split at walked
    next dot => rw [if_pos dot, ih walked]
    next noDot =>
      rw [if_neg noDot]
      split at walked
      next dots => rw [if_pos dots, ih walked]
      next noDots =>
        rw [if_neg noDots]
        split at walked
        next => cases walked
        next =>
          split at walked
          next => cases walked
          next => exact ih walked

/-- A path that is found leads to its place. -/
theorem place_of_locate (found : fs.locate p = .ok location) : location = fs.place p := by
  obtain ⟨-, -, walked⟩ := ok_of_bind found
  have target := follow_of_walk walked
  rw [follow_append] at target
  rw [target, place]
  cases p.endsInSlash with
  | false => rfl
  | true => exact if_pos rfl

/-- How the last name of a path is found. -/
theorem walk_of_locateLast (found : fs.locateLast p = .ok (outer, some name)) :
    checkText p = .ok () ∧ (∃ front, p.names = front ++ [name] ∧
      fs.walk (fs.start p) front = .ok outer) ∧ fs.checkDirectory outer = .ok () ∧
      name ≠ "." ∧ name ≠ ".." ∧ ¬maxNameBytes < name.utf8ByteSize := by
  obtain ⟨⟨⟩, text, searched⟩ := ok_of_bind found
  refine ⟨text, ?_⟩
  split at searched
  next => cases searched
  next last ends =>
    obtain ⟨directory, walked, checked⟩ := ok_of_bind searched
    obtain ⟨⟨⟩, stands, named⟩ := ok_of_bind checked
    obtain ⟨front, names⟩ := List.getLast?_eq_some_iff.mp ends
    rw [names, List.dropLast_concat] at walked
    split at named
    next => cases named
    next proper =>
      split at named
      next => cases named
      next short =>
        cases named
        rw [not_or] at proper
        exact ⟨⟨front, names, walked⟩, stands, proper.1, proper.2, short⟩

/-- The place of a path whose last name is found lies in the directory of that name. -/
theorem place_of_locateLast (found : fs.locateLast p = .ok (outer, some name)) :
    fs.place p = name :: outer := by
  obtain ⟨-, ⟨front, names, walked⟩, -, dot, dots, -⟩ := walk_of_locateLast found
  rw [place, names, follow_append, ← follow_of_walk walked, follow_name _ _ dot dots]

/-- What reading a path gives is what is held at its place. -/
theorem held_of_read (found : fs.read p = .ok bytes) : fs.held p = some bytes := by
  obtain ⟨location, located, stands⟩ := ok_of_bind found
  rw [place_of_locate located] at stands
  rw [held]
  split at stands
  next => cases stands
  next file =>
    cases stands
    rw [file]
  next => cases stands

/-- Making a directory fills a place at which nothing stood. -/
theorem place_of_makeDirectory (made : fs.makeDirectory p = .ok after) :
    ∃ name outer, fs.place p = name :: outer ∧ fs.at? (name :: outer) = none ∧
      after = fs.put (name :: outer) .directory := by
  obtain ⟨⟨outer, last⟩, located, changed⟩ := ok_of_bind made
  cases last with
  | none => cases changed
  | some name =>
    refine ⟨name, outer, place_of_locateLast located, ?_⟩
    dsimp only at changed
    split at changed
    next => cases changed
    next free =>
      obtain ⟨-, -, done⟩ := ok_of_bind changed
      cases done
      exact ⟨by simpa using free, rfl⟩

/-- When a file can be made: its directory is there and open, and no directory is in its place. -/
theorem createFile_eq_ok_iff :
    fs.createFile p = .ok after ↔ ∃ name outer, fs.locateLast p = .ok (outer, some name) ∧
      p.endsInSlash = false ∧ (fs.at? (name :: outer)).any Entry.isDirectory = false ∧
      fs.checkUnsealed outer = .ok () ∧ after = fs.put (name :: outer) (.file .empty) := by
  constructor
  · intro made
    obtain ⟨⟨outer, last⟩, located, changed⟩ := ok_of_bind made
    cases last with
    | none => cases changed
    | some name =>
      refine ⟨name, outer, located, ?_⟩
      dsimp only at changed
      split at changed
      next => cases changed
      next plain =>
        rw [not_or, Bool.not_eq_true, Bool.not_eq_true] at plain
        obtain ⟨⟨⟩, unsealed, done⟩ := ok_of_bind changed
        cases done
        exact ⟨plain.1, plain.2, unsealed, rfl⟩
  · rintro ⟨name, outer, located, plain, free, unsealed, rfl⟩
    simp [createFile, located, plain, free, unsealed, bind, Except.bind, pure, Except.pure]

/-- Making a file changes its place only. -/
theorem place_of_createFile (made : fs.createFile p = .ok after) :
    ∃ name outer, fs.place p = name :: outer ∧
      after = fs.put (name :: outer) (.file .empty) := by
  obtain ⟨name, outer, located, -, -, -, after⟩ := createFile_eq_ok_iff.mp made
  exact ⟨name, outer, place_of_locateLast located, after⟩

/-- Writing at the end of a file changes its place only. -/
theorem place_of_appendFile (written : fs.appendFile p bytes = .ok after) :
    ∃ name outer before, fs.place p = name :: outer ∧
      fs.at? (name :: outer) = some (.file before) ∧
      after = fs.put (name :: outer) (.file (before ++ bytes)) := by
  obtain ⟨location, located, changed⟩ := ok_of_bind written
  rw [place_of_locate located] at changed
  cases place : fs.place p with
  | nil =>
    rw [place] at changed
    cases changed
  | cons name outer =>
    rw [place] at changed
    split at changed
    next => cases changed
    next before file =>
      cases changed
      exact ⟨name, outer, before, rfl, file, rfl⟩
    next => cases changed

theorem syncFile_eq (stored : fs.syncFile p = .ok after) : after = fs := by
  obtain ⟨-, -, done⟩ := ok_of_bind stored
  cases done
  rfl

/-- Moving a file clears one place and fills another, unless they are the same. -/
theorem rename_eq_ok {source target : FilePath} (moved : fs.rename source target = .ok after) :
    ∃ name outer targetName targetOuter bytes, fs.locateLast source = .ok (outer, some name) ∧
      fs.locateLast target = .ok (targetOuter, some targetName) ∧
      fs.at? (name :: outer) = some (.file bytes) ∧ target.endsInSlash = false ∧
      (fs.at? (targetName :: targetOuter)).any Entry.isDirectory = false ∧
      ((targetName :: targetOuter = name :: outer ∧ after = fs) ∨
        (fs.checkUnsealed targetOuter = .ok () ∧
          after = (fs.clear (name :: outer)).put (targetName :: targetOuter) (.file bytes))) := by
  obtain ⟨⟨outer, last⟩, located, rest⟩ := ok_of_bind moved
  obtain ⟨⟨targetOuter, targetLast⟩, targetLocated, changed⟩ := ok_of_bind rest
  cases last with
  | none => cases changed
  | some name =>
    cases targetLast with
    | none => cases changed
    | some targetName =>
      refine ⟨name, outer, targetName, targetOuter, ?_⟩
      dsimp only at changed
      split at changed
      next => cases changed
      next bytes file =>
        refine ⟨bytes, located, targetLocated, file, ?_⟩
        split at changed
        next => cases changed
        next plain =>
          rw [not_or, Bool.not_eq_true, Bool.not_eq_true] at plain
          refine ⟨plain.2, ?_⟩
          split at changed
          next => cases changed
          next free =>
            refine ⟨(Bool.not_eq_true _).mp free, ?_⟩
            split at changed
            next same =>
              cases changed
              exact .inl ⟨same, rfl⟩
            next =>
              obtain ⟨⟨⟩, unsealed, done⟩ := ok_of_bind changed
              cases done
              exact .inr ⟨unsealed, rfl⟩
      next => cases changed

/-- Removing a file clears its place. -/
theorem place_of_remove (removed : fs.remove p = .ok after) :
    ∃ name outer bytes, fs.place p = name :: outer ∧
      fs.at? (name :: outer) = some (.file bytes) ∧ after = fs.clear (name :: outer) := by
  obtain ⟨⟨outer, last⟩, located, changed⟩ := ok_of_bind removed
  cases last with
  | none => cases changed
  | some name =>
    dsimp only at changed
    split at changed
    next => cases changed
    next bytes file =>
      split at changed
      next => cases changed
      next =>
        cases changed
        exact ⟨name, outer, bytes, place_of_locateLast located, file, rfl⟩
    next => cases changed

end FileSystem

end ClientGen.Files
