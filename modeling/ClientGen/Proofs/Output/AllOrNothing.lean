import ClientGen.Proofs.Files.Finding
import ClientGen.Proofs.Output
import ClientGen.Proofs.Plan.Steps

/-!
Runs of a replacement. At every step the target holds what it held before or all of the content, and
in the end nothing is left of the staged file, as long as a file that is there can be removed. All
else stands as it stood, and only directories above the target are new.
-/
namespace ClientGen.Output
open Files Plan

variable {before ready now after : FileSystem} {target : FilePath}

section Leftovers

/-- Files in which the staged file of a target can be read. -/
def Readable (target : FilePath) (now : FileSystem) : Prop :=
  ∃ bytes, now.read (staging target) = .ok bytes

/-- What staging leaves behind: the files as they were when it began, or a staged file that can be
read. -/
def LeftBehind (ready : FileSystem) (target : FilePath) (now : FileSystem) : Prop :=
  now = ready ∨ Readable target now

/-- Once a staged file is there it stays, whether or not more of its content can be written. -/
theorem ensures_readable_appendAll (pieces : List ByteArray) (readable : Readable target now) :
    Ensures (fun _ => True) (fun _ => Readable target) (appendAll (staging target) pieces) now := by
  refine ensures_appendAll_keeps (staging target) pieces readable ?_
  rintro now piece ⟨bytes, found⟩ answer after changed
  exact changed.elim (fun _ => Readable target)
    (fun written => ⟨_, FileSystem.read_of_appendFile found written⟩) fun _ => ⟨bytes, found⟩

private theorem ensures_leftBehind_fill (ready : FileSystem) (target : FilePath)
    (pieces : List ByteArray) :
    Ensures (fun _ => True) (fun _ => LeftBehind ready target) (fill (staging target) pieces)
      ready := by
  have made : ∀ answer after, (Request.createFile (staging target)).Allows ready after answer →
      (answer = .ok () → Readable target after) ∧ (answer ≠ .ok () → after = ready) := by
    intro answer after changed
    exact changed.elim
      (fun answer after => (answer = .ok () → Readable target after) ∧
        (answer ≠ .ok () → after = ready))
      (fun made =>
        ⟨fun _ => ⟨_, FileSystem.read_of_createFile made⟩, fun failed => absurd rfl failed⟩)
      fun fault => ⟨fun impossible => (by cases impossible), fun _ => rfl⟩
  refine ensures_bind (ensures_request (fun _ _ _ => trivial) made) ?_
  rintro outcome state ⟨readable, unchanged⟩
  cases outcome with
  | error fault => exact .done (.inl (unchanged (by simp)))
  | ok =>
    refine ensures_bind (ensures_readable_appendAll pieces (readable rfl)) ?_
    intro outcome state readable
    cases outcome with
    | error fault => exact .done (.inr readable)
    | ok =>
      have stored : ∀ answer after, (Request.syncFile (staging target)).Allows state after answer →
          LeftBehind ready target after := by
        intro answer after changed
        refine changed.elim (fun _ => LeftBehind ready target) (fun stored => ?_)
          fun _ => .inr readable
        rw [FileSystem.syncFile_eq stored]
        exact .inr readable
      exact ensures_request (fun _ _ _ => trivial) stored

/-- What has become of the staged file of a target: it is gone when all went well. -/
def Unstaged (ready : FileSystem) (target : FilePath) : Except Error Unit → FileSystem → Prop
  | .ok (), now => now.at? (now.place (staging target)) = none
  | .error _, now => LeftBehind ready target now

theorem ensures_unstaged (ready : FileSystem) (target : FilePath) (pieces : List ByteArray) :
    Ensures (fun _ => True) (Unstaged ready target) (stageAndMove target pieces) ready := by
  refine ensures_bind (ensures_leftBehind_fill ready target pieces) ?_
  intro outcome state left
  cases outcome with
  | error fault => exact .done left
  | ok =>
    have moved : ∀ answer after,
        (Request.rename (staging target) target).Allows state after answer →
        Unstaged ready target (answer.mapError (.write target)) after := by
      intro answer after changed
      have apart := FileSystem.place_staging_ne state target
      exact changed.elim (fun answer => Unstaged ready target (answer.mapError (.write target)))
        (fun moved => FileSystem.at?_of_rename moved apart) fun _ => left
    refine ensures_bind (ensures_request (fun _ _ _ => trivial) moved) ?_
    intro answer last unstaged
    cases answer with
    | ok => exact .done unstaged
    | error fault => exact .done unstaged

end Leftovers

/-- Nothing is left of a staged file whose content was not moved, if it could be removed. -/
theorem unstaged_of_remove (opened : Opened before target ready)
    (left : LeftBehind ready target now) {answer : Except Fault Unit}
    (changed : (Request.remove (staging target)).Allows now after answer)
    (removes : now.isFile (staging target) = true → answer = .ok ()) :
    after.isFile (staging target) = false ∧
      (after.at? (after.place (staging target)) = none ∨
        Kept before target after (after.place (staging target))) := by
  cases answer with
  | ok =>
    have gone := FileSystem.at?_of_remove changed
    exact ⟨FileSystem.isFile_eq_false gone, .inl gone⟩
  | error fault =>
    obtain rfl : after = now := changed
    have missing : after.isFile (staging target) = false := by
      cases found : after.isFile (staging target) with
      | false => rfl
      | true => cases removes found
    refine ⟨missing, ?_⟩
    rcases left with rfl | ⟨bytes, readable⟩
    · exact .inr (opened.everywhere _)
    · rw [FileSystem.isFile_of_read readable] at missing
      cases missing

/-- Making the directories above a target changes nothing else. -/
theorem opened_of_opening
    (opens : Runs (makeDirectories (directory target).ancestors) before opening outcome ready) :
    Opened before target ready :=
  ((ensures_makeDirectories (directory target).ancestors (fun _ listed => listed)
    (Opened.refl before target)).along opens).2

/-- Once the directories above a target are there, nothing is left of its staged file. -/
theorem unstaged_of_opening
    (ran : Runs (replacePieces target pieces) before (opening ++ rest) outcome after)
    (opens : Runs (makeDirectories (directory target).ancestors) before opening (.ok ()) ready)
    (removes : ∀ step ∈ rest, step.RemovesFile) :
    after.isFile (staging target) = false ∧
      (after.at? (after.place (staging target)) = none ∨
        Kept before target after (after.place (staging target))) := by
  have opened : Opened before target ready := opened_of_opening opens
  obtain ⟨front, made, state, back, same, first, going⟩ := (runs_bind _ _).mp ran
  obtain ⟨rfl, rfl, rfl, rfl⟩ := opens.unique first same
  obtain ⟨front, moved, left, back, rfl, staged, ending⟩ := (runs_bind _ _).mp going
  have unstaged := ((ensures_unstaged ready target pieces).along staged).2
  cases moved with
  | ok =>
    cases ending
    exact ⟨FileSystem.isFile_eq_false unstaged, .inl unstaged⟩
  | error error =>
    cases ending with
    | ask changed done =>
      cases done
      have removed := removes _ (List.mem_append_right front List.mem_cons_self)
      exact unstaged_of_remove opened unstaged changed removed

/-- Replacing a target in any number of pieces is all or nothing. At every step the target holds
what it held before or all of the content, and in the end the content exactly if nothing failed.
Nothing else changes but for missing directories above the target, and once these are there nothing
is left of the staged file, unless it can not be removed. This is about trees of plain files and
directories, without links. -/
theorem replaced_all_or_nothing (content : String) (complete : whole pieces = content.toUTF8)
    (ran : Runs (replacePieces target pieces) before steps outcome after) :
    (∀ step ∈ steps, step.after.held target = before.held target ∨
        step.after.read target = .ok content.toUTF8) ∧
      (outcome = .ok () → after.read target = .ok content.toUTF8) ∧
      (outcome ≠ .ok () → after.held target = before.held target) ∧
      (∀ location, location ≠ before.place (staging target) →
        (outcome = .ok () → location ≠ before.place target) → Kept before target after location) ∧
      ∀ opening rest ready, steps = opening ++ rest →
        Runs (makeDirectories (directory target).ancestors) before opening (.ok ()) ready →
        (∀ step ∈ rest, step.RemovesFile) →
        after.isFile (staging target) = false ∧
          (after.at? (before.place (staging target)) = none ∨
            Kept before target after (before.place (staging target))) := by
  obtain ⟨always, ended⟩ := (ensures_replacePieces before target pieces).along ran
  rw [complete] at always ended
  have directory : after.workingDirectory = before.workingDirectory := by
    cases outcome with
    | ok => exact Moved.workingDirectory ended
    | error error => exact Prepared.workingDirectory ended
  refine ⟨?_, ?_, ?_, ?_, ?_⟩
  · intro step member
    rcases always step member with prepared | moved
    · exact .inl prepared.held
    · exact .inr moved.readable
  · rintro rfl
    exact Moved.readable ended
  · intro failed
    cases outcome with
    | ok => exact absurd rfl failed
    | error error => exact Prepared.held ended
  · intro location notStaging notTarget
    cases outcome with
    | ok => exact Moved.elsewhere ended location notStaging (notTarget rfl)
    | error error => exact Prepared.elsewhere ended location notStaging
  · rintro opening rest ready rfl opens removes
    rw [← place_eq directory]
    exact unstaged_of_opening ran opens removes

namespace Refused

/-- A module in its file. -/
def kept : FileSystem := ⟨[(["client.ts"], .file "old".toUTF8)], []⟩

/-- The same module beside what an earlier run has left in the staging file. -/
def found : FileSystem := kept.put [".client.ts.routegen-tmp"] (.file "stale".toUTF8)

def emptied : FileSystem := found.put [".client.ts.routegen-tmp"] (.file .empty)

/-- The staging file holds the new module. -/
def filled : FileSystem := found.put [".client.ts.routegen-tmp"] (.file "new".toUTF8)

/-- The directory of the module is there. -/
def opening : List Step := [
  ⟨.makeDirectory ⟨"/"⟩, found, (.error .exists : Except Fault Unit), found⟩,
  ⟨.isDirectory ⟨"/"⟩, found, true, found⟩]

/-- The new module is staged, but the system refuses to move it. -/
def rest : List Step := [
  ⟨.createFile (staging ⟨"/client.ts"⟩), found, (.ok () : Except Fault Unit), emptied⟩,
  ⟨.appendFile (staging ⟨"/client.ts"⟩) "new".toUTF8, emptied, (.ok () : Except Fault Unit),
    filled⟩,
  ⟨.syncFile (staging ⟨"/client.ts"⟩), filled, (.ok () : Except Fault Unit), filled⟩,
  ⟨.rename (staging ⟨"/client.ts"⟩) ⟨"/client.ts"⟩, filled, (.error .busy : Except Fault Unit),
    filled⟩,
  ⟨.remove (staging ⟨"/client.ts"⟩), filled, (.ok () : Except Fault Unit), kept⟩]

private theorem runs_opening :
    Runs (makeDirectories (directory ⟨"/client.ts"⟩).ancestors) found opening (.ok ()) found := by
  have above : (directory ⟨"/client.ts"⟩).ancestors = [⟨"/"⟩] := by decide +kernel
  have root : found.isDirectory ⟨"/"⟩ = true := by decide +kernel
  rw [above]
  exact .ask rfl (.ask ⟨rfl, fun _ => root⟩ .done)

theorem runs_replacePieces :
    Runs (replacePieces ⟨"/client.ts"⟩ ["new".toUTF8]) found (opening ++ rest)
      (.error (.write ⟨"/client.ts"⟩ .busy)) kept := by
  refine (runs_bind _ _).mpr ⟨_, _, _, _, rfl, runs_opening, ?_⟩
  have hidden : staging ⟨"/client.ts"⟩ = ⟨"/.client.ts.routegen-tmp"⟩ := by decide +kernel
  have made : found.createFile ⟨"/.client.ts.routegen-tmp"⟩ = .ok emptied := rfl
  have written : emptied.appendFile ⟨"/.client.ts.routegen-tmp"⟩ "new".toUTF8 = .ok filled := rfl
  have stored : filled.syncFile ⟨"/.client.ts.routegen-tmp"⟩ = .ok filled := rfl
  have removed : filled.remove ⟨"/.client.ts.routegen-tmp"⟩ = .ok kept := rfl
  unfold rest
  dsimp only
  unfold stageAndMove
  rw [hidden]
  exact .ask made (.ask written (.ask stored (.ask rfl (.ask removed .done))))

end Refused

/-- The old module is still there when the new one could not be moved, and what was staged is
gone. -/
theorem replaced_all_or_nothing_refused :
    Runs (replacePieces ⟨"/client.ts"⟩ ["new".toUTF8]) Refused.found
        (Refused.opening ++ Refused.rest) (.error (.write ⟨"/client.ts"⟩ .busy)) Refused.kept ∧
      Refused.kept.held ⟨"/client.ts"⟩ = Refused.found.held ⟨"/client.ts"⟩ ∧
      Refused.kept.isFile (staging ⟨"/client.ts"⟩) = false := by
  have complete : whole ["new".toUTF8] = "new".toUTF8 := ByteArray.empty_append
  have removes : ∀ step ∈ Refused.rest, step.RemovesFile := by
    simp [Refused.rest, Step.RemovesFile]
  obtain ⟨-, -, held, -, unstaged⟩ :=
    replaced_all_or_nothing "new" complete Refused.runs_replacePieces
  exact ⟨Refused.runs_replacePieces, held (by simp),
    (unstaged _ _ _ rfl Refused.runs_opening removes).1⟩

end ClientGen.Output
