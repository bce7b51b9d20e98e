import ClientGen.Proofs.Output
import ClientGen.Proofs.Output.Directories

/-!
Replacing a target again. Content is staged and moved without fault exactly if files can be made at
both places, which depends on the directories alone. What could not be replaced cannot be replaced
from the files that were left either.
-/
namespace ClientGen.Output
open Files Plan

variable {host other : Host} {p target : FilePath}

section Staging

variable {files now : FileSystem}

/-- What filling a file may lead to: the directories are the same, and if it went well, then a file
could be made there. -/
def Tried (files : FileSystem) (p : FilePath) (outcome : Except ε Unit) (after : FileSystem) :
    Prop :=
  files.Alike after ∧ (outcome = .ok () → files.CanFill p)

private theorem tried_of_error {after : FileSystem} (alike : files.Alike after) (error : ε) :
    Tried files p (.error error) after :=
  ⟨alike, fun impossible => by cases impossible⟩

private theorem ensures_alike_appendAll (p : FilePath) (pieces : List ByteArray)
    (alike : files.Alike now) :
    Ensures (fun _ => True) (fun _ => files.Alike) (appendAll p pieces) now := by
  refine ensures_appendAll_keeps p pieces alike ?_
  intro now piece alike answer after changed
  exact changed.elim (fun _ => files.Alike)
    (fun written => alike.trans (.of_appendFile written)) fun _ => alike

private theorem ensures_tried_fill (files : FileSystem) (p : FilePath) (pieces : List ByteArray) :
    Ensures (fun _ => True) (Tried files p) (fill p pieces) files := by
  have made : ∀ answer after, (Request.createFile p).Allows files after answer →
      Tried files p answer after := by
    intro answer after changed
    exact changed.elim (Tried files p)
      (fun made => ⟨.of_createFile made, fun _ => ⟨after, made⟩⟩) (tried_of_error (.refl files))
  refine ensures_bind (ensures_request (fun _ _ _ => trivial) made) ?_
  rintro outcome now ⟨alike, fills⟩
  cases outcome with
  | error fault => exact .done (tried_of_error alike fault)
  | ok =>
    refine ensures_bind (ensures_alike_appendAll p pieces alike) ?_
    intro outcome now alike
    cases outcome with
    | error fault => exact .done (tried_of_error alike fault)
    | ok =>
      have stored : ∀ answer after, (Request.syncFile p).Allows now after answer →
          Tried files p answer after := by
        intro answer after changed
        refine changed.elim (Tried files p) (fun stored => ?_) fun _ => ⟨alike, fun _ => fills rfl⟩
        rw [FileSystem.syncFile_eq stored]
        exact ⟨alike, fun _ => fills rfl⟩
      exact ensures_request (fun _ _ _ => trivial) stored

/-- Staging and moving keep the directories, and if they went well, then files could be made at both
places. -/
theorem ensures_tried_stageAndMove (files : FileSystem) (target : FilePath)
    (pieces : List ByteArray) :
    Ensures (fun _ => True)
      (fun outcome after => Tried files (staging target) outcome after ∧
        Tried files target outcome after)
      (stageAndMove target pieces) files := by
  refine ensures_bind (ensures_tried_fill files (staging target) pieces) ?_
  rintro outcome now ⟨alike, fills⟩
  cases outcome with
  | error fault => exact .done ⟨tried_of_error alike _, tried_of_error alike _⟩
  | ok =>
    have moved : ∀ answer after, (Request.rename (staging target) target).Allows now after answer →
        Tried files target answer after := by
      intro answer after changed
      have apart := FileSystem.place_staging_ne now target
      exact changed.elim (Tried files target)
        (fun moved => ⟨alike.trans (.of_rename moved),
          fun _ => alike.symm.canFill (FileSystem.canFill_of_rename moved apart)⟩)
        (tried_of_error alike)
    refine ensures_bind (ensures_request (fun _ _ _ => trivial) moved) ?_
    rintro answer after ⟨alike, targetFills⟩
    cases answer with
    | ok => exact .done ⟨⟨alike, fun _ => fills rfl⟩, ⟨alike, fun _ => targetFills rfl⟩⟩
    | error fault => exact .done ⟨tried_of_error alike _, tried_of_error alike _⟩

/-- What can be read is written at its end without fault, and can be read again. -/
theorem run_appendAll (pieces : List ByteArray) (found : host.files.read p = .ok content) :
    ∃ filled content, host.run (appendAll p pieces) = (.ok (), filled) ∧
      filled.files.read p = .ok content := by
  induction pieces generalizing host content with
  | nil => exact ⟨host, content, rfl, found⟩
  | cons piece rest ih =>
    obtain ⟨after, written⟩ := FileSystem.appendFile_of_read found piece
    have answer : host.run (request (.appendFile p piece)) = host.change (.ok after) :=
      congrArg host.change written
    rw [appendAll, Host.run_bind, answer]
    exact ih (FileSystem.read_of_appendFile found written)

/-- Where a file can be made it is filled without fault. -/
theorem run_fill (pieces : List ByteArray) (fills : host.files.CanFill p) :
    ∃ filled content, host.run (fill p pieces) = (.ok (), filled) ∧
      filled.files.read p = .ok content := by
  obtain ⟨after, made⟩ := fills
  have answer : host.run (request (.createFile p)) = host.change (.ok after) :=
    congrArg host.change made
  have empty : (host.change (.ok after)).2.files.read p = .ok .empty :=
    FileSystem.read_of_createFile made
  obtain ⟨filled, content, appended, found⟩ := run_appendAll pieces empty
  have stored : filled.run (request (.syncFile p)) = filled.change (.ok filled.files) :=
    congrArg filled.change (FileSystem.syncFile_of_read found)
  refine ⟨filled, content, ?_, found⟩
  rw [fill, Host.run_bind, answer]
  dsimp only [Host.change]
  rw [Host.run_bind]
  dsimp only [Host.change] at appended
  rw [appended]
  exact stored

/-- Content is staged and moved without fault exactly if files can be made at both places. -/
theorem stageAndMove_ok_iff (host : Host) (target : FilePath) (pieces : List ByteArray) :
    (host.run (stageAndMove target pieces)).1 = .ok () ↔
      host.files.CanFill (staging target) ∧ host.files.CanFill target := by
  constructor
  · intro done
    obtain ⟨staged, moved⟩ := (ensures_tried_stageAndMove host.files target pieces).run host
    exact ⟨staged.2 done, moved.2 done⟩
  · rintro ⟨fills, targetFills⟩
    have tried := (ensures_tried_fill host.files (staging target) pieces).run host
    obtain ⟨filled, content, staged, found⟩ := run_fill pieces fills
    rw [staged] at tried
    obtain ⟨after, moved⟩ := FileSystem.rename_of_canFill (FileSystem.held_of_read found)
      (tried.1.canFill fills) (tried.1.canFill targetFills)
    have answer : ∀ source, filled.run (request (.rename source target)) =
        filled.change (filled.files.rename source target) := fun _ => rfl
    rw [stageAndMove, Host.run_bind, staged]
    dsimp only
    rw [Host.run_bind, answer, moved]
    rfl

end Staging

section Replacing

private theorem run_replacePieces (host : Host) (target : FilePath) (pieces : List ByteArray) :
    host.run (replacePieces target pieces) =
      match host.run (makeDirectories (directory target).ancestors) with
      | (.error fault, opened) => (.error (.write (directory target) fault), opened)
      | (.ok (), opened) =>
        match opened.run (stageAndMove target pieces) with
        | (.ok (), moved) => (.ok (), moved)
        | (.error error, staged) =>
          (.error error, (staged.run (request (.remove (staging target)))).2) := by
  rw [replacePieces, Host.run_bind]
  cases host.run (makeDirectories (directory target).ancestors) with
  | mk outcome opened =>
    cases outcome with
    | error fault => rfl
    | ok =>
      dsimp only
      rw [Host.run_bind]
      cases opened.run (stageAndMove target pieces) with
      | mk outcome staged =>
        cases outcome with
        | ok => rfl
        | error error =>
          dsimp only
          rw [Host.run_bind]
          rfl

private theorem alike_remove (host : Host) (p : FilePath) :
    host.files.Alike (host.run (request (.remove p))).2.files := by
  have changed : Changes host.files (host.files.remove p) _ _ := host.allows_answer (.remove p)
  exact changed.elim (fun _ => host.files.Alike) (fun removed => .of_remove removed)
    fun _ => .refl host.files

/-- If content could be staged and moved from the files that a try has left, the try went well. -/
theorem stageAndMove_before (target : FilePath) (pieces more : List ByteArray)
    (alike : host.files.Alike other.files)
    (moved : (other.run (stageAndMove target more)).1 = .ok ()) :
    (host.run (stageAndMove target pieces)).1 = .ok () := by
  obtain ⟨fills, targetFills⟩ := (stageAndMove_ok_iff other target more).mp moved
  exact (stageAndMove_ok_iff host target pieces).mpr
    ⟨alike.symm.canFill fills, alike.symm.canFill targetFills⟩

/-- If a target can be replaced from the files that replacing it has left, it was replaced. -/
theorem replacePieces_before (target : FilePath) (pieces more : List ByteArray)
    (left : other.files = (host.run (replacePieces target pieces)).2.files)
    (replaced : (other.run (replacePieces target more)).1 = .ok ()) :
    (host.run (replacePieces target pieces)).1 = .ok () := by
  obtain ⟨chain, rest, paths⟩ := FilePath.isChain_ancestors (directory target)
  rw [run_replacePieces] at left replaced ⊢
  split at replaced
  next => cases replaced
  next opened otherMade =>
    split at left
    next fault closed made =>
      have same : other.files =
          (host.run (makeDirectories (directory target).ancestors)).2.files := by rw [made, left]
      have before := makeDirectories_before _ chain same (congrArg Prod.fst otherMade)
      rw [made] at before
      cases before
    next ready made =>
      split at left
      next => rfl
      next error staged failed =>
        -- What was staged and removed since then has left the directories as they were.
        have tried := ((ensures_tried_stageAndMove ready.files target pieces).run ready).1.1
        rw [failed] at tried
        have removed : staged.files.Alike other.files := by
          rw [left]
          dsimp only
          exact alike_remove staged (staging target)
        have alike := tried.trans removed
        rw [paths] at made otherMade
        rw [makeDirectories_again made alike] at otherMade
        cases otherMade
        split at replaced
        next moved done =>
          have before := stageAndMove_before target pieces more alike (congrArg Prod.fst done)
          rw [failed] at before
          cases before
        next => cases replaced

theorem run_replaceIfChanged (host : Host) (target : FilePath) (content : String) :
    host.run (replaceIfChanged target content).run =
      if holds (host.files.read target) content then
        (.ok false, (host.run (Attempt.report (.unchangedOutput target.text)).run).2)
      else
        match host.run (replacePieces target [content.toUTF8]) with
        | (.ok (), moved) => (.ok true, moved)
        | (.error error, left) => (.error error, left) := by
  change host.run (ExceptT.run (if holds (host.files.read target) content then _ else _)) = _
  split
  · rfl
  · have replaced : (replace target content).run = replacePieces target [content.toUTF8] := rfl
    rw [Attempt.run_bind, Host.run_bind, replaced]
    cases host.run (replacePieces target [content.toUTF8]) with
    | mk outcome left =>
      cases outcome with
      | ok => rfl
      | error error => rfl

/-- Where a target could not be replaced, it is not replaced by other content either. -/
theorem replaceIfChanged_after_error (target : FilePath) (content more : String)
    (failed : (host.run (replaceIfChanged target content).run).1 = .error error)
    (left : other.files = (host.run (replaceIfChanged target content).run).2.files) :
    (other.run (replaceIfChanged target more).run).1 ≠ .ok true := by
  intro written
  rw [run_replaceIfChanged] at failed left written
  split at written
  next => cases written
  next =>
    split at written
    next moved replaced =>
      split at failed
      next => cases failed
      next changed =>
        rw [if_neg changed] at left
        split at failed
        next => cases failed
        next error after step =>
          have same : other.files =
              (host.run (replacePieces target [content.toUTF8])).2.files := by
            rw [left, step]
          have before := replacePieces_before target [content.toUTF8] [more.toUTF8] same
            (congrArg Prod.fst replaced)
          rw [step] at before
          cases before
    next => cases written

end Replacing

end ClientGen.Output
