import ClientGen.Proofs.Generate
import ClientGen.Proofs.Output.AllOrNothing

/-!
Runs that fail. Loading and compiling change no files, and after that only writing can fail. So a
failure to write leaves at most new directories and a staged file that could not be removed, and any
other failure leaves all files as they were. What a file holds outlasts every row of failures,
whatever is done to the payload and the configuration between them.
-/
namespace ClientGen
open Files Plan

def Error.IsWrite (error : Error) : Prop := ∃ path fault, error = .write path fault

namespace Output

variable {before after : FileSystem} {target : FilePath} {pieces : List ByteArray}

private theorem isWrite_of_stageAndMove
    (failed : Runs (stageAndMove target pieces) before steps (.error error) after) :
    error.IsWrite := by
  obtain ⟨_, filled, _, _, -, -, moving⟩ := (runs_bind _ _).mp failed
  cases filled with
  | error fault =>
    cases moving
    exact ⟨_, _, rfl⟩
  | ok =>
    obtain ⟨_, moved, _, _, -, -, ending⟩ := (runs_bind _ _).mp moving
    cases moved with
    | error fault =>
      cases ending
      exact ⟨_, _, rfl⟩
    | ok => cases ending

/-- A replacement fails by a failure to write, either while the directories above the target are
made or after that. -/
theorem runs_replacePieces_error
    (failed : Runs (replacePieces target pieces) before steps (.error error) after) :
    error.IsWrite ∧ (Opened before target after ∨ ∃ opening rest ready, steps = opening ++ rest ∧
      Runs (makeDirectories (directory target).ancestors) before opening (.ok ()) ready) := by
  obtain ⟨opening, made, ready, rest, rfl, opens, going⟩ := (runs_bind _ _).mp failed
  cases made with
  | error fault =>
    have opened : Opened before target ready := opened_of_opening opens
    cases going
    exact ⟨⟨_, _, rfl⟩, .inl opened⟩
  | ok =>
    obtain ⟨_, moved, _, _, -, staged, ending⟩ := (runs_bind _ _).mp going
    cases moved with
    | ok => cases ending
    | error own =>
      have isWrite := isWrite_of_stageAndMove staged
      obtain ⟨_, removed, _, _, -, -, done⟩ := (runs_bind _ _).mp ending
      cases done
      exact ⟨isWrite, .inr ⟨opening, rest, ready, rfl, opens⟩⟩

/-- After a failure the staging place is empty or as it was, if a file that is there can be
removed. -/
theorem unstaged_of_error
    (failed : Runs (replacePieces target pieces) before steps (.error error) after)
    (removes : ∀ step ∈ steps, step.RemovesFile) :
    after.at? (before.place (staging target)) = none ∨
      Kept before target after (before.place (staging target)) := by
  rcases (runs_replacePieces_error failed).2 with opened | ⟨opening, rest, ready, rfl, opens⟩
  · exact .inr (opened.everywhere _)
  · have prepared : Prepared before target after :=
      ((ensures_replacePieces before target pieces).along failed).2
    have ended := unstaged_of_opening failed opens
      fun step listed => removes step (List.mem_append_right opening listed)
    rw [← place_eq prepared.workingDirectory]
    exact ended.2

end Output

namespace Attempt

/-- Going on with a traced result changes no files and does not fail. -/
theorem ensures_ofTraced (traced : Traced α) (files : FileSystem) :
    Ensures (· = files) (fun outcome after => outcome = .ok traced.result ∧ after = files)
      (ofTraced traced).run files := by
  have reported (diagnostics : List Diagnostic) : Ensures (· = files)
      (fun outcome after => outcome = .ok () ∧ after = files)
      (reportAll diagnostics).run files := by
    induction diagnostics with
    | nil => exact .done ⟨rfl, rfl⟩
    | cons first rest ih =>
      refine .ask (fun _ _ same => same) ?_
      rintro _ after rfl
      exact ih
  rw [ofTraced, run_bind]
  refine ensures_bind (reported traced.diagnostics) ?_
  rintro outcome after ⟨rfl, rfl⟩
  exact .done ⟨rfl, rfl⟩

end Attempt

/-- A failure to update a target is a failure to replace it, after it was read. -/
theorem Output.runs_replaceIfChanged_error
    (failed : Runs (replaceIfChanged target content).run before steps (.error error) after) :
    ∃ front rest, steps = front ++ rest ∧
      Runs (replacePieces target [content.toUTF8]) before rest (.error error) after := by
  rcases Attempt.runs_bind_error failed with
    reading | ⟨front, answer, ready, rest, rfl, reading, going⟩
  · cases reading with
    | ask allowed done => cases done
  · have same : ready = before := by
      cases reading with
      | ask allowed done =>
        cases done
        exact allowed.1
    subst same
    split at going
    next =>
      cases going with
      | ask allowed done => cases done
    next =>
      rcases Attempt.runs_bind_error going with replacing | ⟨_, _, _, _, -, -, ending⟩
      · exact ⟨front, rest, rfl, replacing⟩
      · cases ending

/-- Once a target is updated nothing fails. -/
theorem runs_finish_error
    (failed : Runs (finish path content count).run before steps (.error error) after) :
    Runs (Output.replaceIfChanged path content).run before steps (.error error) after := by
  rcases Attempt.runs_bind_error failed with updating | ⟨_, isWritten, _, _, -, -, ending⟩
  · exact updating
  · cases isWritten with
    | false => cases ending
    | true =>
      cases ending with
      | ask allowed done => cases done

/-- Generation fails before it changes any files, or in replacing its target. -/
theorem runs_generate_error
    (failed : Runs (generate policy config seconds).run before steps (.error error) after) :
    ((∀ step ∈ steps, step.after = before) ∧ after = before) ∨
      ∃ content front rest, steps = front ++ rest ∧
        Runs (Output.replacePieces config.outputPath [content]) before rest (.error error)
          after := by
  -- Of the three parts of a run the middle one cannot fail.
  have reads := readsOnly_loadOperations policy config before
  rcases Attempt.runs_bind_error failed with loading | ⟨front, ops, _, rest, rfl, loads, emits⟩
  · exact .inl (reads.along loading)
  · obtain ⟨-, rfl⟩ := reads.along loads
    rcases Attempt.runs_bind_error emits with
      compiling | ⟨more, _, _, rest, rfl, compiles, finishes⟩
    · obtain ⟨-, impossible, -⟩ := (Attempt.ensures_ofTraced _ _).along compiling
      cases impossible
    · obtain ⟨-, -, rfl⟩ := (Attempt.ensures_ofTraced _ _).along compiles
      obtain ⟨reading, rest, rfl, replacing⟩ :=
        Output.runs_replaceIfChanged_error (runs_finish_error finishes)
      refine .inr ⟨_, front ++ more ++ reading, rest, ?_, replacing⟩
      simp only [List.append_assoc]

/-- Generation as it went: what it was told, the files before it, its steps, and how it ended. -/
structure Generation where
  policy : Introspection.RetryPolicy
  config : Config
  seconds : Int
  before : FileSystem
  steps : List Step
  outcome : Except Error Report
  after : FileSystem
  ran : Runs (generate policy config seconds).run before steps outcome after

namespace Generation

def target (run : Generation) : FilePath := run.config.outputPath

def stagingPlace (run : Generation) : Location := run.before.place (Output.staging run.target)

/-- A run that ends with an error. -/
def Failed (run : Generation) : Prop := ∃ error, run.outcome = .error error

/-- Between two runs anything may have changed but what a path holds. -/
def Untouched (path : FilePath) (one next : Generation) : Prop :=
  next.before.held path = one.after.held path

/-- Generation fails before it changes any files, or in replacing its target. -/
theorem failed_cases (run : Generation) (failed : run.outcome = .error error) :
    ((∀ step ∈ run.steps, step.after = run.before) ∧ run.after = run.before) ∨
      ∃ content front rest, run.steps = front ++ rest ∧
        Runs (Output.replacePieces run.target [content]) run.before rest (.error error)
          run.after := by
  have ran := run.ran
  rw [failed] at ran
  exact runs_generate_error ran

/-- Only a failure to write can leave a trace. -/
theorem unchanged_of_failed (run : Generation) (failed : run.outcome = .error error)
    (other : ¬error.IsWrite) :
    (∀ step ∈ run.steps, step.after = run.before) ∧ run.after = run.before := by
  rcases run.failed_cases failed with unchanged | ⟨content, front, rest, -, replacing⟩
  · exact unchanged
  · exact absurd (Output.runs_replacePieces_error replacing).1 other

/-- A failure leaves every place as it was but for the staging place and for new directories. -/
theorem prepared_of_failed (run : Generation) (failed : run.outcome = .error error) :
    Output.Prepared run.before run.target run.after := by
  rcases run.failed_cases failed with ⟨-, same⟩ | ⟨content, front, rest, -, replacing⟩
  · rw [same]
    exact .refl run.before run.target
  · exact ((Output.ensures_replacePieces run.before run.target [content]).along replacing).2

/-- A failure leaves nothing at the staging place that was not there, unless it cannot be
removed. -/
theorem unstaged_of_failed (run : Generation) (failed : run.outcome = .error error)
    (removes : ∀ step ∈ run.steps, step.RemovesFile) :
    run.after.at? run.stagingPlace = none ∨
      Output.Kept run.before run.target run.after run.stagingPlace := by
  rcases run.failed_cases failed with ⟨-, same⟩ | ⟨content, front, rest, steps, replacing⟩
  · rw [same]
    exact .inr (.inl rfl)
  · rw [steps] at removes
    exact Output.unstaged_of_error replacing
      fun step listed => removes step (List.mem_append_right front listed)

def FailsBeside (path : FilePath) (run : Generation) : Prop :=
  run.Failed ∧ (run.target = path ∨ run.before.place path ≠ run.stagingPlace)

theorem FailsBeside.held {run : Generation} (fails : FailsBeside path run) :
    run.after.held path = run.before.held path := by
  obtain ⟨⟨error, failed⟩, beside⟩ := fails
  have prepared := run.prepared_of_failed failed
  rcases beside with rfl | apart
  · exact prepared.held
  · exact prepared.held_of_ne apart

/-- A row of failures leaves what the last run before it has left. -/
theorem held_of_streak (earlier : Generation) (streak : List Generation)
    (chain : (earlier :: streak).IsChain (Untouched path))
    (fail : ∀ run ∈ streak, FailsBeside path run) :
    ∀ run ∈ streak, run.after.held path = earlier.after.held path := by
  induction streak generalizing earlier with
  | nil => exact List.forall_mem_nil _
  | cons first rest ih =>
    obtain ⟨untouched, chain⟩ := List.isChain_cons_cons.mp chain
    obtain ⟨fails, others⟩ := List.forall_mem_cons.mp fail
    have same : first.after.held path = earlier.after.held path := fails.held.trans untouched
    refine List.forall_mem_cons.mpr ⟨same, ?_⟩
    intro run listed
    exact (ih first chain others run listed).trans same

/-- A failed run changes no files, at any step, unless it fails to write. If it does, every place
but the one where it stages holds what it held, or is a directory above its target that was missing,
and nothing new is left at that place unless it cannot be removed. So of runs that follow each other
over a file that nothing else touches, a row of failed ones leaves there what the last run before
them has left. The files are a tree without links, as `FileSystem` has it. -/
theorem failed_runs_change_nothing (run : Generation) (failed : run.outcome = .error error) :
    (¬error.IsWrite → (∀ step ∈ run.steps, step.after = run.before) ∧ run.after = run.before) ∧
      run.after.workingDirectory = run.before.workingDirectory ∧
      (∀ location, location ≠ run.stagingPlace →
        Output.Kept run.before run.target run.after location) ∧
      ((∀ step ∈ run.steps, step.RemovesFile) → run.after.at? run.stagingPlace = none ∨
        Output.Kept run.before run.target run.after run.stagingPlace) ∧
      (∀ earlier, Untouched run.target earlier run →
        run.after.held run.target = earlier.after.held run.target) ∧
      ∀ path earlier streak, (earlier :: streak).IsChain (Untouched path) →
        (∀ other ∈ streak, FailsBeside path other) →
        ∀ other ∈ streak, other.after.held path = earlier.after.held path := by
  have prepared := run.prepared_of_failed failed
  refine ⟨run.unchanged_of_failed failed, prepared.workingDirectory, prepared.elsewhere,
    run.unstaged_of_failed failed, ?_, fun path => held_of_streak⟩
  intro earlier untouched
  exact prepared.held.trans untouched

section Stored
open Run

/-- A run against the model of the surroundings, as it went. -/
def ofRun (run : Run) : Generation where
  policy := run.policy
  config := run.config
  seconds := run.seconds
  before := run.before.files
  steps := run.before.steps (generate run.policy run.config run.seconds).run
  outcome := run.result
  after := run.files
  ran := run.before.runs_steps _

/-- A run over a payload that is no list, after one that wrote a module. -/
def refused : Generation := ofRun (overPayload "\x7b\x7d" 1 first.files)

/-- A run whose target is a directory. -/
def blocked : Generation := ofRun (overPayload "[]" 0 (noFiles.put ["client.ts"] .directory))

/-- A payload that is refused leaves all files alone, and the module of the run before; a target
that is a directory stays one, and nothing is left beside it. -/
theorem failed_runs_change_nothing_overPayload :
    (refused.outcome = .error (.payload (.notArray "an object")) ∧
        refused.after = refused.before ∧
        refused.after.held ⟨"/client.ts"⟩ = some (first.bytesOf [plain] 0)) ∧
      (blocked.outcome = .error (.write ⟨"/client.ts"⟩ .isDirectory) ∧
        blocked.after.at? ["client.ts"] = some .directory ∧
        blocked.after.at? [".client.ts.routegen-tmp"] = none) := by
  have shape : refused.outcome = .error (.payload (.notArray "an object")) := by decide +kernel
  have write : blocked.outcome = .error (.write ⟨"/client.ts"⟩ .isDirectory) := by decide +kernel
  obtain ⟨same, -, -, -, held, -⟩ := failed_runs_change_nothing refused shape
  obtain ⟨-, -, kept, unstaged, -⟩ := failed_runs_change_nothing blocked write
  have other : ¬(Error.payload (.notArray "an object")).IsWrite := by
    rintro ⟨path, fault, impossible⟩
    cases impossible
  have untouched : Untouched ⟨"/client.ts"⟩ (ofRun first) refused :=
    held_overPayload "\x7b\x7d" 1 first.files
  have place : blocked.stagingPlace = [".client.ts.routegen-tmp"] := by decide +kernel
  have stood : blocked.before.at? ["client.ts"] = some .directory := rfl
  have bare : blocked.before.at? [".client.ts.routegen-tmp"] = none := rfl
  have removes : ∀ step ∈ blocked.steps, step.RemovesFile := by decide +kernel
  rw [place] at kept unstaged
  refine ⟨⟨shape, (same other).2, (held (ofRun first) untouched).trans held_first⟩, write, ?_, ?_⟩
  · rcases kept ["client.ts"] (by decide) with same | ⟨-, absent, -⟩
    · exact same.trans stood
    · rw [stood] at absent
      cases absent
  · rcases unstaged removes with gone | same | ⟨above, -, -⟩
    · exact gone
    · exact same.trans bare
    · exact absurd above (by decide +kernel)

end Stored

end Generation

end ClientGen
