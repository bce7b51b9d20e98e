import ClientGen.Proofs.Plan

/-!
Runs of plans, step by step. A run may answer each request in any way that is allowed, so a change
of files can fail at every step, for any reason. Every step is written down, with its answer and
with the files before and after it, and what a plan ensures holds along each of its runs.
-/
namespace ClientGen
open Files

/-- A request as it was answered, with the files before and after it. -/
structure Step where
  request : Request
  before : FileSystem
  answer : request.Answer
  after : FileSystem

def Step.RemovesFile : Step → Prop
  | ⟨.remove path, before, answer, _⟩ => before.isFile path = true → answer = .ok ()
  | _ => True

instance : DecidablePred Step.RemovesFile
  | ⟨.remove _, _, .ok (), _⟩ => isTrue fun _ => rfl
  | ⟨.remove path, before, .error _, _⟩ =>
    decidable_of_iff (before.isFile path = false) (by simp [Step.RemovesFile])
  | ⟨.readFile _, _, _, _⟩ | ⟨.isDirectory _, _, _, _⟩ | ⟨.isFile _, _, _, _⟩
  | ⟨.makeDirectory _, _, _, _⟩ | ⟨.createFile _, _, _, _⟩ | ⟨.appendFile .., _, _, _⟩
  | ⟨.syncFile _, _, _, _⟩ | ⟨.rename .., _, _, _⟩ | ⟨.send .., _, _, _⟩ | ⟨.wait _, _, _, _⟩
  | ⟨.report _, _, _, _⟩ => isTrue trivial

namespace Plan

/-- The steps of a run from one state of the files to another, and its result. -/
inductive Runs : Plan α → FileSystem → List Step → α → FileSystem → Prop
  | done : Runs (.done result) files [] result files
  | ask {r : Request} {answer : r.Answer} {next : r.Answer → Plan α}
      (allowed : r.Allows files after answer)
      (rest : Runs (next answer) after steps result last) :
      Runs (.ask r next) files (⟨r, files, answer, after⟩ :: steps) result last

/-- What a plan ensures holds after every step of a run and at its end. -/
theorem Ensures.along {atEnd : α → FileSystem → Prop} (ensured : Ensures always atEnd plan files)
    (ran : Runs plan files steps result last) :
    (∀ step ∈ steps, always step.after) ∧ atEnd result last := by
  induction ran with
  | done =>
    cases ensured with
    | done reached => exact ⟨List.forall_mem_nil _, reached⟩
  | ask allowed rest ih =>
    cases ensured with
    | ask step ahead =>
      obtain ⟨later, reached⟩ := ih (ahead _ _ allowed)
      refine ⟨?_, reached⟩
      intro other member
      rcases List.mem_cons.mp member with rfl | member
      · exact step _ _ allowed
      · exact later other member

/-- A run of two plans, the second of which goes on from the first, is a run of each. -/
theorem runs_bind (first : Plan α) (next : α → Plan β) :
    Runs (first >>= next) files steps result last ↔
      ∃ front middle state back, steps = front ++ back ∧ Runs first files front middle state ∧
        Runs (next middle) state back result last := by
  induction first generalizing files steps with
  | done middle =>
    constructor
    · intro ran
      exact ⟨[], middle, files, steps, rfl, .done, ran⟩
    · rintro ⟨front, _, state, back, rfl, start, rest⟩
      cases start
      exact rest
  | ask r ahead ih =>
    constructor
    · intro ran
      cases ran with
      | ask allowed rest =>
        obtain ⟨front, middle, state, back, rfl, start, rest⟩ := (ih _).mp rest
        exact ⟨_ :: front, middle, state, back, rfl, .ask allowed start, rest⟩
    · rintro ⟨front, middle, state, back, rfl, start, rest⟩
      cases start with
      | ask allowed start => exact .ask allowed ((ih _).mpr ⟨_, _, _, _, rfl, start, rest⟩)

/-- The answers determine a run: two runs of a plan that begin in the same way are the same run. -/
theorem Runs.unique (ran : Runs plan files front result last)
    (again : Runs plan files front' result' last') (same : front ++ back = front' ++ back') :
    front = front' ∧ back = back' ∧ result = result' ∧ last = last' := by
  induction ran generalizing front' with
  | done =>
    cases again
    exact ⟨rfl, same, rfl, rfl⟩
  | ask allowed rest ih =>
    cases again with
    | ask allowed' rest' =>
      obtain ⟨first, others⟩ := List.cons.inj same
      cases first
      obtain ⟨rfl, rest⟩ := ih rest' others
      exact ⟨rfl, rest⟩

end Plan

namespace Attempt
open Plan

/-- Where one part of a plan goes on from another and fails, one of the two has failed. -/
theorem runs_bind_error {first : Attempt α} {next : α → Attempt β}
    (failed : Runs (first >>= next).run before steps (.error error) after) :
    Runs first.run before steps (.error error) after ∨
      ∃ front result state back, steps = front ++ back ∧
        Runs first.run before front (.ok result) state ∧
        Runs (next result).run state back (.error error) after := by
  rw [run_bind] at failed
  obtain ⟨front, outcome, state, back, rfl, start, rest⟩ := (runs_bind _ _).mp failed
  cases outcome with
  | ok result => exact .inr ⟨front, result, state, back, rfl, start, rest⟩
  | error own =>
    cases rest
    rw [List.append_nil]
    exact .inl start

/-- Where one part of a plan goes on from another and succeeds, both have succeeded. -/
theorem runs_bind_ok {first : Attempt α} {next : α → Attempt β}
    (ran : Runs (first >>= next).run files steps (.ok result) last) :
    ∃ front middle state back, steps = front ++ back ∧
      Runs first.run files front (.ok middle) state ∧
      Runs (next middle).run state back (.ok result) last := by
  rw [run_bind] at ran
  obtain ⟨front, outcome, state, back, rfl, start, rest⟩ := (runs_bind _ _).mp ran
  cases outcome with
  | ok middle => exact ⟨front, middle, state, back, rfl, start, rest⟩
  | error own => cases rest

end Attempt

namespace Host
open Plan

/-- The steps of a plan that is run against the model of the surroundings. -/
def steps (host : Host) : Plan α → List Step
  | .done _ => []
  | .ask r next =>
    ⟨r, host.files, (host.answer r).1, (host.answer r).2.files⟩ ::
      (host.answer r).2.steps (next (host.answer r).1)

/-- The model of the surroundings runs a plan in one of the ways in which it may go. -/
theorem runs_steps (host : Host) (plan : Plan α) :
    Runs plan host.files (host.steps plan) (host.run plan).1 (host.run plan).2.files := by
  induction plan generalizing host with
  | done result => exact .done
  | ask r next ih => exact .ask (host.allows_answer r) (ih _ (host.answer r).2)

end Host

end ClientGen
