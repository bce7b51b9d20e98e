import ClientGen.Diagnostic
import ClientGen.Files.Fault
import ClientGen.Files.FilePath

/-!
Plans: what a run asks of its surroundings, one request after the other, each of which may depend on
the answers so far. A plan has no effect of its own; a machine with files, or a model of one,
answers the requests.
-/
namespace ClientGen
open Files

/-- A request to the surroundings. -/
inductive Request where
  | readFile (path : FilePath)
  /-- Whether a path leads to a directory. -/
  | isDirectory (path : FilePath)
  /-- Whether a path leads to a file. -/
  | isFile (path : FilePath)
  | makeDirectory (path : FilePath)
  /-- Make an empty file, also in place of one that is there. -/
  | createFile (path : FilePath)
  /-- Write at the end of a file. -/
  | appendFile (path : FilePath) (bytes : ByteArray)
  /-- Wait until a file is stored. -/
  | syncFile (path : FilePath)
  /-- Move a file, also in place of another one. -/
  | rename (source target : FilePath)
  | remove (path : FilePath)
  /-- Ask a service; the answer is a body, or the words for why there is none. -/
  | send (url : String) (headers : List (String × String))
  | wait (seconds : Nat)
  | report (diagnostic : Diagnostic)

/-- What answers a request. -/
abbrev Request.Answer : Request → Type
  | .readFile _ => Except Fault ByteArray
  | .isDirectory _ | .isFile _ => Bool
  | .makeDirectory _ | .createFile _ | .appendFile .. | .syncFile _ | .rename .. | .remove _ =>
    Except Fault Unit
  | .send .. => Except String String
  | .wait _ | .report _ => Unit

/-- A plan for a result. -/
inductive Plan (α : Type) where
  | done (result : α)
  | ask (request : Request) (next : request.Answer → Plan α)

namespace Plan

/-- Go on from the result of a plan. -/
def bind (first : Plan α) (next : α → Plan β) : Plan β :=
  match first with
  | .done result => next result
  | .ask request rest => .ask request fun answer => (rest answer).bind next

instance : Monad Plan where
  pure := done
  bind := bind

def request (r : Request) : Plan r.Answer := .ask r .done

/-- The result and the last state of a plan whose requests are answered from a state. -/
def run (answer : (r : Request) → σ → r.Answer × σ) : Plan α → σ → α × σ
  | .done result, state => (result, state)
  | .ask r next, state => run answer (next (answer r state).1) (answer r state).2

@[simp] theorem pure_eq_done (a : α) : (pure a : Plan α) = .done a := rfl

@[simp] theorem run_done (answer : (r : Request) → σ → r.Answer × σ) (a : α) (state : σ) :
    run answer (.done a) state = (a, state) := rfl

@[simp] theorem run_request (answer : (r : Request) → σ → r.Answer × σ) (r : Request) (state : σ) :
    run answer (request r) state = answer r state := rfl

theorem run_bind (answer : (r : Request) → σ → r.Answer × σ) (first : Plan α) (next : α → Plan β)
    (state : σ) :
    run answer (first >>= next) state =
      run answer (next (run answer first state).1) (run answer first state).2 := by
  induction first generalizing state with
  | done result => rfl
  | ask r rest ih => exact ih (answer r state).1 (answer r state).2

private theorem bind_done (plan : Plan α) : plan.bind .done = plan := by
  induction plan with
  | done result => rfl
  | ask r rest ih => exact congrArg (Plan.ask r) (funext ih)

private theorem bind_assoc (plan : Plan α) (first : α → Plan β) (second : β → Plan γ) :
    (plan.bind first).bind second = plan.bind fun a => (first a).bind second := by
  induction plan with
  | done result => rfl
  | ask r rest ih => exact congrArg (Plan.ask r) (funext ih)

instance : LawfulMonad Plan := LawfulMonad.mk' Plan bind_done (fun _ _ => rfl) bind_assoc

end Plan

end ClientGen
