import ClientGen.Error
import ClientGen.Plan

/-!
Plans that may fail. A failure ends the plan; nothing after it is asked of the surroundings.
-/
namespace ClientGen
open Files

/-- A plan that may fail. -/
abbrev Attempt (α : Type) := ExceptT Error Plan α

namespace Attempt

/-- A single request, which cannot fail by itself. -/
def request (r : Request) : Attempt r.Answer := ExceptT.lift (Plan.request r)

def report (d : Diagnostic) : Attempt Unit := request (.report d)

def reportAll : List Diagnostic → Attempt Unit
  | [] => return ()
  | d :: rest => do
    report d
    reportAll rest

/-- Go on with the result of a computation after reporting its diagnostics. -/
def ofTraced (traced : Traced α) : Attempt α := do
  reportAll traced.diagnostics
  return traced.result

/-- Go on with a result, or fail. -/
def ofExcept (fault : ε → Error) : Except ε α → Attempt α
  | .ok a => return a
  | .error e => throw (fault e)

def readText (path : FilePath) : Attempt String := do
  let bytes ← ofExcept (.read path) (← request (.readFile path))
  match String.fromUTF8? bytes with
  | some text => return text
  | none => throw (.read path .notText)

end Attempt

end ClientGen
