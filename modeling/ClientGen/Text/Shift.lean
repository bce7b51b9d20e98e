/-!
Runs of code points that all move by the same distance.
-/
namespace ClientGen.Text

/-- The code points `first`, `first + step`, and so on up to `last`, each moved to the code point
`delta` away from it. -/
structure Shift where
  first : Nat
  last : Nat
  step : Nat
  delta : Int
  deriving Repr, DecidableEq

/-- The code point that a run moves a code point to, if the run holds it. -/
def Shift.move? (run : Shift) (code : Nat) : Option Nat :=
  if run.first ≤ code ∧ code ≤ run.last ∧ (code - run.first) % run.step = 0 then
    some ((code : Int) + run.delta).toNat
  else none

end ClientGen.Text
