import ClientGen.Decimal.Text

/-!
TOML values. The entries of a table keep the order in which they are written.
-/
namespace ClientGen.Toml
open Decimal

/-- A number with a point or an exponent, or one of the values that have no digits. -/
inductive Real where
  | finite (isNegative : Bool) (magnitude : Binary64)
  | infinite (isNegative : Bool)
  | notANumber
  deriving DecidableEq, Repr, Inhabited

/-- The text of a real number, never in scientific notation. -/
def Real.text : Real → String
  | .finite isNegative magnitude => String.ofList (magnitude.text .positional isNegative)
  | .infinite false => "inf"
  | .infinite true => "-inf"
  | .notANumber => "NaN"

inductive Value where
  | string (text : String)
  | integer (n : Int)
  | real (x : Real)
  | boolean (b : Bool)
  /-- A date, a time of day or both, in canonical form. -/
  | moment (text : String)
  | array (items : List Value)
  | table (entries : List (String × Value))
  deriving Repr, Inhabited

end ClientGen.Toml
