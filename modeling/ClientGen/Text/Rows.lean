import ClientGen.Text.Digits
import ClientGen.Text.Split

/-!
Tables of code points written as rows of text: fields stand between spaces, and the code points of a
field, in hexadecimal, between full stops.
-/
namespace ClientGen.Text

def rowFields (row : String) : List (List Nat) :=
  (split (· == ' ') row.toList).map fun field =>
    (split (· == '.') field).filterMap (numberIn? 16)

end ClientGen.Text
