/-!
Sets of characters given by ranges of code points. A table module lists the ranges of a Unicode
property; this module says what it means for a character to lie in them.
-/
namespace ClientGen.Text

/-- Whether one of the closed ranges holds the code point. -/
def inRanges (ranges : List (Nat × Nat)) (code : Nat) : Bool :=
  ranges.any fun range => range.1 ≤ code && code ≤ range.2

end ClientGen.Text
