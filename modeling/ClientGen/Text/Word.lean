import ClientGen.Text.Ranges
import ClientGen.Text.WordTable

/-!
Word characters: letters, marks, decimal digits, connecting punctuation and the two join controls
of any script. A path parameter is a run of them.
-/
namespace ClientGen.Text

/-- Whether a character may stand in a word. -/
def isWord (c : Char) : Bool := inRanges wordRanges c.toNat

end ClientGen.Text
