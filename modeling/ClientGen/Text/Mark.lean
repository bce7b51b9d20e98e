import ClientGen.Text.MarkTable
import ClientGen.Text.PrintableTable
import ClientGen.Text.Ranges

/-!
Marks: characters that belong to the one before them.
-/
namespace ClientGen.Text

/-- Whether a character is a mark that runs from left to right as letters do. -/
def isLetterLikeMark (c : Char) : Bool := inRanges letterLikeMarkRanges c.toNat

/-- Whether a character is a mark that takes the direction of the text around it. -/
def isBoundMark (c : Char) : Bool :=
  inRanges graphemeExtendRanges c.toNat && !isLetterLikeMark c && c != '\u200c'

def isMark (c : Char) : Bool := isLetterLikeMark c || isBoundMark c

end ClientGen.Text
