import ClientGen.Http.Name.JoiningTable
import ClientGen.Http.Name.Mapping
import ClientGen.Text.Composition
import ClientGen.Text.Mark

/-!
Joiners in names. A joiner has no form of its own, so it stands only where it changes how its
neighbours are drawn.
-/
namespace ClientGen.Http

def isPassedOver (c : Char) : Bool := Text.isBoundMark c || Text.inRanges passedOverRanges c.toNat

/-- Whether the first character of a text that joining does not pass over lies in ranges. -/
def reaches (ranges : List (Nat × Nat)) (text : List Char) : Bool :=
  (text.dropWhile isPassedOver).head?.any fun c => Text.inRanges ranges c.toNat

/-- The class of the marks that take the vowel of the character before them. -/
def vowelKillerClass : Nat := 9

/-- Whether a joiner may stand between the text before it, last character first, and the text behind
it: after a mark that takes a vowel, or to part two characters that would join. -/
def isJoinerFit (before : List Char) (joiner : Char) (behind : List Char) : Bool :=
  before.head?.any (fun c => Text.combiningClass c = vowelKillerClass) ||
    (joiner == '\u200c' && reaches joinsNextRanges before && reaches joinsPreviousRanges behind)

/-- Whether all joiners of a text fit, given the text before it, last character first. -/
def joinersFit (before : List Char) : List Char → Bool
  | [] => true
  | c :: rest => (!isJoiner c || isJoinerFit before c rest) && joinersFit (c :: before) rest

end ClientGen.Http
