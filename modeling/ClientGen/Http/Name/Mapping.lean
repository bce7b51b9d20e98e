import ClientGen.Http.Name.MappingTable
import ClientGen.Text.Case
import ClientGen.Text.PrintableTable
import ClientGen.Text.Ranges
import ClientGen.Text.Rows

/-!
The characters that stand in a host name for a character of it. Letters lose their case, variants of
a character become that character, and some characters leave nothing behind.
-/
namespace ClientGen.Http

/-- The rows of replacements, each with the code point that its texts start from. -/
def replacements : List (Nat × List (List Char)) :=
  replacementRows.filterMap fun row =>
    match Text.rowFields row with
    | [start] :: texts => some (start, texts.map (·.map Char.ofNat))
    | _ => none

/-- The text that replaces a code point, if a row names one. -/
def replacementOf? (code : Nat) : Option (List Char) :=
  replacements.findSome? fun (start, texts) => if start ≤ code then texts[code - start]? else none

/-- Whether a character joins or parts its neighbours and has no form of its own. -/
def isJoiner (c : Char) : Bool := c == '\u200c' || c == '\u200d'

/-- What stands in a name for a character beyond ASCII; none if it can stand in no name. -/
def mapWide? (c : Char) : Option (List Char) :=
  match replacementOf? c.toNat with
  | some text => some text
  | none =>
    if Text.inRanges omittedRanges c.toNat then some []
    else if isJoiner c then some [c]
    else if Text.inRanges refusedRanges c.toNat || Text.inRanges Text.unprintableRanges c.toNat then
      none
    else
      match nameShifts.findSome? (·.move? c.toNat) with
      | some code => some [Char.ofNat code]
      | none => some (Text.lowerCase c)

/-- What stands in a name for a character; none if it can stand in no name. -/
def mapInName? (c : Char) : Option (List Char) :=
  if c.toNat < 0x80 then some [c.toLower] else mapWide? c

end ClientGen.Http
