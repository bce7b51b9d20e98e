import ClientGen.Text.Ranges
import ClientGen.Text.PrintableTable

/-!
The quoted form in which a message shows a text: between double quotes, on one line, with every
character that has no visible form of its own written as an escape.
-/
namespace ClientGen.Text

/-- A code point as `\u{…}` with the fewest lower-case hexadecimal digits. -/
def bracedEscape (c : Char) : List Char :=
  "\\u\x7b".toList ++ Nat.toDigits 16 c.toNat ++ ['\x7d']

/-- One character of a quoted text. -/
def quotedChar (c : Char) : List Char :=
  if c = '\x00' then ['\\', '0']
  else if c = '\t' then ['\\', 't']
  else if c = '\r' then ['\\', 'r']
  else if c = '\n' then ['\\', 'n']
  else if c = '"' ∨ c = '\\' then ['\\', c]
  else if c.toNat < 0x7F ∧ 0x20 ≤ c.toNat then [c]
  else if inRanges graphemeExtendRanges c.toNat || inRanges unprintableRanges c.toNat then
    bracedEscape c
  else [c]

def quoted (text : String) : String :=
  String.ofList ('"' :: text.toList.flatMap quotedChar ++ ['"'])

end ClientGen.Text
