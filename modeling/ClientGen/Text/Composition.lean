import ClientGen.Text.CompositionTable
import ClientGen.Text.Rows

/-!
The composed form of a text: composites are taken apart, marks are put in the order of their
classes, and each part is joined again to what it has a composite with. Characters that are never
composed stay as they are.
-/
namespace ClientGen.Text

/-- The composites that the table gives, each behind its two parts. -/
def composites : List (Char × Char × Char) :=
  compositeRows.flatMap fun row =>
    match rowFields row with
    | [second] :: pairs => pairs.filterMap fun pair =>
      match pair with
      | [first, whole] => some (Char.ofNat first, Char.ofNat second, Char.ofNat whole)
      | _ => none
    | _ => []

/-- The classes that the table gives, each before the closed range of code points that has it. -/
def combiningRanges : List (Nat × Nat × Nat) :=
  combiningRows.flatMap fun row =>
    match rowFields row with
    | [mark] :: ranges => ranges.filterMap fun range =>
      range.head?.bind fun first => range.getLast?.map fun last => (mark, first, last)
    | _ => []

/-- The class by which marks behind a character are ordered; zero for all that is no such mark. -/
def combiningClass (c : Char) : Nat :=
  ((combiningRanges.find? fun range => range.2.1 ≤ c.toNat && c.toNat ≤ range.2.2).map (·.1)).getD 0

/-- The two parts of a syllable of Hangul: its beginning and its last letter. -/
def syllableParts? (c : Char) : Option (Char × Char) :=
  if 0xAC00 ≤ c.toNat ∧ c.toNat < 0xD7A4 then
    let index := c.toNat - 0xAC00
    if index % 28 = 0 then
      some (Char.ofNat (0x1100 + index / 588), Char.ofNat (0x1161 + index % 588 / 28))
    else some (Char.ofNat (c.toNat - index % 28), Char.ofNat (0x11A7 + index % 28))
  else none

/-- The syllable of Hangul that a beginning and a further letter make up. -/
def syllable? (first second : Char) : Option Char :=
  if 0x1100 ≤ first.toNat ∧ first.toNat < 0x1113 ∧ 0x1161 ≤ second.toNat ∧ second.toNat < 0x1176 then
    some (Char.ofNat (0xAC00 + (first.toNat - 0x1100) * 588 + (second.toNat - 0x1161) * 28))
  else if 0xAC00 ≤ first.toNat ∧ first.toNat < 0xD7A4 ∧ (first.toNat - 0xAC00) % 28 = 0 ∧
      0x11A8 ≤ second.toNat ∧ second.toNat < 0x11C3 then
    some (Char.ofNat (first.toNat + (second.toNat - 0x11A7)))
  else none

/-- The two parts of a composite. -/
def parts? (c : Char) : Option (Char × Char) :=
  match composites.find? (·.2.2 == c) with
  | some (first, second, _) => some (first, second)
  | none => syllableParts? c

/-- The composite of two parts. -/
def composite? (first second : Char) : Option Char :=
  match composites.find? fun entry => entry.1 == first && entry.2.1 == second with
  | some (_, _, whole) => some whole
  | none => syllable? first second

/-- A composite taken apart again and again, a given number of times at most. -/
def takeApart : Nat → Char → List Char
  | 0, c => [c]
  | depth + 1, c =>
    match parts? c with
    | some (first, second) => takeApart depth first ++ [second]
    | none => [c]

/-- How often a composite can be taken apart: none has more than three marks. -/
def maxMarks : Nat := 3

/-- A text with a character put before it, behind the marks of lower classes that it starts with. A
character of class zero stays in front. -/
def putMark (c : Char) : List Char → List Char
  | [] => [c]
  | d :: rest =>
    if 0 < combiningClass d ∧ combiningClass d < combiningClass c then d :: putMark c rest
    else c :: d :: rest

/-- A text with the marks behind each character in the order of their classes. -/
def orderMarks (text : List Char) : List Char := text.foldr putMark []

/-- A text joined again behind a character and the marks, last one first, that do not join it. A
mark joins the character if no mark of its own class or a higher one stands between them. -/
def join (start : Char) (waiting : List Char) : List Char → List Char
  | [] => start :: waiting.reverse
  | c :: rest =>
    let isNext := waiting.head?.all fun mark => combiningClass mark < combiningClass c
    match if isNext then composite? start c else none with
    | some whole => join whole waiting rest
    | none =>
      if combiningClass c = 0 then start :: waiting.reverse ++ join c [] rest
      else join start (c :: waiting) rest

/-- The composed form of a text. -/
def compose (text : List Char) : List Char :=
  match orderMarks (text.flatMap (takeApart maxMarks)) with
  | [] => []
  | c :: rest => join c [] rest

end ClientGen.Text
