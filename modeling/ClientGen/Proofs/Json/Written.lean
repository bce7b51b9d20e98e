import ClientGen.Json.Skip

/-!
JSON as it is written: the texts of values, in all the ways that blanks, escapes and forms of
numbers allow, at any depth. A string is written piece by piece, and two pieces may have to be taken
together to give a character.
-/
namespace ClientGen.Json

/-- Characters that may stand between two tokens. -/
structure Blanks where
  chars : List Char
  blank : ∀ c ∈ chars, Cursor.isSpace c = true

def Blanks.none : Blanks := ⟨[], List.forall_mem_nil _⟩

def Blanks.append (front back : Blanks) : Blanks :=
  ⟨front.chars ++ back.chars, List.forall_mem_append.mpr ⟨front.blank, back.blank⟩⟩

/-- What a string is written with: a character as it is, a letter that stands for a character, or
the four digits of a code unit. -/
inductive Piece where
  | plain (c : Char) (isPlain : c ≠ '"' ∧ c ≠ '\\' ∧ 0x20 ≤ c.toNat)
  | escape (letter meant : Char) (known : simpleEscape? letter = some meant)
  | unit (x y z w : Char) (code : Nat) (digits : Text.numberIn? 16 [x, y, z, w] = some code)

def Piece.chars : Piece → List Char
  | .plain c _ => [c]
  | .escape letter _ _ => ['\\', letter]
  | .unit x y z w _ _ => ['\\', 'u', x, y, z, w]

/-- The text of a string, quotes included. -/
def quoted (pieces : List Piece) : List Char := '"' :: pieces.flatMap Piece.chars ++ ['"']

theorem quoted_append (pieces : List Piece) (rest : List Char) :
    quoted pieces ++ rest = '"' :: (pieces.flatMap Piece.chars ++ '"' :: rest) := by
  simp [quoted]

/-- A code unit that starts a pair. -/
def isLeading (code : Nat) : Bool := 0xD800 ≤ code && code ≤ 0xDBFF

/-- A code unit that ends a pair. -/
def isTrailing (code : Nat) : Bool := 0xDC00 ≤ code && code ≤ 0xDFFF

/-- The characters that pieces stand for; none if half of a pair stands alone. -/
def meaning : List Piece → Option (List Char)
  | [] => some []
  | .plain c _ :: rest => (meaning rest).map (c :: ·)
  | .escape _ c _ :: rest => (meaning rest).map (c :: ·)
  | .unit _ _ _ _ code _ :: rest =>
    if isTrailing code then none
    else if isLeading code then
      match rest with
      | .unit _ _ _ _ low _ :: rest =>
        if isTrailing low then
          (meaning rest).map
            (Char.ofNat ((code - 0xD800) * 0x400 + (low - 0xDC00) + 0x10000) :: ·)
        else none
      | _ => none
    else (meaning rest).map (Char.ofNat code :: ·)

def IsDigits (chars : List Char) : Prop := chars ≠ [] ∧ ∀ c ∈ chars, c.isDigit = true

/-- The text of the integer part of a number. -/
inductive WholeText : List Char → Prop
  | zero : WholeText ['0']
  | digits {first : Char} {rest : List Char} (leads : first.isDigit = true ∧ first ≠ '0')
      (follow : ∀ c ∈ rest, c.isDigit = true) : WholeText (first :: rest)

/-- The text of the fraction of a number, if it has one. -/
inductive FractionText : List Char → Prop
  | absent : FractionText []
  | digits (digits : IsDigits chars) : FractionText ('.' :: chars)

/-- The text of the exponent of a number, if it has one. -/
inductive ExponentText : List Char → Prop
  | absent : ExponentText []
  | digits {marker : Char} (marks : marker = 'e' ∨ marker = 'E')
      (signs : sign = [] ∨ sign = ['+'] ∨ sign = ['-']) (digits : IsDigits chars) :
      ExponentText (marker :: (sign ++ chars))

/-- The text of a number without its sign. -/
inductive UnsignedText : List Char → Prop
  | parts (whole : WholeText front) (fraction : FractionText middle)
      (exponent : ExponentText back) : UnsignedText (front ++ (middle ++ back))

/-- The text of a value that opens no list or object. -/
inductive ScalarText : List Char → Prop
  | word (known : chars ∈ ["null".toList, "true".toList, "false".toList]) : ScalarText chars
  | unsigned (number : UnsignedText chars) : ScalarText chars
  | negative (number : UnsignedText chars) : ScalarText ('-' :: chars)
  | string (pieces : List Piece) : ScalarText (quoted pieces)

/-- A text with blanks around it. -/
structure Padded where
  front : Blanks
  core : List Char
  back : Blanks

def Padded.chars (padded : Padded) : List Char :=
  padded.front.chars ++ (padded.core ++ padded.back.chars)

/-- A member of an object: a name, a colon and the text of a value, with blanks around each. -/
structure Member where
  before : Blanks
  label : List Piece
  after : Blanks
  front : Blanks
  value : List Char
  back : Blanks

namespace Member

/-- What a member is between its outer blanks. -/
def core (member : Member) : List Char :=
  quoted member.label ++ (member.after.chars ++ ':' :: (member.front.chars ++ member.value))

def padded (member : Member) : Padded := ⟨member.before, member.core, member.back⟩

/-- A member after its opening quote up to its last blanks, and what follows. -/
def afterQuote (member : Member) (rest : List Char) : List Char :=
  member.label.flatMap Piece.chars ++ '"' ::
    (member.after.chars ++ ':' :: (member.front.chars ++ (member.value ++ rest)))

def name? (member : Member) : Option String := (meaning member.label).map String.ofList

end Member

/-- Texts with a comma before each. -/
def further (entries : List Padded) : List Char := entries.flatMap fun entry => ',' :: entry.chars

theorem further_cons (entry : Padded) (more : List Padded) :
    further (entry :: more) = ',' :: (entry.chars ++ further more) := rfl

/-- Texts with commas in between. -/
def separated : List Padded → List Char
  | [] => []
  | first :: rest => first.chars ++ further rest

def Frame.opening : Frame → Char
  | .list => '['
  | .object => '\x7b'

/-- The text of a list or an object. The first blanks are all that an empty one holds. -/
def enclosed (frame : Frame) (inside : Blanks) (entries : List Padded) : List Char :=
  frame.opening :: (inside.chars ++ (separated entries ++ [frame.closing]))

theorem enclosed_append (frame : Frame) (inside : Blanks) (entries : List Padded)
    (rest : List Char) : enclosed frame inside entries ++ rest =
      frame.opening :: (inside.chars ++ (separated entries ++ frame.closing :: rest)) := by
  simp [enclosed]

inductive ValueText : List Char → Prop
  | scalar (scalar : ScalarText chars) : ValueText chars
  | list (inside : Blanks) (items : List Padded) (each : ∀ item ∈ items, ValueText item.core) :
      ValueText (enclosed .list inside items)
  | object (inside : Blanks) (members : List Member)
      (each : ∀ member ∈ members, ValueText member.value) :
      ValueText (enclosed .object inside (members.map Member.padded))

end ClientGen.Json
