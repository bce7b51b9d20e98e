/-!
Reading positions in JSON text. A position counts lines from one and, within a line, the bytes of
the characters read so far. A fault is a problem with the position it is reported at.
-/
namespace ClientGen.Json

structure Position where
  line : Nat
  column : Nat
  deriving DecidableEq, Repr, Inhabited

def Position.after (p : Position) (c : Char) : Position :=
  if c = '\n' then ⟨p.line + 1, 0⟩ else ⟨p.line, p.column + c.utf8Size⟩

/-- What can be wrong with a text. -/
inductive Problem where
  | endInValue
  | endInList
  | endInObject
  | endInString
  | expectedColon
  | expectedListEnd
  | expectedObjectEnd
  | expectedWord
  | expectedValue
  | invalidEscape
  | invalidNumber
  | numberOutOfRange
  | loneSurrogate
  | brokenSurrogatePair
  | controlCharacter
  | nameNotString
  | trailingComma
  | trailingCharacters
  | tooDeep
  deriving DecidableEq, Repr

def Problem.message : Problem → String
  | .endInValue => "EOF while parsing a value"
  | .endInList => "EOF while parsing a list"
  | .endInObject => "EOF while parsing an object"
  | .endInString => "EOF while parsing a string"
  | .expectedColon => "expected `:`"
  | .expectedListEnd => "expected `,` or `]`"
  | .expectedObjectEnd => "expected `,` or `\x7d`"
  | .expectedWord => "expected ident"
  | .expectedValue => "expected value"
  | .invalidEscape => "invalid escape"
  | .invalidNumber => "invalid number"
  | .numberOutOfRange => "number out of range"
  | .loneSurrogate => "lone leading surrogate in hex escape"
  | .brokenSurrogatePair => "unexpected end of hex escape"
  | .controlCharacter => "control character (\\u0000-\\u001F) found while parsing a string"
  | .nameNotString => "key must be a string"
  | .trailingComma => "trailing comma"
  | .trailingCharacters => "trailing characters"
  | .tooDeep => "recursion limit exceeded"

/-- The words for a place in a text. -/
def Position.message (p : Position) : String := s!" at line {p.line} column {p.column}"

structure Fault where
  problem : Problem
  position : Position
  deriving DecidableEq, Repr

def Fault.message (f : Fault) : String := f.problem.message ++ f.position.message

/-- What is left of a text, and where it starts. -/
structure Cursor where
  rest : List Char
  position : Position
  deriving DecidableEq, Repr

namespace Cursor

def ofText (text : String) : Cursor := ⟨text.toList, ⟨1, 0⟩⟩

/-- The next character. -/
def peek? (c : Cursor) : Option Char := c.rest.head?

/-- Past the next character. -/
def next (c : Cursor) : Cursor :=
  match c.rest with
  | [] => c
  | char :: rest => ⟨rest, c.position.after char⟩

/-- The position one byte further on, or the end of the text. -/
def nearby (c : Cursor) : Position :=
  match c.rest with
  | [] => c.position
  | char :: _ =>
    if char = '\n' then ⟨c.position.line + 1, 0⟩ else ⟨c.position.line, c.position.column + 1⟩

def here (c : Cursor) (problem : Problem) : Except Fault α := .error ⟨problem, c.position⟩

/-- A problem reported one byte after the cursor. -/
def ahead (c : Cursor) (problem : Problem) : Except Fault α := .error ⟨problem, c.nearby⟩

/-- Whether a character may stand between the tokens of a text. -/
def isSpace (c : Char) : Bool := c == ' ' || c == '\n' || c == '\t' || c == '\r'

/-- The text after its leading characters of a kind, and those characters. -/
def spanFrom (keep : Char → Bool) : List Char → Position → List Char × Cursor
  | [], p => ([], ⟨[], p⟩)
  | char :: rest, p =>
    if keep char then
      let (taken, c) := spanFrom keep rest (p.after char)
      (char :: taken, c)
    else ([], ⟨char :: rest, p⟩)

/-- The leading characters of a kind, and the cursor after them. -/
def span (keep : Char → Bool) (c : Cursor) : List Char × Cursor := spanFrom keep c.rest c.position

/-- Past the blanks. -/
def skipSpace (c : Cursor) : Cursor := (c.span isSpace).2

/-- The position a number of bytes further on. -/
def positionAfterBytes : Nat → List Char → Position → Position
  | _, [], p => p
  | bytes, char :: rest, p =>
    if char.utf8Size ≤ bytes then positionAfterBytes (bytes - char.utf8Size) rest (p.after char)
    else ⟨p.line, p.column + bytes⟩

def endPosition (c : Cursor) : Position := c.rest.foldl Position.after c.position

/-- Whether characters have at least a number of bytes. -/
def hasBytes : Nat → List Char → Bool
  | 0, _ => true
  | _ + 1, [] => false
  | bytes + 1, char :: rest => hasBytes (bytes + 1 - char.utf8Size) rest

end Cursor

end ClientGen.Json
