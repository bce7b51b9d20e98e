import ClientGen.Json.Cursor
import ClientGen.Json.Number
import ClientGen.Text.Digits

/-!
The tokens of JSON text that hold no other values: the words `null`, `true` and `false`, numbers
and strings. Each reader starts at its token and gives the cursor after it.
-/
namespace ClientGen.Json

/-- Read the given characters, one by one. -/
def readWord : List Char → Cursor → Except Fault Cursor
  | [], c => .ok c
  | expected :: more, c =>
    match c.peek? with
    | none => c.here .endInValue
    | some char => if char = expected then readWord more c.next else c.ahead .expectedWord

def digitValue (c : Char) : Nat := c.toNat - '0'.toNat

def readDigits (c : Cursor) : List Nat × Cursor :=
  let (digits, after) := c.span Char.isDigit
  (digits.map digitValue, after)

/-- The greatest exponent that a number may write. -/
def maxExponent : Nat := Nat.pow 2 31 - 1

/-- Read the digits of an exponent up to the first one that makes it too great. Gives the exponent,
or none if it is too great. -/
def readExponentFrom (value : Nat) : List Char → Position → Option Nat × Cursor
  | [], p => (some value, ⟨[], p⟩)
  | char :: rest, p =>
    if !char.isDigit then (some value, ⟨char :: rest, p⟩)
    else
      let grown := value * 10 + digitValue char
      if maxExponent < grown then (none, ⟨rest, p.after char⟩)
      else readExponentFrom grown rest (p.after char)

/-- Read the integer part of a number: a zero alone, or digits that start with no zero. -/
def readWhole (c : Cursor) : Except Fault (List Nat × Cursor) :=
  match c.peek? with
  | none => c.here .endInValue
  | some '0' =>
    if c.next.peek?.any Char.isDigit then c.next.ahead .invalidNumber else .ok ([0], c.next)
  | some char => if char.isDigit then .ok (readDigits c) else c.ahead .invalidNumber

def readFraction (c : Cursor) : Except Fault (List Nat × Cursor) :=
  match c.peek? with
  | some '.' =>
    let (digits, after) := readDigits c.next
    if digits = [] then
      if after.peek?.isNone then after.ahead .endInValue else after.ahead .invalidNumber
    else .ok (digits, after)
  | _ => .ok ([], c)

/-- Read the sign of an exponent: whether it is negative. -/
def readExponentSign (c : Cursor) : Bool × Cursor :=
  match c.peek? with
  | some '+' => (false, c.next)
  | some '-' => (true, c.next)
  | _ => (false, c)

/-- The number that its parts give, as read up to the cursor. -/
def numberOfParts (parts : Number.Parts) (c : Cursor) : Except Fault (Number × Cursor) :=
  match Number.ofParts? parts with
  | some n => .ok (n, c)
  | none => c.here .numberOutOfRange

/-- Read a number after its sign. An exponent too great to write gives zero if it is negative or
if the digits are all zero, and is out of range otherwise. -/
def readUnsigned (isNegative : Bool) (c : Cursor) : Except Fault (Number × Cursor) := do
  let (whole, c) ← readWhole c
  let (fraction, c) ← readFraction c
  let parts : Number.Parts := ⟨isNegative, whole, fraction, none⟩
  if c.peek? = some 'e' ∨ c.peek? = some 'E' then
    let (isDown, c) := readExponentSign c.next
    match c.peek? with
    | none => c.here .endInValue
    | some char =>
      if !char.isDigit then c.ahead .invalidNumber
      else
        match readExponentFrom 0 c.rest c.position with
        | (some value, after) =>
          let exponent : Int := if isDown then -value else value
          numberOfParts { parts with exponent := some exponent } after
        | (none, after) =>
          if parts.significand.1 ≠ 0 ∧ !isDown then after.here .numberOutOfRange
          else .ok (.double isNegative .zero, (readDigits after).2)
  else numberOfParts parts c

def readNumber (c : Cursor) : Except Fault (Number × Cursor) :=
  if c.peek? = some '-' then readUnsigned true c.next else readUnsigned false c

/-- Read four hexadecimal digits. Four bytes are taken whatever they are. -/
def readHex (c : Cursor) : Except Fault (Nat × Cursor) :=
  if !Cursor.hasBytes 4 c.rest then .error ⟨.endInString, c.endPosition⟩
  else
    match Text.numberIn? 16 (c.rest.take 4) with
    | some code => .ok (code, c.next.next.next.next)
    | none => .error ⟨.invalidEscape, Cursor.positionAfterBytes 4 c.rest c.position⟩

/-- The character that a backslash and a letter stand for. -/
def simpleEscape? : Char → Option Char
  | '"' => some '"'
  | '\\' => some '\\'
  | '/' => some '/'
  | 'b' => some '\x08'
  | 'f' => some '\x0c'
  | 'n' => some '\n'
  | 'r' => some '\r'
  | 't' => some '\t'
  | _ => none

/-- Read one given character inside an escape. -/
def expectInEscape (expected : Char) (c : Cursor) : Except Fault Cursor :=
  match c.peek? with
  | none => c.here .endInString
  | some char => if char = expected then .ok c.next else c.ahead .brokenSurrogatePair

/-- Read the code point of a `\u` escape after the `u`. A leading surrogate must be followed by
the escape of a trailing one. -/
def readUnicodeEscape (c : Cursor) : Except Fault (Char × Cursor) := do
  let (code, c) ← readHex c
  if 0xDC00 ≤ code ∧ code ≤ 0xDFFF then c.here .loneSurrogate
  else if code < 0xD800 ∨ 0xDBFF < code then .ok (Char.ofNat code, c)
  else
    let c ← expectInEscape '\\' c
    let c ← expectInEscape 'u' c
    let (low, c) ← readHex c
    if low < 0xDC00 ∨ 0xDFFF < low then c.here .loneSurrogate
    else .ok (Char.ofNat ((code - 0xD800) * 0x400 + (low - 0xDC00) + 0x10000), c)

def readEscape (c : Cursor) : Except Fault (Char × Cursor) :=
  match c.peek? with
  | none => c.here .endInString
  | some 'u' => readUnicodeEscape c.next
  | some char =>
    match simpleEscape? char with
    | some meant => .ok (meant, c.next)
    | none => c.ahead .invalidEscape

/-- Read the rest of a string after its opening quote; `read` holds the characters so far, last
first, and `fuel` bounds the number of those to come. -/
def readStringFrom : Nat → List Char → Cursor → Except Fault (String × Cursor)
  | 0, _, c => c.here .endInString
  | fuel + 1, read, c =>
    match c.peek? with
    | none => c.here .endInString
    | some '"' => .ok (String.ofList read.reverse, c.next)
    | some '\\' => do
      let (char, c) ← readEscape c.next
      readStringFrom fuel (char :: read) c
    | some char =>
      if char.toNat < 0x20 then c.ahead .controlCharacter
      else readStringFrom fuel (char :: read) c.next

/-- Read a string after its opening quote. -/
def readString (c : Cursor) : Except Fault (String × Cursor) :=
  readStringFrom (c.rest.length + 1) [] c

end ClientGen.Json
