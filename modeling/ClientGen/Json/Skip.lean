import ClientGen.Json.Reader

/-!
Passing over a JSON value whose contents do not matter. The text must still be well formed, but
lists and objects may nest to any depth, numbers may be of any size and escapes may stand for any
code unit.
-/
namespace ClientGen.Json

/-- A list or an object that is open. -/
inductive Frame where
  | list
  | object
  deriving DecidableEq, Repr

/-- Pass over an exponent after its letter. -/
def skipExponent (c : Cursor) : Except Fault Cursor :=
  let c := (readExponentSign c).2
  if c.peek?.any Char.isDigit then .ok (readDigits c).2
  else c.ahead .invalidNumber

/-- Pass over the integer part of a number. -/
def skipWhole (c : Cursor) : Except Fault Cursor :=
  match c.peek? with
  | some '0' => if c.next.peek?.any Char.isDigit then c.next.ahead .invalidNumber else .ok c.next
  | some char => if char.isDigit then .ok (readDigits c).2 else c.ahead .invalidNumber
  | none => c.ahead .invalidNumber

/-- Pass over the fraction of a number if there is one. -/
def skipFraction (c : Cursor) : Except Fault Cursor :=
  if c.peek? = some '.' then
    let (digits, after) := readDigits c.next
    if digits = [] then after.ahead .invalidNumber else .ok after
  else .ok c

/-- Pass over a number after its sign. -/
def skipUnsigned (c : Cursor) : Except Fault Cursor := do
  let c ← skipFraction (← skipWhole c)
  if c.peek? = some 'e' ∨ c.peek? = some 'E' then skipExponent c.next else .ok c

/-- Pass over an escape after its backslash. -/
def skipEscape (c : Cursor) : Except Fault Cursor :=
  match c.peek? with
  | none => c.here .endInString
  | some 'u' => return (← readHex c.next).2
  | some char => if (simpleEscape? char).isSome then .ok c.next else c.ahead .invalidEscape

/-- Pass over the rest of a string after its opening quote; `fuel` bounds its length. -/
def skipStringFrom : Nat → Cursor → Except Fault Cursor
  | 0, c => c.here .endInString
  | fuel + 1, c =>
    match c.peek? with
    | none => c.here .endInString
    | some '"' => .ok c.next
    | some '\\' => do skipStringFrom fuel (← skipEscape c.next)
    | some char =>
      if char.toNat < 0x20 then c.here .controlCharacter else skipStringFrom fuel c.next

/-- Pass over a string after its opening quote. -/
def skipString (c : Cursor) : Except Fault Cursor := skipStringFrom (c.rest.length + 1) c

/-- What is passed over next: a value, or what may follow in the innermost open frame. A comma may
follow only where a value precedes. -/
inductive SkipState where
  | value
  | inside (afterValue : Bool)

/-- Pass over the name and the colon that start a member of an object. -/
def skipName (c : Cursor) : Except Fault Cursor := do
  let c := c.skipSpace
  match c.peek? with
  | none => c.ahead .endInObject
  | some '"' =>
    let c := (← skipString c.next).skipSpace
    match c.peek? with
    | none => c.ahead .endInObject
    | some ':' => .ok c.next
    | some _ => c.ahead .expectedColon
  | some _ => c.ahead .nameNotString

/-- Go to the value that comes next in a frame. -/
def enterFrame : Frame → Cursor → Except Fault Cursor
  | .list, c => .ok c
  | .object, c => skipName c

/-- Pass over a word, a number or a string; gives none where a list or an object opens. -/
def skipScalar? (c : Cursor) : Except Fault (Option Cursor) :=
  match c.peek? with
  | none => c.ahead .endInValue
  | some 'n' => return some (← readWord ['u', 'l', 'l'] c.next)
  | some 't' => return some (← readWord ['r', 'u', 'e'] c.next)
  | some 'f' => return some (← readWord ['a', 'l', 's', 'e'] c.next)
  | some '"' => return some (← skipString c.next)
  | some '-' => return some (← skipUnsigned c.next)
  | some '[' => return none
  | some '\x7b' => return none
  | some char => if char.isDigit then return some (← skipUnsigned c) else c.ahead .expectedValue

/-- The problem of a frame in which neither a comma nor its end follows. -/
def Frame.expectedEnd : Frame → Problem
  | .list => .expectedListEnd
  | .object => .expectedObjectEnd

/-- The problem of a frame that the text ends in. -/
def Frame.endInside : Frame → Problem
  | .list => .endInList
  | .object => .endInObject

def Frame.closing : Frame → Char
  | .list => ']'
  | .object => '\x7d'

/-- Pass over what is left of a value, given the frames that are open, innermost first; `fuel`
bounds the number of steps. -/
def skipFrom : Nat → SkipState → List Frame → Cursor → Except Fault Cursor
  | 0, _, _, c => c.here .endInValue
  | fuel + 1, .value, frames, c => do
    let c := c.skipSpace
    match ← skipScalar? c with
    | some after =>
      if frames = [] then .ok after else skipFrom fuel (.inside true) frames after
    | none =>
      let frame := if c.peek? = some '[' then Frame.list else Frame.object
      skipFrom fuel (.inside false) (frame :: frames) c.next
  | _ + 1, .inside _, [], c => .ok c
  | fuel + 1, .inside afterValue, frame :: frames, c => do
    let c := c.skipSpace
    match c.peek? with
    | none => c.ahead frame.endInside
    | some char =>
      if char = ',' ∧ afterValue then
        skipFrom fuel .value (frame :: frames) (← enterFrame frame c.next)
      else if char = frame.closing then
        if frames = [] then .ok c.next else skipFrom fuel (.inside true) frames c.next
      else if afterValue then c.ahead frame.expectedEnd
      else skipFrom fuel .value (frame :: frames) (← enterFrame frame c)

/-- Pass over a value. Every step but one per value consumes a character. -/
def skipValue (c : Cursor) : Except Fault Cursor :=
  skipFrom (2 * c.rest.length + 2) .value [] c

end ClientGen.Json
