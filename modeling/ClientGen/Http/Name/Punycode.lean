/-!
Punycode: a text as ASCII. The ASCII characters of the text come first, then numbers that tell one
by one, in increasing order of code points, where the other characters go. A number is written with
the lowest digit first; how much the next digits count adapts to the numbers before.
-/
namespace ClientGen.Http.Punycode

/-- The digit of a value below 36: a letter, or from 26 on a decimal digit. -/
def digit (value : Nat) : Char :=
  Char.ofNat (if value < 26 then 'a'.toNat + value else '0'.toNat + (value - 26))

def digitValue? (c : Char) : Option Nat :=
  if 'a' ≤ c ∧ c ≤ 'z' then some (c.toNat - 'a'.toNat)
  else if c.isDigit then some (c.toNat - '0'.toNat + 26)
  else none

/-- The least digit that is not the last of its number at a place; places go up by 36. -/
def threshold (bias place : Nat) : Nat :=
  if place ≤ bias then 1 else if bias + 26 ≤ place then 26 else place - bias

private theorem threshold_pos (bias place : Nat) : 0 < threshold bias place := by
  unfold threshold
  split
  · omega
  · split <;> omega

/-- How far a number must go down, and what is left of it. -/
def scale (bias number : Nat) : Nat × Nat :=
  if 455 < number then scale (bias + 36) (number / 35) else (bias, number)
termination_by number
decreasing_by omega

/-- The bias behind a number that puts a character into a text, given the length of the text with
that character. -/
def adapt (number length : Nat) (isFirst : Bool) : Nat :=
  let damped := number / if isFirst then 700 else 2
  let (bias, rest) := scale 0 (damped + damped / length)
  bias + 36 * rest / (rest + 38)

def digits (bias place number : Nat) : List Char :=
  if number < threshold bias place then [digit number]
  else
    let span := 36 - threshold bias place
    let excess := number - threshold bias place
    digit (threshold bias place + excess % span) :: digits bias (place + 36) (excess / span)
termination_by number
decreasing_by
  have positive := threshold_pos bias place
  have smaller := Nat.div_le_self (number - threshold bias place) (36 - threshold bias place)
  omega

/-- How far a text is encoded. -/
structure Encoding where
  /-- The numbers written so far. -/
  written : List Char
  /-- How many places have been passed since the last number. -/
  passed : Nat
  bias : Nat
  /-- How many characters have been told. -/
  told : Nat

/-- Pass a character on the way to all places of a code point, or tell it if it has that code
point. -/
def Encoding.pass (basics code : Nat) (state : Encoding) (c : Char) : Encoding :=
  if c.toNat < code then { state with passed := state.passed + 1 }
  else if c.toNat = code then
    { written := state.written ++ digits state.bias 36 state.passed
      passed := 0
      bias := adapt state.passed (state.told + 1) (state.told == basics)
      told := state.told + 1 }
  else state

/-- Tell the places of code points, given in increasing order behind one that is told. -/
def encodeCodes (text : List Char) (basics before : Nat) (state : Encoding) :
    List Nat → Encoding
  | [] => state
  | code :: codes =>
    let here := { state with passed := state.passed + (code - before) * (state.told + 1) }
    let done := text.foldl (Encoding.pass basics code) here
    encodeCodes text basics (code + 1) { done with passed := done.passed + 1 } codes

/-- Whether a character is one of ASCII. -/
def isBasic (c : Char) : Bool := c.toNat < 0x80

/-- A text as ASCII. -/
def encode (text : List Char) : List Char :=
  let basics := text.filter isBasic
  let codes := ((text.filter (!isBasic ·)).map Char.toNat).mergeSort.eraseDups
  let start : Encoding := ⟨[], 0, 72, basics.length⟩
  basics ++ (if basics = [] then [] else ['-']) ++
    (encodeCodes text basics.length 0x80 start codes).written

/-- How far a text is decoded. -/
structure Decoding where
  /-- The text so far. -/
  text : List Char
  /-- Where in the text the search for the next place starts. -/
  place : Nat
  /-- The code point of the last character told. -/
  code : Nat
  bias : Nat
  /-- The number that is being read. -/
  number : Nat
  /-- What the next digit of it counts. -/
  weight : Nat
  /-- The place of the next digit in it. -/
  position : Nat

/-- Put the character into the text that a complete number tells. -/
def Decoding.put (state : Decoding) (number : Nat) : Option Decoding :=
  let length := state.text.length + 1
  let code := state.code + (state.place + number) / length
  let place := (state.place + number) % length
  if code.isValidChar then
    some {
      text := state.text.take place ++ Char.ofNat code :: state.text.drop place
      place := place + 1
      code
      bias := adapt number length (state.place == 0)
      number := 0
      weight := 1
      position := 36 }
  else none

/-- Read one digit. What a digit counts must fit 32 bits. -/
def Decoding.read (state : Decoding) (c : Char) : Option Decoding := do
  let value ← digitValue? c
  let number := state.number + value * state.weight
  let least := threshold state.bias state.position
  let weight := state.weight * (36 - least)
  if value < least then state.put number
  else if Nat.pow 2 32 ≤ weight then none
  else return { state with number, weight, position := state.position + 36 }

/-- The text that an encoded one stands for. What precedes the last hyphen stands for itself; there
is no hyphen where nothing precedes it. -/
def decode? (encoded : List Char) : Option (List Char) := do
  let numbers := (encoded.reverse.takeWhile (· != '-')).reverse
  let basics := encoded.take (encoded.length - numbers.length - 1)
  if encoded.head? = some '-' ∧ basics = [] then none
  let start : Decoding := ⟨basics, 0, 0x80, 72, 0, 1, 36⟩
  let state ← numbers.foldlM Decoding.read start
  if state.position = 36 then return state.text else none

end ClientGen.Http.Punycode
