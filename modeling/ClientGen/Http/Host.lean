import ClientGen.Http.Name.Ascii
import ClientGen.Http.Percent

/-!
Hosts of URLs: names and addresses of either length. A name whose last part is a number is an
address of 32 bits or no host at all. Names are kept in their ASCII form.
-/
namespace ClientGen.Http

inductive Host where
  | name (text : String)
  | address32 (address : Nat)
  /-- An address of eight pieces of 16 bits. -/
  | address128 (pieces : List Nat)
  deriving DecidableEq, Repr, Inhabited

/-- The number that a part of an address writes: hexadecimal behind `0x`, octal behind a zero, else
decimal. -/
def addressPart? : List Char → Option Nat
  | [] => none
  | '0' :: 'x' :: rest | '0' :: 'X' :: rest => Text.numberIn? 16 rest
  | '0' :: c :: rest => Text.numberIn? 8 (c :: rest)
  | digits => Text.numberIn? 10 digits

/-- The parts of a name between its dots, without an empty last one. -/
def nameParts (name : List Char) : List (List Char) :=
  let parts := Text.split (· == '.') name
  if parts.getLast? = some [] ∧ 1 < parts.length then parts.dropLast else parts

/-- Whether a name must be an address, since its last part is a number. -/
def endsInNumber (name : List Char) : Bool :=
  (nameParts name).getLast?.any fun part =>
    (part ≠ [] && part.all Char.isDigit) || (addressPart? part).isSome

/-- The address of 32 bits that parts give. The last part fills all the bits that are left, the
others eight each. -/
def address32? (parts : List (List Char)) : Option Nat := do
  let numbers ← parts.mapM addressPart?
  let last ← numbers.getLast?
  let leading := numbers.dropLast
  let span := Nat.pow 256 (4 - leading.length)
  if 3 < leading.length ∨ leading.any (255 < ·) ∨ span ≤ last then none
  return leading.foldl (fun address n => address * 256 + n) 0 * span + last

/-- The eight bits that a decimal part of an address gives. -/
def octet? (digits : List Char) : Option Nat := do
  if digits = [] ∨ (digits.head? = some '0' ∧ digits ≠ ['0']) then none
  let number ← Text.numberIn? 10 digits
  if number ≤ 255 then return number else none

/-- The pieces of 16 bits that a part between colons gives: up to four hexadecimal digits, or for a
last part also an address of 32 bits in four decimal parts. -/
def piecesOfPart? (isLast : Bool) (part : List Char) : Option (List Nat) := do
  if part ≠ [] ∧ part.length ≤ 4 ∧ part.all (fun c => (Text.hexValue? c).isSome) then
    return [← Text.numberIn? 16 part]
  else if isLast then
    match ← (Text.split (· == '.') part).mapM octet? with
    | [a, b, c, d] => return [a * 256 + b, c * 256 + d]
    | _ => none
  else none

/-- The pieces of the parts between colons; nothing at all has none. -/
def piecesOfParts? (isLast : Bool) (text : List Char) : Option (List Nat) :=
  if text = [] then some []
  else
    let parts := Text.split (· == ':') text
    (parts.zipIdx.mapM fun (part, index) =>
      piecesOfPart? (isLast && index + 1 == parts.length) part).map List.flatten

/-- A text cut at its first two colons in a row, if it has them. -/
def cutAtGap : List Char → Option (List Char × List Char)
  | ':' :: ':' :: rest => some ([], rest)
  | c :: rest => (cutAtGap rest).map fun (left, right) => (c :: left, right)
  | [] => none

/-- The address of 128 bits that the text between brackets gives. Two colons in a row stand for as
many zeros as are missing, at least one. -/
def address128? (text : List Char) : Option Host := do
  match cutAtGap text with
  | some (left, right) =>
    let left ← piecesOfParts? false left
    let right ← piecesOfParts? true right
    if 7 < left.length + right.length then none
    return .address128 (left ++ List.replicate (8 - left.length - right.length) 0 ++ right)
  | none =>
    let pieces ← piecesOfParts? true text
    if pieces.length = 8 then return .address128 pieces else none

/-- The address of 128 bits between brackets. -/
def bracketed? (text : List Char) : Option Host :=
  if text.getLast? = some ']' then address128? (text.drop 1).dropLast else none

/-- The host that a text gives where hosts are looked up. -/
def Host.parse (text : List Char) : Option Host := do
  if text.head? = some '[' then bracketed? text
  else
    let name ← asciiName? (← percentDecode? text)
    if name = [] then none
    else if endsInNumber name then return .address32 (← address32? (nameParts name))
    else return .name (String.ofList name)

/-- The host that a text gives where hosts have no meaning of their own. -/
def Host.parseOpaque (text : List Char) : Option Host :=
  if text.head? = some '[' then bracketed? text
  else if text.any isForbidden then none
  else some (.name (String.ofList (percentEncode (fun _ => false) text)))

/-- A piece of an address in hexadecimal. -/
def pieceChars (piece : Nat) : List Char := Nat.toDigits 16 piece

/-- How many zeros a list starts with. -/
def leadingZeros (pieces : List Nat) : Nat := (pieces.takeWhile (· == 0)).length

/-- Where the first longest row of zeros starts and how long it is. -/
def longestGap (index : Nat) (best : Nat × Nat) : List Nat → Nat × Nat
  | [] => best
  | piece :: rest =>
    let here := leadingZeros (piece :: rest)
    longestGap (index + 1) (if best.2 < here then (index, here) else best) rest

/-- An address of 128 bits; the longest row of at least two zeros is left out. -/
def address128Chars (pieces : List Nat) : List Char :=
  let joined := fun part => List.intercalate [':'] (part.map pieceChars)
  match longestGap 0 (0, 1) pieces with
  | (_, 0) | (_, 1) => joined pieces
  | (start, length) =>
    joined (pieces.take start) ++ ':' :: ':' :: joined (pieces.drop (start + length))

def Host.chars : Host → List Char
  | .name text => text.toList
  | .address32 address =>
    List.intercalate ['.'] ([3, 2, 1, 0].map fun place =>
      Nat.toDigits 10 (address / Nat.pow 256 place % 256))
  | .address128 pieces => '[' :: address128Chars pieces ++ [']']

end ClientGen.Http
