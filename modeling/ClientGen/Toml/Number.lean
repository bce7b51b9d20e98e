import ClientGen.Toml.Text
import ClientGen.Toml.Value

/-!
Numbers of TOML. An underscore may stand between two digits. Integers have 64 bits; numbers with a
point or an exponent are doubles, rounded to the nearest.
-/
namespace ClientGen.Toml
open Decimal

/-- Read the digits behind a first one, without the underscores between them. -/
def readMoreDigits (isDigit : Char → Bool) : List Char → Option (List Char × List Char)
  | [] => some ([], [])
  | '_' :: c :: rest =>
    if isDigit c then do
      let (digits, rest) ← readMoreDigits isDigit rest
      return (c :: digits, rest)
    else none
  | c :: rest =>
    if isDigit c then do
      let (digits, rest) ← readMoreDigits isDigit rest
      return (c :: digits, rest)
    else some ([], c :: rest)

/-- Read digits, of which there is at least one. -/
def readDigits (isDigit : Char → Bool) : List Char → Option (List Char × List Char)
  | [] => none
  | c :: rest =>
    if isDigit c then do
      let (digits, rest) ← readMoreDigits isDigit rest
      return (c :: digits, rest)
    else none

/-- Read a sign, if one is next: whether it is negative. -/
def readSign : List Char → Bool × List Char
  | '+' :: rest => (false, rest)
  | '-' :: rest => (true, rest)
  | cs => (false, cs)

/-- Read the digits of a decimal integer: a zero alone, or digits that start with no zero. -/
def readWhole : List Char → Option (List Char × List Char)
  | '0' :: rest => some (['0'], rest)
  | cs => readDigits Char.isDigit cs

def decimal (digits : List Char) : Nat :=
  digits.foldl (fun number c => number * 10 + (c.toNat - '0'.toNat)) 0

/-- The integer of a sign and an absolute value, if it has 64 bits. -/
def integer? (isNegative : Bool) (magnitude : Nat) : Option Value :=
  if isNegative then
    if magnitude ≤ Nat.pow 2 63 then some (.integer (-magnitude)) else none
  else if magnitude < Nat.pow 2 63 then some (.integer magnitude)
  else none

/-- Read an integer in a base after the two characters that name the base. -/
def readInBase (base : Nat) (cs : List Char) : Option (Value × List Char) := do
  let (digits, rest) ← readDigits (fun c => (Text.digitIn? base c).isSome) cs
  let value ← integer? false (← Text.numberIn? base digits)
  return (value, rest)

def readFraction : List Char → Option (List Char × List Char)
  | '.' :: rest => readDigits Char.isDigit rest
  | cs => some ([], cs)

/-- Read an exponent with its letter, if one is next. -/
def readExponent (cs : List Char) : Option (Option Int × List Char) :=
  match cs with
  | 'e' :: rest | 'E' :: rest => do
    let (isDown, rest) := readSign rest
    let (digits, rest) ← readDigits Char.isDigit rest
    let magnitude : Int := decimal digits
    return (some (if isDown then -magnitude else magnitude), rest)
  | _ => some (none, cs)

/-- The double nearest to digits times a power of ten. Powers beyond every double are not computed.
-/
def magnitude? (digits : List Char) (exponent : Int) : Option Binary64 :=
  let significand := decimal digits
  if significand = 0 ∨ exponent + digits.length < -400 then some .zero
  else if 400 < exponent + (Nat.toDigits 10 significand).length then none
  else Binary64.ofDecimal? significand exponent

/-- The real number of a sign and a magnitude. Too great a magnitude gives an infinite number with a
minus sign, and no number without. -/
def real? (isNegative : Bool) : Option Binary64 → Option Real
  | some magnitude => some (.finite isNegative magnitude)
  | none => if isNegative then some (.infinite true) else none

def readDecimal (isNegative : Bool) (cs : List Char) : Option (Value × List Char) := do
  let (whole, rest) ← readWhole cs
  let (fraction, rest) ← readFraction rest
  let (exponent, rest) ← readExponent rest
  if fraction = [] ∧ exponent.isNone then return (← integer? isNegative (decimal whole), rest)
  else
    let shift := exponent.getD 0 - fraction.length
    return (.real (← real? isNegative (magnitude? (whole ++ fraction) shift)), rest)

def readNumber : List Char → Option (Value × List Char)
  | '0' :: 'x' :: rest => readInBase 16 rest
  | '0' :: 'o' :: rest => readInBase 8 rest
  | '0' :: 'b' :: rest => readInBase 2 rest
  | cs =>
    match readSign cs with
    | (isNegative, 'i' :: 'n' :: 'f' :: rest) => some (.real (.infinite isNegative), rest)
    | (_, 'n' :: 'a' :: 'n' :: rest) => some (.real .notANumber, rest)
    | (isNegative, rest) => readDecimal isNegative rest

end ClientGen.Toml
