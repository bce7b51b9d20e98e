import ClientGen.Decimal.Text

/-!
Numbers of JSON text. A number without point and exponent that fits 64 bits is exact; every other
number is the double that its leading digits and its power of ten give.
-/
namespace ClientGen.Json
open Decimal

/-- A number: a natural below `2 ^ 64`, a negative integer not below `-2 ^ 63` given by its absolute
value, or a double. -/
inductive Number where
  | natural (n : Nat)
  | negative (n : Nat)
  | double (isNegative : Bool) (magnitude : Binary64)
  deriving DecidableEq, Repr, Inhabited

namespace Number

/-- The greatest number of 64 bits. -/
def maxNatural : Nat := Nat.pow 2 64 - 1

/-- The absolute value of the least integer of 64 bits. -/
def maxNegative : Nat := Nat.pow 2 63

/-- Append digits to a significand as long as it fits 64 bits, and give back the digits that did
not fit. -/
def accumulate (significand : Nat) : List Nat → Nat × List Nat
  | [] => (significand, [])
  | digit :: rest =>
    if significand * 10 + digit ≤ maxNatural then accumulate (significand * 10 + digit) rest
    else (significand, digit :: rest)

/-- The double nearest to `10 ^ 308`, the greatest power of ten that divides in one step. -/
def greatestPower : Binary64 := (Binary64.ofNat? (Nat.pow 10 308)).getD .zero

/-- A double divided by a power of ten, in steps of the greatest power. -/
def divideByPower (x : Binary64) (exponent : Nat) : Binary64 :=
  if exponent ≤ 308 then ((Binary64.ofNat? (Nat.pow 10 exponent)).bind x.div?).getD .zero
  else if x.isZero then x
  else divideByPower ((x.div? greatestPower).getD .zero) (exponent - 308)
  termination_by exponent

/-- A double times a power of ten, or none when that is beyond every finite double. -/
def scale? (x : Binary64) (exponent : Int) : Option Binary64 :=
  if exponent < 0 then some (divideByPower x exponent.natAbs)
  else if exponent.natAbs ≤ 308 then (Binary64.ofNat? (Nat.pow 10 exponent.natAbs)).bind x.mul?
  else if x.isZero then some x
  else none

/-- A number as it is written, in decimal digits. The exponent is absent where none is written. -/
structure Parts where
  isNegative : Bool
  whole : List Nat
  fraction : List Nat
  exponent : Option Int

/-- The digits of both parts that fit 64 bits, and the power of ten that the point and the digits
left out account for. -/
def Parts.significand (parts : Parts) : Nat × Int :=
  let (whole, dropped) := accumulate 0 parts.whole
  let (all, unused) := accumulate whole parts.fraction
  (all, (dropped.length : Int) - ((parts.fraction.length - unused.length : Nat) : Int))

/-- The number that is written, or none when it is beyond every finite double. -/
def ofParts? (parts : Parts) : Option Number :=
  let (digits, shift) := parts.significand
  let rounded := (Binary64.ofNat? digits).getD .zero
  match parts.exponent with
  | none =>
    if parts.fraction = [] ∧ shift = 0 then
      if !parts.isNegative then some (.natural digits)
      else if 0 < digits ∧ digits ≤ maxNegative then some (.negative digits)
      else some (.double true rounded)
    else (scale? rounded shift).map (.double parts.isNegative ·)
  | some exponent => (scale? rounded (shift + exponent)).map (.double parts.isNegative ·)

def chars (layout : Layout) : Number → List Char
  | .natural n => Nat.toDigits 10 n
  | .negative n => '-' :: Nat.toDigits 10 n
  | .double isNegative magnitude => magnitude.text layout isNegative

/-- A number in the layout of data. -/
def text (n : Number) : String := String.ofList (n.chars .data)

/-- The number as a count, if it is a natural. -/
def count? : Number → Option Nat
  | .natural n => some n
  | _ => none

end Number

end ClientGen.Json
