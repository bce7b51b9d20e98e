/-!
Finite doubles without their sign, as exact values. A double is a whole number of the smallest
unit `2 ^ -1074`, so sums of text digits, powers of ten and quotients are compared in `Nat`, and
every operation is its exact result rounded to the nearest double, ties to the even mantissa.
-/
namespace ClientGen.Decimal

/-- The double `mantissa * 2 ^ shift` units. Rounding keeps `mantissa < 2 ^ 53`, and
`2 ^ 52 ≤ mantissa` unless `shift = 0`. -/
structure Binary64 where
  mantissa : Nat
  shift : Nat
  deriving DecidableEq, Repr, Inhabited

namespace Binary64

/-- How many units make one. -/
def unitsPerOne : Nat := Nat.pow 2 1074

/-- The greatest shift of a finite double. -/
def maxShift : Nat := 2045

/-- The value of a double in units. -/
def units (x : Binary64) : Nat := x.mantissa * Nat.pow 2 x.shift

/-- The double of no units. -/
def zero : Binary64 := ⟨0, 0⟩

def isZero (x : Binary64) : Bool := x.mantissa == 0

/-- The natural number nearest to a quotient, an exact half going to the even neighbour. -/
def roundQuotient (num den : Nat) : Nat :=
  if 2 * (num % den) < den ∨ (2 * (num % den) = den ∧ num / den % 2 = 0) then num / den
  else num / den + 1

/-- The double nearest to `num / den` units, or none when that is beyond every finite double. -/
def ofRatio? (num den : Nat) : Option Binary64 :=
  let shift := (num / den).log2 - 52
  let mantissa := roundQuotient num (den * Nat.pow 2 shift)
  let rounded := if mantissa = Nat.pow 2 53 then ⟨Nat.pow 2 52, shift + 1⟩ else ⟨mantissa, shift⟩
  if rounded.shift ≤ maxShift then some rounded else none

/-- The double nearest to a natural number. -/
def ofNat? (n : Nat) : Option Binary64 := ofRatio? (n * unitsPerOne) 1

/-- The double nearest to a product. -/
def mul? (x y : Binary64) : Option Binary64 := ofRatio? (x.units * y.units) unitsPerOne

/-- The double nearest to a quotient. -/
def div? (x y : Binary64) : Option Binary64 := ofRatio? (x.units * unitsPerOne) y.units

/-- The double nearest to `digits * 10 ^ exponent`. -/
def ofDecimal? (digits : Nat) (exponent : Int) : Option Binary64 :=
  if exponent < 0 then ofRatio? (digits * unitsPerOne) (Nat.pow 10 exponent.natAbs)
  else ofRatio? (digits * Nat.pow 10 exponent.natAbs * unitsPerOne) 1

end Binary64

end ClientGen.Decimal
