import ClientGen.Decimal.Binary64

/-!
The shortest decimal that reads back as a given double. Among the decimals that round to the
double, those with the fewest digits are taken, and of these the one nearest to it.
-/
namespace ClientGen.Decimal

/-- The decimal `digits * 10 ^ exponent`. -/
structure Numeral where
  digits : Nat
  exponent : Int
  deriving DecidableEq, Repr, Inhabited

/-- The values that round to one double, in quarters of a unit: from `low` to `high`, the ends
included iff `closed`, with the double itself at `middle`. -/
structure RoundingInterval where
  low : Nat
  middle : Nat
  high : Nat
  closed : Bool

namespace Binary64

/-- Halfway to each neighbour. The gap below a power of two is half as wide as the one above. -/
def roundingInterval (x : Binary64) : RoundingInterval :=
  let middle := 4 * x.units
  let unit := Nat.pow 2 x.shift
  let below := if x.mantissa = Nat.pow 2 52 ∧ x.shift ≠ 0 then unit else 2 * unit
  ⟨middle - below, middle, middle + 2 * unit, x.mantissa % 2 = 0⟩

end Binary64

/-- How many quarters of a unit make one. -/
def quartersPerOne : Nat := 4 * Binary64.unitsPerOne

/-- A decimal as a ratio of quarters of a unit. -/
def Numeral.ratio (d : Numeral) : Nat × Nat :=
  if d.exponent < 0 then (d.digits * quartersPerOne, Nat.pow 10 d.exponent.natAbs)
  else (d.digits * Nat.pow 10 d.exponent.natAbs * quartersPerOne, 1)

namespace RoundingInterval

/-- Whether a decimal lies in the interval. -/
def holds (i : RoundingInterval) (d : Numeral) : Bool :=
  let (num, den) := d.ratio
  if i.closed then i.low * den ≤ num && num ≤ i.high * den
  else i.low * den < num && num < i.high * den

/-- How far a decimal is from the middle, times the denominator of its ratio. -/
def distance (i : RoundingInterval) (d : Numeral) : Nat :=
  let (num, den) := d.ratio
  (num - i.middle * den) + (i.middle * den - num)

/-- The two neighbours of the middle among the multiples of `10 ^ exponent`. -/
def neighbours (i : RoundingInterval) (exponent : Int) : Numeral × Numeral :=
  let below :=
    if exponent < 0 then i.middle * Nat.pow 10 exponent.natAbs / quartersPerOne
    else i.middle / (Nat.pow 10 exponent.natAbs * quartersPerOne)
  (⟨below, exponent⟩, ⟨below + 1, exponent⟩)

/-- The better of the two neighbours that the interval holds: the nearer one, and of two equally
near ones the even one. -/
def choose? (i : RoundingInterval) (exponent : Int) : Option Numeral :=
  let (below, above) := i.neighbours exponent
  match i.holds below, i.holds above with
  | false, false => none
  | true, false => some below
  | false, true => some above
  | true, true =>
    let db := i.distance below
    let da := i.distance above
    if db < da ∨ (db = da ∧ below.digits % 2 = 0) then some below else some above

end RoundingInterval

/-- The power of ten `e` with `10 ^ e ≤ x < 10 ^ (e + 1)`, for a positive double. The first guess
comes from the binary logarithm and is off by one at most. -/
def Binary64.decimalExponent (x : Binary64) : Int :=
  let guess : Int := ((x.units.log2 : Int) - 1074) * 30103 / 100000
  let reaches (e : Int) : Bool :=
    if e < 0 then Binary64.unitsPerOne ≤ x.units * Nat.pow 10 e.natAbs
    else Nat.pow 10 e.natAbs * Binary64.unitsPerOne ≤ x.units
  if reaches (guess + 1) then guess + 1 else if reaches guess then guess else guess - 1

/-- A decimal without the zeros at its end; `fuel` bounds their number. -/
def Numeral.trimZeros : Nat → Numeral → Numeral
  | 0, d => d
  | fuel + 1, d =>
    if d.digits ≠ 0 ∧ d.digits % 10 = 0 then trimZeros fuel ⟨d.digits / 10, d.exponent + 1⟩ else d

/-- The shortest decimal that reads back as a positive double. Seventeen digits always do. -/
def Binary64.shortest (x : Binary64) : Numeral :=
  let interval := x.roundingInterval
  let leading := x.decimalExponent
  let found := (List.range 17).findSome? fun (count : Nat) => interval.choose? (leading - count)
  (found.getD ⟨0, 0⟩).trimZeros 20

end ClientGen.Decimal
