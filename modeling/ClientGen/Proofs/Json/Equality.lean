import Mathlib.Data.Int.Basic
import ClientGen.Json.Value
import ClientGen.Ordered
import ClientGen.Proofs.Decimal.Rounding

/-!
Equality of JSON values: as data, under any measure of numbers, and as a script compares them with
strict equality. A script reads every number as the nearest double and compares arrays and objects
by identity, so a literal array or object equals nothing.
-/
namespace ClientGen

namespace Json
open Decimal

namespace Number

def units : Number → Int
  | .natural n => n * Binary64.unitsPerOne
  | .negative n => -(n * Binary64.unitsPerOne)
  | .double isNegative x => if isNegative then -x.units else x.units

/-- The double nearest to a number, by its sign and its absolute value in units, which is absent
where it is beyond every finite double. -/
def nearest (n : Number) : Int × Option Nat :=
  (n.units.sign, (Binary64.ofRatio? n.units.natAbs 1).map Binary64.units)

/-- A number that is the value of a double. -/
def Exact (n : Number) : Prop := Binary64.Representable n.units.natAbs

/-- Numbers that are values of doubles have the same nearest double only if they are the same. -/
theorem nearest_eq_iff_of_exact (left : Exact m) (right : Exact n) :
    m.nearest = n.nearest ↔ m.units = n.units := by
  unfold nearest
  rw [Binary64.units_ofRatio? left, Binary64.units_ofRatio? right, Prod.mk.injEq,
    Option.some.injEq]
  constructor
  · rintro ⟨sign, magnitude⟩
    rw [← Int.sign_mul_natAbs m.units, sign, magnitude, Int.sign_mul_natAbs]
  · rintro same
    rw [same]
    exact ⟨rfl, rfl⟩

/-- Naturals up to `2 ^ 53` are values of doubles. -/
theorem exact_natural {n : Nat} (small : n ≤ 2 ^ 53) : Exact (.natural n) :=
  Binary64.representable_ofNat small

end Number

namespace Value

/-- Whether a value is neither an array nor an object. -/
def isScalar : Value → Bool
  | .array _ | .object _ => false
  | .null | .boolean _ | .number _ | .string _ => true

/-- Whether a script finds a value strictly equal to a literal. -/
def strictlyEquals : Value → Value → Bool
  | .null, .null => true
  | .boolean a, .boolean b => a == b
  | .number m, .number n => m.nearest == n.nearest
  | .string s, .string t => s == t
  | _, _ => false

/-- Equality of values as data, with numbers compared by a measure: arrays item by item, objects
member by member in any order. -/
inductive SameBy (measure : Number → α) : Value → Value → Prop
  | null : SameBy measure .null .null
  | boolean (b : Bool) : SameBy measure (.boolean b) (.boolean b)
  | number (same : measure m = measure n) : SameBy measure (.number m) (.number n)
  | string (s : String) : SameBy measure (.string s) (.string s)
  | array {xs ys : List Value} (length : xs.length = ys.length)
      (items : ∀ (i : Nat) (x y : Value), xs[i]? = some x → ys[i]? = some y → SameBy measure x y) :
      SameBy measure (.array xs) (.array ys)
  | object {xs ys : List (String × Value)}
      (names : ∀ name, xs.lookup name = none ↔ ys.lookup name = none)
      (members : ∀ name x y, xs.lookup name = some x → ys.lookup name = some y →
        SameBy measure x y) :
      SameBy measure (.object xs) (.object ys)

mutual
/-- Every value equals itself, whatever the measure. -/
theorem sameBy_refl (measure : Number → α) : (value : Value) → value.SameBy measure value
  | .null => .null
  | .boolean b => .boolean b
  | .number _ => .number rfl
  | .string s => .string s
  | .array items => .array rfl fun _ x y left right => by
    obtain rfl := Option.some.inj (left.symm.trans right)
    exact sameBy_refl_items measure items x (List.mem_of_getElem? left)
  | .object members => .object (fun _ => Iff.rfl) fun name x y left right => by
    obtain rfl := Option.some.inj (left.symm.trans right)
    exact sameBy_refl_members measure members (name, x) (Ordered.mem_of_lookup left)
private theorem sameBy_refl_items (measure : Number → α) :
    (items : List Value) → ∀ item ∈ items, item.SameBy measure item
  | [] => List.forall_mem_nil _
  | item :: rest =>
    List.forall_mem_cons.mpr ⟨sameBy_refl measure item, sameBy_refl_items measure rest⟩
private theorem sameBy_refl_members (measure : Number → α) :
    (members : List (String × Value)) → ∀ member ∈ members, member.2.SameBy measure member.2
  | [] => List.forall_mem_nil _
  | member :: rest =>
    List.forall_mem_cons.mpr ⟨sameBy_refl_member measure member, sameBy_refl_members measure rest⟩
private theorem sameBy_refl_member (measure : Number → α) :
    (member : String × Value) → member.2.SameBy measure member.2
  | (_, value) => sameBy_refl measure value
end

/-- A value that equals a scalar is one. -/
theorem SameBy.isScalar_eq {measure : Number → α} {v p : Value} (same : v.SameBy measure p) :
    v.isScalar = p.isScalar := by
  cases same <;> rfl

/-- Equality of scalars under one measure is equality under another that finds the same numbers the
same. -/
theorem SameBy.change {measure : Number → α} {other : Number → β} {v p : Value}
    (same : v.SameBy measure p) (scalar : v.isScalar = true)
    (numbers : ∀ m n, v = .number m → p = .number n → measure m = measure n → other m = other n) :
    v.SameBy other p := by
  cases same with
  | null => exact .null
  | boolean b => exact .boolean b
  | number same => exact .number (numbers _ _ rfl rfl same)
  | string s => exact .string s
  | array => cases scalar
  | object => cases scalar

/-- A value that is no number, or one that is the value of a double. -/
def Exact (value : Value) : Prop := ∀ n, value = .number n → n.Exact

/-- Scalars whose numbers are doubles are equal as data if a script finds them so. -/
theorem sameBy_nearest_iff {v p : Value} (scalar : v.isScalar = true) (left : v.Exact)
    (right : p.Exact) : v.SameBy Number.nearest p ↔ v.SameBy Number.units p := by
  have tell : ∀ m n, v = .number m → p = .number n → (m.nearest = n.nearest ↔ m.units = n.units) :=
    fun m n isLeft isRight => Number.nearest_eq_iff_of_exact (left m isLeft) (right n isRight)
  constructor
  · exact fun same => same.change scalar fun m n isLeft isRight => (tell m n isLeft isRight).mp
  · exact fun same => same.change scalar fun m n isLeft isRight => (tell m n isLeft isRight).mpr

/-- Scripts find a value equal to a literal if it is a scalar and the two are equal as data, with
numbers read as doubles. -/
theorem strictlyEquals_iff (v p : Value) :
    v.strictlyEquals p = true ↔ v.isScalar = true ∧ v.SameBy Number.nearest p := by
  constructor
  · intro equal
    cases v <;> cases p <;> simp only [strictlyEquals, beq_iff_eq] at equal
    case null.null => exact ⟨rfl, .null⟩
    case boolean.boolean => exact ⟨rfl, equal ▸ .boolean _⟩
    case number.number => exact ⟨rfl, .number equal⟩
    case string.string => exact ⟨rfl, equal ▸ .string _⟩
    all_goals cases equal
  · rintro ⟨scalar, same⟩
    cases same with
    | null => rfl
    | boolean b => exact beq_self_eq_true b
    | number same => exact beq_iff_eq.mpr same
    | string s => exact beq_self_eq_true s
    | array => cases scalar
    | object => cases scalar

end Value
end Json
end ClientGen
