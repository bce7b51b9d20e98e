import Mathlib.Algebra.Group.Nat.Defs
import ClientGen.Decimal.Binary64

/-!
Rounding of exact values. A whole number of units that is the value of a double is rounded to
itself; the whole numbers up to `2 ^ 53` are among these values.
-/
namespace ClientGen.Decimal.Binary64

/-- A number of units that is the value of a double. -/
def Representable (value : Nat) : Prop :=
  ∃ digits exponent, digits < 2 ^ 53 ∧ exponent ≤ maxShift ∧ value = digits * 2 ^ exponent

/-- Up to `2 ^ 53` digits make a double at every place but the last. -/
theorem representable_mul {digits : Nat} (small : digits ≤ 2 ^ 53) {exponent : Nat}
    (bounded : exponent < maxShift) : Representable (digits * Nat.pow 2 exponent) := by
  rw [Nat.pow_eq]
  rcases Nat.lt_or_eq_of_le small with below | rfl
  · exact ⟨digits, exponent, below, Nat.le_of_lt bounded, rfl⟩
  · refine ⟨2 ^ 52, exponent + 1, by decide, bounded, ?_⟩
    rw [← Nat.pow_add, ← Nat.pow_add, Nat.add_comm exponent 1, ← Nat.add_assoc]

/-- Whole numbers up to `2 ^ 53` are doubles. -/
theorem representable_ofNat {n : Nat} (small : n ≤ 2 ^ 53) : Representable (n * unitsPerOne) := by
  unfold unitsPerOne
  generalize place : 1074 = exponent
  exact representable_mul small (place ▸ by decide)

theorem roundQuotient_eq {value quotient divisor : Nat} (positive : 0 < divisor)
    (whole : value = quotient * divisor) : roundQuotient value divisor = quotient := by
  have small : 2 * (value % divisor) < divisor := by
    rw [whole, Nat.mul_mod_left]
    exact positive
  rw [roundQuotient, if_pos (.inl small), whole, Nat.mul_div_cancel quotient positive]

def chosenShift (value : Nat) : Nat := value.log2 - 52

/-- A value fits into the digits that its shift leaves. -/
theorem lt_pow_chosenShift (value : Nat) : value < 2 ^ 53 * 2 ^ chosenShift value := by
  rw [← Nat.pow_add]
  refine Nat.lt_of_lt_of_le Nat.lt_log2_self (Nat.pow_le_pow_right Nat.two_pos ?_)
  rw [chosenShift]
  omega

/-- No smaller shift is needed where few digits are enough. -/
theorem chosenShift_le {digits : Nat} (small : digits < 2 ^ 53) (exponent : Nat) :
    chosenShift (digits * 2 ^ exponent) ≤ exponent := by
  rw [chosenShift]
  rcases Nat.eq_zero_or_pos (digits * 2 ^ exponent) with zero | positive
  · rw [zero]
    exact Nat.zero_le _
  · have below : digits * 2 ^ exponent < 2 ^ (53 + exponent) := by
      rw [Nat.pow_add]
      exact Nat.mul_lt_mul_of_pos_right small (Nat.two_pow_pos exponent)
    have := (Nat.log2_lt (Nat.ne_of_gt positive)).mpr below
    omega

/-- The value of a double is its own rounding. -/
theorem units_ofRatio? {value : Nat} (representable : Representable value) :
    (ofRatio? value 1).map units = some value := by
  obtain ⟨digits, exponent, small, bounded, same⟩ := representable
  have shift : chosenShift value ≤ exponent := same ▸ chosenShift_le small exponent
  obtain ⟨kept, whole⟩ : ∃ kept, value = kept * 2 ^ chosenShift value :=
    ⟨digits * 2 ^ (exponent - chosenShift value), by
      rw [Nat.mul_assoc, ← Nat.pow_add, Nat.sub_add_cancel shift, same]⟩
  have fits : kept ≠ Nat.pow 2 53 := by
    rintro rfl
    exact Nat.ne_of_lt (lt_pow_chosenShift value) whole
  have rounded : roundQuotient value (1 * Nat.pow 2 (chosenShift value)) = kept := by
    rw [Nat.one_mul]
    exact roundQuotient_eq (Nat.two_pow_pos _) whole
  have finite : ofRatio? value 1 = some ⟨kept, chosenShift value⟩ := by
    rw [chosenShift] at rounded shift ⊢
    unfold ofRatio?
    dsimp only
    rw [Nat.div_one, rounded, if_neg fits, if_pos (Nat.le_trans shift bounded)]
  rw [finite]
  exact congrArg some whole.symm

end ClientGen.Decimal.Binary64
