import ClientGen.Proofs.TypeScript.StringLiteral
import ClientGen.Proofs.Validator.Acceptance

/-!
Values that enumerations accept. In all three forms the validator accepts the scalars among the
listed values, as far as scripts tell them apart, and no array or object, since a literal is
compared by identity.
-/
namespace ClientGen
open Json TypeScript

namespace Schema

variable {library : Library}

theorem accepts_literal_iff (p v : Value) : (Validator.literal p).Accepts library v ↔
    v.isScalar = true ∧ v.SameBy Number.nearest p :=
  Value.strictlyEquals_iff v p

theorem accepts_literals_iff (values : List Value) (v : Value) :
    (Validator.union (values.map .literal)).Accepts library v ↔
      v.isScalar = true ∧ ∃ p ∈ values, v.SameBy Number.nearest p := by
  rw [Validator.Accepts, Validator.someAccepts_iff]
  constructor
  · rintro ⟨member, inUnion, accepts⟩
    obtain ⟨p, listed, rfl⟩ := List.mem_map.mp inUnion
    obtain ⟨scalar, same⟩ := (accepts_literal_iff p v).mp accepts
    exact ⟨scalar, p, listed, same⟩
  · rintro ⟨scalar, p, listed, same⟩
    exact ⟨_, List.mem_map_of_mem listed, (accepts_literal_iff p v).mpr ⟨scalar, same⟩⟩

theorem accepts_choice_iff {values : List Value} (strings : values.all Value.isString = true)
    (v : Value) : (Validator.choice values).Accepts library v ↔
      v.isScalar = true ∧ ∃ p ∈ values, v.SameBy Number.nearest p := by
  constructor
  · rintro ⟨s, rfl, listed⟩
    exact ⟨rfl, .string s, listed, .string s⟩
  · rintro ⟨-, p, listed, same⟩
    have isString := List.all_eq_true.mp strings p listed
    cases same with
    | string s => exact ⟨s, rfl, listed⟩
    | _ => cases isString

/-- What the validator of an enumeration accepts. -/
theorem accepts_enumeration_iff (hint : String) {values : List Value} (listed : values ≠ [])
    (v : Value) : (compileEnumeration hint values).result.validator.Accepts library v ↔
      v.isScalar = true ∧ ∃ p ∈ values, v.SameBy Number.nearest p := by
  match values, listed with
  | [value], _ =>
    have alone : (∃ p ∈ [value], v.SameBy Number.nearest p) ↔ v.SameBy Number.nearest value := by
      simp
    rw [alone]
    exact accepts_literal_iff value v
  | first :: second :: rest, _ =>
    unfold compileEnumeration
    dsimp only
    split
    next strings => exact accepts_choice_iff strings v
    next => exact accepts_literals_iff _ v

/-- The validator of an enumeration accepts the scalars that a script cannot tell from a listed
value. Among values whose numbers are doubles these are the scalars that are listed, by numeric
value. The enumeration is the closed set of its values exactly if no array and no object is among
them. The literal that is written for a listed string stands for this string. -/
theorem enumeration_accepts_scalars (hint : String) (values : List Value) (listed : values ≠ [])
    (library : Library) :
    let validator := (compileEnumeration hint values).result.validator
    (∀ v, validator.Accepts library v ↔
      v.isScalar = true ∧ ∃ p ∈ values, v.SameBy Number.nearest p) ∧
    (∀ v, v.Exact → (∀ p ∈ values, p.Exact) →
      (validator.Accepts library v ↔ v.isScalar = true ∧ ∃ p ∈ values, v.SameBy Number.units p)) ∧
    ((∀ v, validator.Accepts library v ↔ ∃ p ∈ values, v.SameBy Number.nearest p) ↔
      ∀ p ∈ values, p.isScalar = true) ∧
    ∀ s, .string s ∈ values → literalText? (Value.string s).chars = some s.toList := by
  intro validator
  have accepts : ∀ v, validator.Accepts library v ↔
      v.isScalar = true ∧ ∃ p ∈ values, v.SameBy Number.nearest p :=
    accepts_enumeration_iff hint listed
  refine ⟨accepts, ?_, ?_, fun s _ => literalText?_stringChars s.toList⟩
  · intro v exactly each
    rw [accepts]
    refine and_congr_right fun scalar => exists_congr fun p => and_congr_right fun inList => ?_
    exact Value.sameBy_nearest_iff scalar exactly (each p inList)
  · constructor
    · intro closed p inList
      have own := (closed p).mpr ⟨p, inList, Value.sameBy_refl _ p⟩
      exact ((accepts p).mp own).1
    · intro scalars v
      rw [accepts]
      refine and_iff_right_of_imp ?_
      rintro ⟨p, inList, same⟩
      rw [same.isScalar_eq]
      exact scalars p inList

/-- A number, a string with escapes and an array with the number in it. -/
def mixedValues : List Value :=
  [.number (.natural 1), .string "a\"b\n", .array [.number (.natural 1)]]

/-- The number is accepted by its value, the array is not accepted although it is listed. -/
theorem enumeration_accepts_scalars_mixed :
    mixedValues ≠ [] ∧
      (compileEnumeration "" mixedValues).result.validator.Accepts .lenient (.number (.natural 1)) ∧
      ¬(compileEnumeration "" mixedValues).result.validator.Accepts .lenient
        (.array [.number (.natural 1)]) ∧
      literalText? (Value.string "a\"b\n").chars = some "a\"b\n".toList := by
  have listed : mixedValues ≠ [] := List.cons_ne_nil _ _
  obtain ⟨accepts, exactly, -, texts⟩ := enumeration_accepts_scalars "" mixedValues listed .lenient
  have one : (Value.number (.natural 1)).Exact := by
    rintro n ⟨rfl⟩
    exact Number.exact_natural (by decide)
  have doubles : ∀ p ∈ mixedValues, p.Exact := by
    simp only [mixedValues, List.forall_mem_cons]
    exact ⟨one, nofun, nofun, List.forall_mem_nil _⟩
  refine ⟨listed, ?_, ?_, texts _ (by simp [mixedValues])⟩
  · exact (exactly _ one doubles).mpr ⟨rfl, _, List.mem_cons_self, .number rfl⟩
  · intro array
    cases ((accepts _).mp array).1

end Schema
end ClientGen
