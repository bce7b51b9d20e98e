import ClientGen.Proofs.Json.Equality
import ClientGen.Proofs.Schema.Inference

/-!
What validators accept. The meaning of checks and of validators that are declared elsewhere is left
open, and so is which properties may be missing; all else is said as the schema library says it: an
object validator refuses the objects that lack a property which may not be missing or that hold one
of the wrong kind, a record takes any names, and a literal takes what is strictly equal to it.

There are two rules for a property that is missing. By one, the mark that makes a validator optional
decides. By the other, which is what happens at run time, the validator of the property is handed
`undefined`, and some validators without a mark accept it.
-/
namespace ClientGen
open Json

namespace Validator

mutual
/-- The validators that accept `undefined`, given which of those declared elsewhere do. Checks are
for strings, numbers and arrays, so they let nothing through that their base does not. -/
def TakesUndefined (declared : String → Prop) : Validator → Prop
  | .unknown | .optional _ => True
  | .reference name => declared name
  | .nullable base | .checked base _ => TakesUndefined declared base
  | .union members => SomeTakesUndefined declared members
  | _ => False
def SomeTakesUndefined (declared : String → Prop) : List Validator → Prop
  | [] => False
  | member :: rest => TakesUndefined declared member ∨ SomeTakesUndefined declared rest
end

end Validator

/-- What is left open about acceptance: the values that pass a check, those that a validator
declared elsewhere accepts, and the validators whose properties an object may lack. -/
structure Library where
  passes : Check → Value → Prop
  declared : String → Value → Prop
  mayLack : Validator → Prop

namespace Library

/-- All checks and all validators declared elsewhere accept everything, and what is marked as
optional may be missing. -/
def lenient : Library := ⟨fun _ _ => True, fun _ _ => True, fun property => property.isOptional⟩

/-- Objects are refused for just the missing properties that are not marked as optional. -/
def GoesByMarks (library : Library) : Prop :=
  ∀ property, library.mayLack property ↔ property.isOptional = true

/-- The validator of a missing property is handed `undefined`. -/
def HandsUndefined (library : Library) (declared : String → Prop) : Prop :=
  ∀ property, library.mayLack property ↔ property.TakesUndefined declared

theorem lenient_goesByMarks : lenient.GoesByMarks := fun _ => Iff.rfl

end Library

namespace Validator

/-- What stands in the literal of an object validator, also where it may hold others. -/
def entries : Validator → List (String × Validator)
  | .object entries => entries
  | .catchall base _ => base.entries
  | _ => []

/-- The properties that an object validator has from its literal. An entry for `__proto__` gives it
none: in front of a colon, this key sets the prototype of the literal. -/
def properties (validator : Validator) : List (String × Validator) :=
  Ordered.erase "__proto__" validator.entries

/-- Whether a property of a validator is marked as optional; none where the validator has no such
property. -/
def optionality? (validator : Validator) (name : String) : Option Bool :=
  (validator.properties.lookup name).map isOptional

/-- Whether a validator is one of objects and has a property that is not marked as optional. -/
def demands (validator : Validator) (name : String) : Bool :=
  validator.optionality? name == some false

/-- All properties of a name in a validator accept `undefined`, so that objects may lack it. -/
def Spares (declared : String → Prop) (validator : Validator) (name : String) : Prop :=
  ∀ property, (name, property) ∈ validator.properties → property.TakesUndefined declared

variable (library : Library)

mutual
/-- The values that a validator accepts. -/
def Accepts : Validator → Value → Prop
  | .string, value => ∃ s, value = .string s
  | .number, value => ∃ n, value = .number n
  | .boolean, value => ∃ b, value = .boolean b
  | .null, value => value = .null
  | .unknown, _ => True
  | .literal listed, value => value.strictlyEquals listed = true
  | .choice values, value => ∃ s, value = .string s ∧ .string s ∈ values
  | .reference name, value => library.declared name value
  | .array item, value => ∃ items, value = .array items ∧ ∀ each ∈ items, Accepts item each
  | .object entries, value => ∃ members, value = .object members ∧ EntriesAccept entries members
  | .record entry, value =>
    ∃ members, value = .object members ∧ ∀ member ∈ members, Accepts entry member.2
  | .union members, value => SomeAccepts members value
  | .checked base check, value => Accepts base value ∧ library.passes check value
  | .optional base, value => Accepts base value
  | .nullable base, value => value = .null ∨ Accepts base value
  | .catchall base others, value => Accepts base value ∧ ∀ members, value = .object members →
      ∀ member ∈ members, base.optionality? member.1 = none → Accepts others member.2
def EntriesAccept : List (String × Validator) → List (String × Value) → Prop
  | [], _ => True
  | entry :: rest, members => EntryAccepts entry members ∧ EntriesAccept rest members
/-- Objects that have the property for which an entry stands, if it stands for one. -/
def EntryAccepts : String × Validator → List (String × Value) → Prop
  | (name, validator), members => name ≠ "__proto__" →
    (∀ value, members.lookup name = some value → Accepts validator value) ∧
      (members.lookup name = none → library.mayLack validator)
def SomeAccepts : List Validator → Value → Prop
  | [], _ => False
  | member :: rest, value => Accepts member value ∨ SomeAccepts rest value
end

theorem entriesAccept_iff (entries : List (String × Validator)) (members : List (String × Value)) :
    EntriesAccept library entries members ↔
      ∀ entry ∈ entries, EntryAccepts library entry members := by
  induction entries with
  | nil => simp [EntriesAccept]
  | cons entry rest ih => rw [EntriesAccept, ih, List.forall_mem_cons]

theorem someAccepts_iff (members : List Validator) (value : Value) :
    SomeAccepts library members value ↔ ∃ member ∈ members, Accepts library member value := by
  induction members with
  | nil => simp [SomeAccepts]
  | cons member rest ih => simp [SomeAccepts, ih]

variable {library : Library}

theorem demands_iff (validator : Validator) (name : String) :
    validator.demands name = true ↔
      ∃ property, validator.properties.lookup name = some property ∧
        property.isOptional = false := by
  rw [demands, beq_iff_eq, optionality?, Option.map_eq_some_iff]

theorem optionality?_of_ne (validator : Validator) {name : String} (own : name ≠ "__proto__") :
    validator.optionality? name = (validator.entries.lookup name).map isOptional := by
  rw [optionality?, properties, Ordered.lookup_erase_of_ne _ own]

/-- What is accepted has every property of its validator but for those that may be missing. -/
theorem present_or_mayLack {name : String} {property : Validator} : {validator : Validator} →
    validator.properties.lookup name = some property → {value : Value} →
      validator.Accepts library value → ∃ members, value = .object members ∧
        ((members.lookup name).isSome = true ∨
          ∀ own, (name, own) ∈ validator.properties → library.mayLack own)
  | .object entries, found, value, accepts => by
    obtain ⟨members, rfl, each⟩ := accepts
    have reads := (entriesAccept_iff library entries members).mp each
    refine ⟨members, rfl, ?_⟩
    cases here : members.lookup name with
    | some value => exact .inl rfl
    | none =>
      refine .inr fun own listed => ?_
      obtain ⟨inLiteral, apart⟩ := List.mem_filter.mp listed
      exact (reads _ inLiteral (by simpa using apart)).2 here
  | .catchall base _, found, value, accepts => by
    have own : base.properties.lookup name = some property := found
    exact present_or_mayLack own accepts.1
  | .string, found, _, _ | .number, found, _, _ | .boolean, found, _, _ | .null, found, _, _
  | .unknown, found, _, _ | .literal _, found, _, _ | .choice _, found, _, _
  | .reference _, found, _, _ | .array _, found, _, _ | .record _, found, _, _
  | .union _, found, _, _ | .checked _ _, found, _, _ | .optional _, found, _, _
  | .nullable _, found, _, _ => by cases found

/-- Where marks decide, a property that a validator demands is there in all that it accepts. -/
theorem present_of_demands {name : String} {validator : Validator} {value : Value}
    (marks : library.GoesByMarks) (demands : validator.demands name = true)
    (accepts : validator.Accepts library value) :
    ∃ members, value = .object members ∧ (members.lookup name).isSome = true := by
  obtain ⟨property, found, needed⟩ := (demands_iff _ _).mp demands
  obtain ⟨members, object, present | missing⟩ := present_or_mayLack found accepts
  · exact ⟨members, object, present⟩
  · rw [(marks property).mp (missing property (Ordered.mem_of_lookup found))] at needed
    cases needed

section Erase

variable {name : String} {members : List (String × Value)}

/-- An object validator does not mind that a member goes which it lets be missing. -/
theorem object_accepts_erase {entries : List (String × Validator)}
    (free : ∀ entry ∈ entries, entry.1 = name → library.mayLack entry.2)
    (accepts : (Validator.object entries).Accepts library (.object members)) :
    (Validator.object entries).Accepts library (.object (Ordered.erase name members)) := by
  obtain ⟨_, ⟨rfl⟩, each⟩ := accepts
  refine ⟨_, rfl, (entriesAccept_iff library entries _).mpr ?_⟩
  intro (key, property) listed own
  obtain ⟨present, missing⟩ := (entriesAccept_iff library entries members).mp each _ listed own
  by_cases same : key = name
  · subst same
    rw [Ordered.lookup_erase_self]
    refine ⟨?_, fun _ => free _ listed rfl⟩
    intro _ found
    cases found
  · rw [Ordered.lookup_erase_of_ne members same]
    exact ⟨present, missing⟩

/-- Nor do validators of records. -/
theorem record_accepts_erase {entry : Validator}
    (accepts : (Validator.record entry).Accepts library (.object members)) :
    (Validator.record entry).Accepts library (.object (Ordered.erase name members)) := by
  obtain ⟨_, ⟨rfl⟩, each⟩ := accepts
  exact ⟨_, rfl, fun member listed => each member ((List.mem_filter.mp listed).1)⟩

/-- Nor does an object validator that may hold other properties. -/
theorem catchall_accepts_erase {entries : List (String × Validator)} {others : Validator}
    (free : ∀ entry ∈ entries, entry.1 = name → library.mayLack entry.2)
    (accepts : (Validator.catchall (.object entries) others).Accepts library (.object members)) :
    (Validator.catchall (.object entries) others).Accepts library
      (.object (Ordered.erase name members)) := by
  obtain ⟨base, rest⟩ := accepts
  refine ⟨object_accepts_erase free base, ?_⟩
  rintro _ ⟨rfl⟩ member listed
  exact rest members rfl member ((List.mem_filter.mp listed).1)

end Erase

end Validator
end ClientGen
