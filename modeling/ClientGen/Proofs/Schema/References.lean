import ClientGen.Proofs.Schema.Rules

/-!
References in compiled schemas. Every name that a validator or a type refers to is the name of a
reference in the schema, however the schema was merged and nested on the way.
-/
namespace ClientGen
open TypeScript

mutual
/-- The names of the schemas that a validator looks up. -/
def Validator.references : Validator → List String
  | .reference name => [name]
  | .array item => item.references
  | .object fields => fieldsReferences fields
  | .record value => value.references
  | .union members => membersReferences members
  | .checked base _ | .optional base | .nullable base => base.references
  | .catchall base others => base.references ++ others.references
  | .string | .number | .boolean | .null | .unknown | .literal _ | .choice _ => []
def Validator.fieldsReferences : List (String × Validator) → List String
  | [] => []
  | field :: rest => fieldReferences field ++ fieldsReferences rest
def Validator.fieldReferences : String × Validator → List String
  | (_, value) => value.references
/-- The names that the members of a union look up. -/
def Validator.membersReferences : List Validator → List String
  | [] => []
  | member :: rest => member.references ++ membersReferences rest
end

namespace TypeScript

mutual
/-- The names of the types that a type refers to. -/
def TypeExpr.references : TypeExpr → List String
  | .reference name => [name]
  | .array item => item.references
  | .record value => value.references
  | .object fields others => fieldsReferences fields ++ othersReferences others
  | .union members => membersReferences members
  | .string | .number | .boolean | .null | .unknown | .literal _ => []
def fieldsReferences : List (TypeField TypeExpr) → List String
  | [] => []
  | field :: rest => fieldReferences field ++ fieldsReferences rest
def fieldReferences : TypeField TypeExpr → List String
  | ⟨_, _, type⟩ => type.references
/-- The names that an index signature refers to. -/
def othersReferences : Option TypeExpr → List String
  | none => []
  | some type => type.references
/-- The names that the members of a union refer to. -/
def membersReferences : List TypeExpr → List String
  | [] => []
  | member :: rest => member.references ++ membersReferences rest
end

theorem membersReferences_eq (members : List TypeExpr) :
    membersReferences members = members.flatMap TypeExpr.references := by
  induction members with
  | nil => rfl
  | cons first rest ih => exact congrArg (first.references ++ ·) ih

theorem fieldsReferences_eq (fields : List (TypeField TypeExpr)) :
    fieldsReferences fields = fields.flatMap (·.type.references) := by
  induction fields with
  | nil => rfl
  | cons first rest ih =>
    obtain ⟨name, isOptional, type⟩ := first
    exact congrArg (type.references ++ ·) ih

end TypeScript

namespace Validator

theorem membersReferences_eq (members : List Validator) :
    membersReferences members = members.flatMap references := by
  induction members with
  | nil => rfl
  | cons first rest ih => exact congrArg (first.references ++ ·) ih

theorem fieldsReferences_eq (fields : List (String × Validator)) :
    fieldsReferences fields = fields.flatMap (·.2.references) := by
  induction fields with
  | nil => rfl
  | cons first rest ih =>
    obtain ⟨name, value⟩ := first
    exact congrArg (value.references ++ ·) ih

private theorem references_withChecks (base : Validator) (checks : List Check) :
    (base.withChecks checks).references = base.references := by
  induction checks generalizing base with
  | nil => rfl
  | cons check rest ih => exact ih (.checked base check)

end Validator

namespace Compiled

/-- The names that a compiled schema refers to. -/
def references (compiled : Compiled) : List String :=
  compiled.validator.references ++ compiled.type.references

/-- A compiled schema that refers to names with a property only. -/
def Refers (P : String → Prop) (compiled : Compiled) : Prop :=
  ∀ name ∈ compiled.references, P name

variable {P : String → Prop}

theorem refers_iff (compiled : Compiled) :
    compiled.Refers P ↔ (∀ name ∈ compiled.validator.references, P name) ∧
      ∀ name ∈ compiled.type.references, P name :=
  List.forall_mem_append

private theorem refers_of_none (compiled : Compiled) (free : compiled.references = []) :
    compiled.Refers P := by
  rw [Refers, free]
  exact List.forall_mem_nil _

private theorem refers_compileEnumeration (hint : String) (values : List Json.Value) :
    (Schema.compileEnumeration hint values).result.Refers P := by
  apply refers_of_none
  match values with
  | [] => rfl
  | [value] => rfl
  | first :: second :: rest =>
    have validators : Validator.membersReferences
        ((first :: second :: rest).map Validator.literal) = [] := by
      rw [Validator.membersReferences_eq, List.flatMap_map]
      exact List.flatMap_eq_nil_iff.mpr fun _ _ => rfl
    have types : membersReferences ((first :: second :: rest).map TypeExpr.literal) = [] := by
      rw [membersReferences_eq, List.flatMap_map]
      exact List.flatMap_eq_nil_iff.mpr fun _ _ => rfl
    unfold Schema.compileEnumeration
    dsimp only
    split
    · exact types
    · exact List.append_eq_nil_iff.mpr ⟨validators, types⟩

private theorem refers_objectFrom (shape : ObjectShape σ) (fields : List (String × Compiled))
    (others : Option Compiled) (each : ∀ field ∈ fields, field.2.Refers P)
    (rest : ∀ other, others = some other → other.Refers P) :
    (Schema.objectFrom shape fields others).Refers P := by
  have validators : ∀ name ∈ Validator.fieldsReferences
      (fields.map (Schema.fieldValidator shape)), P name := by
    rw [Validator.fieldsReferences_eq, List.flatMap_map]
    intro name member
    obtain ⟨field, listed, inField⟩ := List.mem_flatMap.mp member
    apply ((refers_iff _).mp (each field listed)).1
    unfold Schema.fieldValidator at inField
    dsimp only at inField
    split at inField
    · exact inField
    · exact inField
  have types : ∀ name ∈ fieldsReferences (fields.map (Schema.fieldType shape)), P name := by
    rw [fieldsReferences_eq, List.flatMap_map]
    intro name member
    obtain ⟨field, listed, inField⟩ := List.mem_flatMap.mp member
    exact ((refers_iff _).mp (each field listed)).2 name inField
  cases others with
  | none =>
    exact (refers_iff _).mpr
      ⟨validators, List.forall_mem_append.mpr ⟨types, List.forall_mem_nil _⟩⟩
  | some other =>
    obtain ⟨validator, type⟩ := (refers_iff other).mp (rest other rfl)
    exact (refers_iff _).mpr ⟨List.forall_mem_append.mpr ⟨validators, validator⟩,
      List.forall_mem_append.mpr ⟨types, type⟩⟩

theorem refers_union (members : List Compiled) (each : ∀ member ∈ members, member.Refers P) :
    Refers P ⟨.union (members.map validator), .union (members.map type)⟩ := by
  refine (refers_iff _).mpr ⟨?_, ?_⟩
  · intro name listed
    rw [Validator.references, Validator.membersReferences_eq, List.flatMap_map] at listed
    obtain ⟨member, inMembers, inMember⟩ := List.mem_flatMap.mp listed
    exact ((refers_iff _).mp (each member inMembers)).1 name inMember
  · intro name listed
    rw [TypeExpr.references, membersReferences_eq, List.flatMap_map] at listed
    obtain ⟨member, inMembers, inMember⟩ := List.mem_flatMap.mp listed
    exact ((refers_iff _).mp (each member inMembers)).2 name inMember

end Compiled

namespace Schema

/-- The rules of the compiler bring in no names of their own. -/
theorem refers_parts (P : String → Prop) : KeptByParts (Compiled.Refers P) where
  unknown := Compiled.refers_of_none _ rfl
  string constraints := by
    apply Compiled.refers_of_none
    exact List.append_eq_nil_iff.mpr ⟨Validator.references_withChecks _ _, rfl⟩
  number constraints := by
    apply Compiled.refers_of_none
    exact List.append_eq_nil_iff.mpr ⟨Validator.references_withChecks _ _, rfl⟩
  boolean := Compiled.refers_of_none _ rfl
  null := Compiled.refers_of_none _ rfl
  nullable := Compiled.refers_of_none _ rfl
  enumeration := Compiled.refers_compileEnumeration
  array constraints item refers := by
    rw [Compiled.Refers, Compiled.references, arrayOf, Validator.references_withChecks]
    exact refers
  record _ refers := refers
  object shape fields others _ each rest :=
    Compiled.refers_objectFrom shape fields others each rest
  union members _ each := Compiled.refers_union members each

/-- A compiled schema refers to names of references in the schema only. -/
theorem references_compile (schema : Schema) (hint : String) :
    ∀ name ∈ (schema.compile hint).result.references,
      ∃ target ∈ schema.targets, name = referenceName target := by
  apply compile_keeps_parts (refers_parts fun name => ∃ target ∈ schema.targets,
    name = referenceName target) hint schema
  intro target listed name member
  have same : name = referenceName target := by
    simpa [compileReference, Compiled.references, Validator.references, TypeExpr.references]
      using member
  exact ⟨target, listed, same⟩

end Schema

end ClientGen
