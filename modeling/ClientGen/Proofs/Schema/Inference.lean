import ClientGen.Proofs.Schema.Rules

/-!
The validator and the type of a schema say the same. The type that the schema library infers for a
validator is defined on the validator alone, and so is what it means that every method is called on
a validator that has it. Compilation writes the text of such a validator and the text of the type
inferred from it, for every schema.
-/
namespace ClientGen
open Json TypeScript Schema

/-- An object type in which all other properties have a type; any other type stays as it is. -/
def TypeScript.TypeExpr.withOthers : TypeExpr → TypeExpr → TypeExpr
  | .object fields _, others => .object fields (some others)
  | type, _ => type

namespace Validator

/-- Whether a validator lets a property be missing. -/
def isOptional : Validator → Bool
  | .optional _ => true
  | _ => false

mutual
/-- The type that is inferred for the values that pass a validator. -/
def infer : Validator → TypeExpr
  | .string => .string
  | .number => .number
  | .boolean => .boolean
  | .null => .null
  | .unknown => .unknown
  | .literal value => .literal value
  | .choice values => .union (values.map .literal)
  | .reference name => .reference name
  | .array item => .array item.infer
  | .object fields => .object (inferFields fields) none
  | .record value => .record value.infer
  | .union members => .union (inferMembers members)
  | .checked base _ => base.infer
  | .optional base => base.infer
  | .nullable base => .union [base.infer, .null]
  | .catchall base others => base.infer.withOthers others.infer
def inferFields : List (String × Validator) → List (TypeField TypeExpr)
  | [] => []
  | field :: rest => inferField field :: inferFields rest
def inferField : String × Validator → TypeField TypeExpr
  | (name, value) => ⟨name, value.isOptional, value.infer⟩
/-- The members of an inferred union. -/
def inferMembers : List Validator → List TypeExpr
  | [] => []
  | member :: rest => member.infer :: inferMembers rest
end

/-- What a chain of checks starts from. -/
def root : Validator → Validator
  | .checked base _ => base.root
  | validator => validator

end Validator

/-- Whether the schema library has a check for the validators of a kind. -/
def Check.fits : Check → Validator → Bool
  | .min _, .string | .max _, .string | .regex _, .string | .email, .string | .url, .string
  | .uuid, .string | .datetime, .string => true
  | .int, .number | .gte _, .number | .lte _, .number | .gt _, .number | .lt _, .number
  | .multipleOf _, .number => true
  | .min _, .array _ | .max _, .array _ | .unique, .array _ => true
  | _, _ => false

mutual
/-- A validator in which every method is called on a validator that has it, unions have at least
two members, choices at least one value, and only properties of objects can be missing. -/
inductive Validator.Proper : Validator → Prop
  | string : Proper .string
  | number : Proper .number
  | boolean : Proper .boolean
  | null : Proper .null
  | unknown : Proper .unknown
  | literal (value : Value) : Proper (.literal value)
  | choice (listed : values ≠ []) : Proper (.choice values)
  | reference (name : String) : Proper (.reference name)
  | array (item : Proper validator) : Proper (.array validator)
  | object (each : ∀ field ∈ fields, ProperField field.2) : Proper (.object fields)
  | record (value : Proper validator) : Proper (.record validator)
  | union (several : 2 ≤ members.length) (each : ∀ member ∈ members, Proper member) :
      Proper (.union members)
  | checked (base : Proper validator) (fits : check.fits validator.root = true) :
      Proper (.checked validator check)
  | nullable (base : Proper validator) : Proper (.nullable validator)
  | catchall (each : ∀ field ∈ fields, ProperField field.2) (others : Proper validator) :
      Proper (.catchall (.object fields) validator)
/-- The validator of a property, which may mark it as one that can be missing. -/
inductive Validator.ProperField : Validator → Prop
  | required (value : Proper validator) : ProperField validator
  | optional (value : Proper validator) : ProperField (.optional validator)
end

namespace Validator

theorem not_optional_of_proper (proper : Proper validator) : validator.isOptional = false := by
  cases proper <;> rfl

theorem inferFields_eq_map (fields : List (String × Validator)) :
    inferFields fields = fields.map inferField := by
  induction fields with
  | nil => rfl
  | cons field rest ih => simp [inferFields, ih]

theorem inferMembers_eq_map (members : List Validator) :
    inferMembers members = members.map infer := by
  induction members with
  | nil => rfl
  | cons member rest ih => simp [inferMembers, ih]

/-- Checks add nothing to the type. -/
theorem infer_withChecks (base : Validator) (checks : List Check) :
    (base.withChecks checks).infer = base.infer := by
  induction checks generalizing base with
  | nil => rfl
  | cons check rest ih => exact (ih (.checked base check)).trans rfl

private theorem proper_withChecks (checks : List Check) (proper : Proper base)
    (fits : ∀ check ∈ checks, check.fits base.root = true) : Proper (base.withChecks checks) := by
  induction checks generalizing base with
  | nil => exact proper
  | cons check rest ih =>
    exact ih (.checked proper (fits check List.mem_cons_self))
      (fun later member => fits later (List.mem_cons_of_mem _ member))

end Validator

/-- What compilation promises: a proper validator, and the type inferred from it. -/
def Compiled.Agrees (compiled : Compiled) : Prop :=
  compiled.validator.Proper ∧ compiled.type = compiled.validator.infer

namespace Schema
open Validator

private theorem string_agrees (constraints : StringConstraints) :
    (compileString constraints).Agrees := by
  refine ⟨proper_withChecks _ .string ?_, (infer_withChecks .string _).symm⟩
  intro check member
  simp only [List.mem_append, Option.mem_toList, Option.map_eq_some_iff, Option.bind_eq_some_iff]
    at member
  rcases member with ((⟨_, _, rfl⟩ | ⟨_, _, rfl⟩) | ⟨_, _, rfl⟩) | ⟨format, _, known⟩
  · rfl
  · rfl
  · rfl
  · cases format <;> cases known <;> rfl

private theorem number_agrees (constraints : NumberConstraints) :
    (compileNumber constraints).Agrees := by
  refine ⟨proper_withChecks _ .number ?_, (infer_withChecks .number _).symm⟩
  intro check member
  simp only [List.mem_append, Option.mem_toList, Option.map_eq_some_iff] at member
  rcases member with ((((member | ⟨_, _, rfl⟩) | ⟨_, _, rfl⟩) | ⟨_, _, rfl⟩) | ⟨_, _, rfl⟩) |
    ⟨_, _, rfl⟩
  · split at member
    · rw [List.mem_singleton.mp member]
      rfl
    · cases member
  all_goals rfl

private theorem enumeration_agrees (hint : String) (values : List Value) :
    (compileEnumeration hint values).result.Agrees := by
  match values with
  | [] => exact ⟨.unknown, rfl⟩
  | [value] => exact ⟨.literal value, rfl⟩
  | first :: second :: rest =>
    unfold compileEnumeration
    simp only
    split
    · exact ⟨.choice (by simp), rfl⟩
    · refine ⟨.union (by simp) ?_, ?_⟩
      · intro member listed
        obtain ⟨value, _, rfl⟩ := List.mem_map.mp listed
        exact .literal value
      · simp [infer, inferMembers_eq_map]

private theorem array_agrees (constraints : ArrayConstraints) (item : Compiled)
    (agrees : item.Agrees) : (arrayOf constraints item).Agrees := by
  refine ⟨proper_withChecks _ (.array agrees.1) ?_, ?_⟩
  · intro check member
    simp only [List.mem_append, Option.mem_toList, Option.map_eq_some_iff] at member
    rcases member with (⟨_, _, rfl⟩ | ⟨_, _, rfl⟩) | member
    · rfl
    · rfl
    · split at member
      · rw [List.mem_singleton.mp member]
        rfl
      · cases member
  · rw [arrayOf, infer_withChecks, infer, agrees.2]

/-- A property is optional in the type iff its validator lets it be missing. -/
private theorem field_agrees (shape : ObjectShape σ) (field : String × Compiled)
    (agrees : field.2.Agrees) :
    ProperField (fieldValidator shape field).2 ∧
      fieldType shape field = inferField (fieldValidator shape field) := by
  obtain ⟨name, compiled⟩ := field
  by_cases required : shape.requires name = true
  · simp only [fieldValidator, fieldType, required, if_true, Bool.not_true]
    exact ⟨.required agrees.1, by
      rw [inferField, not_optional_of_proper agrees.1, agrees.2]⟩
  · rw [Bool.not_eq_true] at required
    simp only [fieldValidator, fieldType, required, Bool.not_false]
    exact ⟨.optional agrees.1, congrArg _ agrees.2⟩

private theorem object_agrees (shape : ObjectShape σ) (fields : List (String × Compiled))
    (others : Option Compiled) (each : ∀ field ∈ fields, field.2.Agrees)
    (rest : ∀ other, others = some other → other.Agrees) :
    (objectFrom shape fields others).Agrees := by
  have proper : ∀ field ∈ fields.map (fieldValidator shape), ProperField field.2 := by
    intro field member
    obtain ⟨source, listed, rfl⟩ := List.mem_map.mp member
    exact (field_agrees shape source (each source listed)).1
  have types : fields.map (fieldType shape) = inferFields (fields.map (fieldValidator shape)) := by
    rw [inferFields_eq_map, List.map_map]
    exact List.map_congr_left fun field listed => (field_agrees shape field (each field listed)).2
  cases others with
  | none => exact ⟨.object proper, by simp [objectFrom, infer, types]⟩
  | some other =>
    refine ⟨.catchall proper (rest other rfl).1, ?_⟩
    simp [objectFrom, infer, types, TypeExpr.withOthers, (rest other rfl).2]

private theorem union_agrees (members : List Compiled) (several : 2 ≤ members.length)
    (each : ∀ member ∈ members, member.Agrees) :
    Compiled.Agrees
      ⟨.union (members.map Compiled.validator), .union (members.map Compiled.type)⟩ := by
  refine ⟨.union (by simpa using several) ?_, ?_⟩
  · intro validator listed
    obtain ⟨member, source, rfl⟩ := List.mem_map.mp listed
    exact (each member source).1
  · rw [infer, inferMembers_eq_map, List.map_map]
    exact congrArg _ (List.map_congr_left fun member listed => (each member listed).2)

/-- Every rule of the compiler builds the type that is inferred from the validator it builds. -/
theorem agrees_kept : KeptByRules Compiled.Agrees where
  unknown := ⟨.unknown, rfl⟩
  reference _ := ⟨.reference _, rfl⟩
  string := string_agrees
  number := number_agrees
  boolean := ⟨.boolean, rfl⟩
  null := ⟨.null, rfl⟩
  nullable := ⟨.nullable .unknown, rfl⟩
  enumeration := enumeration_agrees
  array := array_agrees
  record _ agrees := ⟨.record agrees.1, congrArg _ agrees.2⟩
  object shape fields others _ each rest := object_agrees shape fields others each rest
  union := union_agrees

end Schema

end ClientGen
