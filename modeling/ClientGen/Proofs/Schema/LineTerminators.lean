import Mathlib.Data.List.Basic
import ClientGen.Proofs.Schema.Inference
import ClientGen.Proofs.Schema.Parts
import ClientGen.Proofs.Text.LineTerminators

/-!
Line terminators in the texts of compiled schemas. Patterns and property names bring in none, as
they are written as string literals of the generated code. Listed values are written as JSON, which
leaves two of the four characters alone, and the name of a reference keeps all that its target has.
-/
namespace ClientGen
open Json Text TypeScript

private theorem lineTerminators_enclosed {front back : List Char} (inside : List Char)
    (opening : lineTerminators front = []) (closing : lineTerminators back = []) :
    lineTerminators (front ++ inside ++ back) = lineTerminators inside := by
  simp [opening, closing]

/-- Fixed code, read character by character. -/
private theorem lineTerminators_fixed (chars : List Char) (free : lineTerminators chars = []) :
    lineTerminators (String.ofList chars).toList = [] := by
  rwa [String.toList_ofList]

section Types

private theorem lineTerminators_fieldType (field : TypeField TypeExpr) :
    lineTerminators (fieldChars field) = lineTerminators field.type.chars := by
  obtain ⟨name, isOptional, type⟩ := field
  rw [fieldChars, lineTerminators_append, lineTerminators_append, lineTerminators_propertyKey]
  cases isOptional with
  | false => rfl
  | true => rfl

theorem lineTerminators_objectType (fields : List (TypeField TypeExpr)) (others : Option TypeExpr) :
    lineTerminators (TypeExpr.object fields others).chars =
      fields.flatMap (fun field => lineTerminators field.type.chars) ++
        others.toList.flatMap (fun type => lineTerminators type.chars) := by
  have inside : lineTerminators (List.intercalate "; ".toList
      (fieldsChars fields ++ othersChars others)) =
        (fieldsChars fields ++ othersChars others).flatMap lineTerminators :=
    lineTerminators_intercalate rfl _
  have whole : lineTerminators (TypeExpr.object fields others).chars =
      lineTerminators (List.intercalate "; ".toList (fieldsChars fields ++ othersChars others)) :=
    lineTerminators_enclosed _ rfl rfl
  rw [whole, inside, List.flatMap_append, fieldsChars_eq_map, List.flatMap_map,
    funext lineTerminators_fieldType]
  cases others with
  | none => rfl
  | some type =>
    rw [othersChars, List.flatMap_singleton, Option.toList_some, List.flatMap_singleton,
      lineTerminators_append]
    rfl

private theorem lineTerminators_unionType (members : List TypeExpr) :
    lineTerminators (TypeExpr.union members).chars =
      members.flatMap fun member => lineTerminators member.chars :=
  calc lineTerminators (TypeExpr.union members).chars
    _ = (membersChars members).flatMap lineTerminators := lineTerminators_intercalate rfl _
    _ = members.flatMap fun member => lineTerminators member.chars := by
      rw [membersChars_eq_map, List.flatMap_map]

end Types

section Validators

private theorem lineTerminators_check (check : Check) : lineTerminators check.chars = [] := by
  have bounded (front : List Char) (opening : lineTerminators front = []) (n : Number) :
      lineTerminators (front ++ n.chars .data ++ [')']) = [] :=
    (lineTerminators_enclosed _ opening rfl).trans (lineTerminators_number .data n)
  cases check with
  | min count => exact bounded _ rfl (.natural count)
  | max count => exact bounded _ rfl (.natural count)
  | regex pattern =>
    exact (lineTerminators_enclosed _ rfl rfl).trans (lineTerminators_stringLiteral pattern.toList)
  | email => rfl
  | url => rfl
  | uuid => rfl
  | datetime => rfl
  | int => rfl
  | gte bound => exact bounded _ rfl bound
  | lte bound => exact bounded _ rfl bound
  | gt bound => exact bounded _ rfl bound
  | lt bound => exact bounded _ rfl bound
  | multipleOf step => exact bounded _ rfl step
  | unique =>
    change lineTerminators (String.toList (_ ++ _)) = []
    rw [String.toList_append, lineTerminators_append, lineTerminators_fixed _ rfl,
      lineTerminators_fixed _ rfl, List.append_nil]

private theorem lineTerminators_withChecks (base : Validator) (checks : List Check) :
    lineTerminators (base.withChecks checks).chars = lineTerminators base.chars := by
  have free : checks.flatMap (fun check => lineTerminators check.chars) = [] :=
    List.flatMap_eq_nil_iff.mpr fun check _ => lineTerminators_check check
  rw [Validator.chars_withChecks, lineTerminators_append, ← List.flatMap_def,
    lineTerminators_flatMap, free, List.append_nil]

private theorem lineTerminators_listed {front back : List Char} (texts : List (List Char))
    (opening : lineTerminators front = []) (closing : lineTerminators back = []) :
    lineTerminators (front ++ List.intercalate ", ".toList texts ++ back) =
      texts.flatMap lineTerminators :=
  (lineTerminators_enclosed _ opening closing).trans (lineTerminators_intercalate rfl texts)

private theorem lineTerminators_fieldValidator (field : String × Validator) :
    lineTerminators (Validator.fieldChars field) = lineTerminators field.2.chars := by
  obtain ⟨name, value⟩ := field
  rw [Validator.fieldChars, lineTerminators_append, lineTerminators_append,
    lineTerminators_propertyKey]
  rfl

private theorem lineTerminators_objectValidator (fields : List (String × Validator)) :
    lineTerminators (Validator.object fields).chars =
      fields.flatMap fun field => lineTerminators field.2.chars :=
  calc lineTerminators (Validator.object fields).chars
    _ = (Validator.fieldsChars fields).flatMap lineTerminators :=
      lineTerminators_listed _ rfl rfl
    _ = fields.flatMap fun field => lineTerminators field.2.chars := by
      rw [Validator.fieldsChars_eq_map, List.flatMap_map, funext lineTerminators_fieldValidator]

private theorem lineTerminators_unionValidator (members : List Validator) :
    lineTerminators (Validator.union members).chars =
      members.flatMap fun member => lineTerminators member.chars :=
  calc lineTerminators (Validator.union members).chars
    _ = (Validator.membersChars members).flatMap lineTerminators :=
      lineTerminators_listed _ rfl rfl
    _ = members.flatMap fun member => lineTerminators member.chars := by
      rw [Validator.membersChars_eq_map, List.flatMap_map]

private theorem lineTerminators_choice (values : List Value) :
    lineTerminators (Validator.choice values).chars =
      values.flatMap fun value => lineTerminators value.chars :=
  calc lineTerminators (Validator.choice values).chars
    _ = (values.map Value.chars).flatMap lineTerminators := lineTerminators_listed _ rfl rfl
    _ = values.flatMap fun value => lineTerminators value.chars := List.flatMap_map ..

end Validators

namespace Compiled

/-- Both texts of a compiled schema hold the same line terminators in the same order. -/
def EndsAlike (compiled : Compiled) : Prop :=
  lineTerminators compiled.validator.chars = lineTerminators compiled.type.chars

private theorem endsAlike_literal (value : Value) : EndsAlike ⟨.literal value, .literal value⟩ :=
  lineTerminators_enclosed _ rfl rfl

private theorem endsAlike_enumeration (hint : String) (values : List Value) :
    (Schema.compileEnumeration hint values).result.EndsAlike := by
  match values with
  | [] => rfl
  | [value] => exact endsAlike_literal value
  | first :: second :: rest =>
    unfold Schema.compileEnumeration
    dsimp only
    split
    next strings =>
      rw [Traced.pure_result, EndsAlike, lineTerminators_choice, lineTerminators_unionType,
        List.flatMap_map]
      rfl
    next mixed =>
      rw [Traced.pure_result, EndsAlike, lineTerminators_unionValidator, lineTerminators_unionType,
        List.flatMap_map, List.flatMap_map]
      exact List.flatMap_congr fun value _ => endsAlike_literal value

private theorem lineTerminators_fieldOf (shape : ObjectShape σ) (field : String × Compiled) :
    lineTerminators (Schema.fieldValidator shape field).2.chars =
      lineTerminators field.2.validator.chars := by
  unfold Schema.fieldValidator
  split
  next => rfl
  next => exact (lineTerminators_append _ _).trans (List.append_nil _)

theorem lineTerminators_objectFrom (shape : ObjectShape σ) (fields : List (String × Compiled))
    (others : Option Compiled) :
    lineTerminators (Schema.objectFrom shape fields others).type.chars =
      (fields.flatMap fun field => lineTerminators field.2.type.chars) ++
        others.toList.flatMap fun other => lineTerminators other.type.chars := by
  refine (lineTerminators_objectType _ _).trans ?_
  rw [List.flatMap_map]
  cases others with
  | none => rfl
  | some other => rfl

private theorem endsAlike_object (shape : ObjectShape σ) (fields : List (String × Compiled))
    (others : Option Compiled) (each : ∀ field ∈ fields, field.2.EndsAlike)
    (rest : ∀ other, others = some other → other.EndsAlike) :
    (Schema.objectFrom shape fields others).EndsAlike := by
  have object :
      lineTerminators (Validator.object (fields.map (Schema.fieldValidator shape))).chars =
        fields.flatMap fun field => lineTerminators field.2.type.chars := by
    rw [lineTerminators_objectValidator, List.flatMap_map, funext (lineTerminators_fieldOf shape)]
    exact List.flatMap_congr each
  rw [EndsAlike, lineTerminators_objectFrom]
  cases others with
  | none => exact object.trans (List.append_nil _).symm
  | some other =>
    have alike : lineTerminators other.validator.chars = lineTerminators other.type.chars :=
      rest other rfl
    have called : lineTerminators (".catchall(".toList ++ other.validator.chars ++ [')']) =
        lineTerminators other.validator.chars := lineTerminators_enclosed _ rfl rfl
    rw [Option.toList_some, List.flatMap_singleton, ← object, ← alike, ← called,
      ← lineTerminators_append, ← List.append_assoc, ← List.append_assoc]
    rfl

theorem endsAlike_union (members : List Compiled) (each : ∀ member ∈ members, member.EndsAlike) :
    EndsAlike ⟨.union (members.map validator), .union (members.map type)⟩ := by
  rw [EndsAlike, lineTerminators_unionValidator, lineTerminators_unionType, List.flatMap_map,
    List.flatMap_map]
  exact List.flatMap_congr each

end Compiled

namespace Schema

/-- The rules of the compiler write the same line terminators into both texts. -/
theorem endsAlike_kept : KeptByRules Compiled.EndsAlike where
  unknown := rfl
  string constraints := lineTerminators_withChecks _ _
  number constraints := lineTerminators_withChecks _ _
  boolean := rfl
  null := rfl
  nullable := rfl
  enumeration := Compiled.endsAlike_enumeration
  array constraints item alike :=
    calc lineTerminators (arrayOf constraints item).validator.chars
      _ = lineTerminators item.validator.chars :=
        (lineTerminators_withChecks _ _).trans (lineTerminators_enclosed _ rfl rfl)
      _ = lineTerminators item.type.chars := alike
      _ = lineTerminators (arrayOf constraints item).type.chars :=
        (lineTerminators_enclosed _ rfl rfl).symm
  record value alike :=
    calc lineTerminators (Compiled.record value).validator.chars
      _ = lineTerminators value.validator.chars := lineTerminators_enclosed _ rfl rfl
      _ = lineTerminators value.type.chars := alike
      _ = lineTerminators (Compiled.record value).type.chars :=
        (lineTerminators_enclosed _ rfl rfl).symm
  object shape fields others _ each rest :=
    Compiled.endsAlike_object shape fields others each rest
  union members _ each := Compiled.endsAlike_union members each
  reference target := by
    refine (lineTerminators_enclosed _ rfl rfl).trans ?_
    rw [validatorName, String.toList_append, lineTerminators_append]
    exact List.append_nil _

/-- The line terminators that a schema itself brings into its texts, apart from its parts: the ones
in the last segment of a reference, and the separators in the texts of listed values. -/
def ownTerminators : Schema → List Char
  | .reference target => lineTerminators (lastSegment target.toList)
  | .enumeration values => separators (values.flatMap texts)
  | .string _ | .number _ | .boolean | .null | .array _ _ | .object _ | .combination _ _
  | .nullable | .unknown => []

private theorem ownTerminators_object {schema : Schema} {shape : ObjectShape Schema}
    (found : schema.objectShape? = some shape) : schema.ownTerminators = [] := by
  cases schema with
  | reference target => cases found
  | enumeration values => cases found
  | _ => rfl

private theorem lineTerminators_referenceName (target : String) :
    lineTerminators (referenceName target).toList =
      lineTerminators (lastSegment target.toList) := by
  unfold referenceName
  split
  next empty => rw [empty]; rfl
  next segment _ => rw [String.toList_ofList, lineTerminators_pascalChars]

private theorem lineTerminators_literals (values : List Value) :
    lineTerminators (TypeExpr.union (values.map .literal)).chars =
      separators (values.flatMap texts) := by
  rw [lineTerminators_unionType, List.flatMap_map, separators, List.flatMap_assoc]
  exact congrArg (List.flatMap · values) (funext lineTerminators_value)

private theorem lineTerminators_enumeration (hint : String) (values : List Value) :
    lineTerminators (compileEnumeration hint values).result.type.chars =
      separators (values.flatMap texts) := by
  match values with
  | [] => rfl
  | [value] =>
    rw [List.flatMap_singleton]
    exact lineTerminators_value value
  | first :: second :: rest =>
    unfold compileEnumeration
    dsimp only
    split
    next strings => exact lineTerminators_literals _
    next mixed => exact lineTerminators_literals _

private theorem lineTerminators_unionOfParts (members : List Compiled) :
    lineTerminators (unionOfParts members).type.chars =
      members.flatMap fun member => lineTerminators member.type.chars := by
  match members with
  | [] => rfl
  | [only] => exact (List.append_nil _).symm
  | first :: second :: rest => exact (lineTerminators_unionType _).trans (List.flatMap_map ..)

private theorem lineTerminators_objectOfParts (shape : ObjectShape Compiled) :
    lineTerminators (objectOfParts shape).type.chars =
      shape.descriptions.flatMap fun part => lineTerminators part.type.chars := by
  obtain ⟨properties, required, additional⟩ := shape
  cases properties with
  | nil =>
    cases additional with
    | unspecified => rfl
    | allowed isAllowed => rfl
    | described value =>
      exact (lineTerminators_enclosed _ rfl rfl).trans (List.append_nil _).symm
  | cons first rest =>
    rw [ObjectShape.descriptions, List.flatMap_append, List.flatMap_map]
    refine (Compiled.lineTerminators_objectFrom _ _ _).trans ?_
    cases additional with
    | unspecified => rfl
    | allowed isAllowed => cases isAllowed <;> rfl
    | described others => rfl

/-- The type of a schema holds what the schema brings in and what the types of its parts hold. -/
theorem lineTerminators_step (schema : Schema) :
    lineTerminators schema.compiled.type.chars = schema.ownTerminators ++
      schema.parts.flatMap fun part => lineTerminators part.compiled.type.chars := by
  cases schema using forms with
  | object found =>
    rw [compiled_object found, lineTerminators_objectOfParts, ObjectShape.descriptions_map,
      List.flatMap_map, ownTerminators_object found, parts_of_objectShape? found, List.nil_append]
  | unmerged nothing =>
    rw [compiled_unmerged nothing, parts_unmerged nothing]
    rfl
  | union united =>
    rw [compiled_union united, parts_union united]
    exact (lineTerminators_unionOfParts _).trans (List.flatMap_map ..)
  | array items constraints =>
    cases items with
    | none => rfl
    | some items =>
      rw [compiled_array, parts, Option.toList_some, List.flatMap_singleton]
      exact lineTerminators_enclosed _ rfl rfl
  | enumeration values =>
    exact (lineTerminators_enumeration _ values).trans (List.append_nil _).symm
  | reference target =>
    exact (lineTerminators_referenceName target).trans (List.append_nil _).symm
  | _ => rfl

/-- The line terminators in the texts of a compiled schema are exactly those that a schema within it
brings in: a reference whose last segment has one, or a listed value with one of the two that JSON
leaves alone in a string or in the name of a member, at any depth. Patterns, property names and all
other words of a schema bring in none, and neither does what merging drops. -/
theorem line_terminators_brought_in (schema : Schema) (hint : String) (c : Char) :
    (c ∈ lineTerminators (schema.compile hint).result.validator.text.toList ↔
      ∃ inner, Within inner schema ∧ c ∈ inner.ownTerminators) ∧
    (c ∈ lineTerminators (schema.compile hint).result.type.text.toList ↔
      ∃ inner, Within inner schema ∧ c ∈ inner.ownTerminators) := by
  have type : c ∈ lineTerminators schema.compiled.type.chars ↔
      ∃ inner, Within inner schema ∧ c ∈ inner.ownTerminators :=
    mem_iff_of_parts lineTerminators_step schema c
  have alike : lineTerminators schema.compiled.validator.chars =
      lineTerminators schema.compiled.type.chars := compile_keeps endsAlike_kept "" schema
  rw [Validator.text, TypeExpr.text, String.toList_ofList, String.toList_ofList,
    position_free schema hint, alike]
  exact ⟨type, type⟩

/-- A listed line separator stands as it is in the text, where a pattern or a property name would
have its escape. -/
example :
    lineTerminators (enumeration [.string "\u2028"]).compiled.validator.chars = ['\u2028'] := by
  decide

end Schema
end ClientGen
