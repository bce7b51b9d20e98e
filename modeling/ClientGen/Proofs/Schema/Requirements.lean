import ClientGen.Proofs.Schema.Merging
import ClientGen.Proofs.Validator.Acceptance

/-!
Required names of objects. Validator and type mark the properties of an object in the same way: one
that is declared and required cannot be missing, any other one that is declared can, and a name that
is required without being declared is in neither. Where names are declared and required in the
members of an `allOf` makes no difference. All of this is for names other than `__proto__`, which
names no property of a validator.
-/
namespace ClientGen
open Json TypeScript

/-- Whether a property of an object type may be missing; none where the type has no such property.
-/
def TypeScript.TypeExpr.optionality? : TypeExpr → String → Option Bool
  | .object fields _, name => (fields.find? (·.name == name)).map TypeField.isOptional
  | _, _ => none

/-- Whether a property of a shape may be missing; none where the shape declares no such property. -/
def ObjectShape.optionality? (shape : ObjectShape σ) (name : String) : Option Bool :=
  if shape.declares name then some (!shape.requires name) else none

namespace Schema

/-- The shape that a schema is compiled from as an object, after merging. -/
def objectShape? : Schema → Option (ObjectShape Schema)
  | .object shape => some shape
  | .combination .allOf members => ObjectShape.mergeAll (members.map object?)
  | _ => none

/-- The shapes that this one comes from: the schema's own, or those of the members that are merged.
-/
def objectParts : Schema → List (Option (ObjectShape Schema))
  | .object shape => [some shape]
  | .combination .allOf members => members.map object?
  | _ => []

/-- A name is declared if one of the parts declares it, and required if one of them, maybe another
one, requires it. -/
theorem declares_and_requires_iff {schema : Schema} {shape : ObjectShape Schema}
    (found : schema.objectShape? = some shape) (name : String) :
    (shape.declares name = true ↔
        ∃ part, some part ∈ schema.objectParts ∧ part.declares name = true) ∧
      (shape.requires name = true ↔
        ∃ part, some part ∈ schema.objectParts ∧ part.requires name = true) := by
  cases schema with
  | object own =>
    cases found
    simp [objectParts]
  | combination how members =>
    cases how with
    | allOf =>
      exact ⟨ObjectShape.declares_mergeAll found name, ObjectShape.requires_mergeAll found name⟩
    | anyOf => cases found
    | oneOf => cases found
  | _ => cases found

/-- Such a schema is compiled as the object that its shape describes. -/
theorem compile_of_objectShape? {schema : Schema} {shape : ObjectShape Schema}
    (found : schema.objectShape? = some shape) (hint : String) : ∃ position,
      (schema.compile hint).result = (objectOf (compileShape position shape)).result := by
  cases schema with
  | object own =>
    cases found
    exact ⟨hint, rfl⟩
  | combination how members =>
    cases how with
    | allOf =>
      have merged : ObjectShape.mergeAll (members.map object?) = some shape := found
      refine ⟨hint ++ "AllOf", ?_⟩
      rw [compile_allOf_result, merged]
    | anyOf => cases found
    | oneOf => cases found
  | _ => cases found

/-- No compiled schema lets a value be missing by itself. -/
theorem compile_not_optional (hint : String) (schema : Schema) :
    (schema.compile hint).result.validator.isOptional = false :=
  Validator.not_optional_of_proper (compile_keeps agrees_kept hint schema).1

section Fields

variable {σ : Type} (shape : ObjectShape σ) (fields : List (String × Compiled)) (name : String)

/-- The validator of a property lets it be missing unless it is required. -/
theorem isOptional_fieldValidator (field : String × Compiled)
    (proper : field.2.validator.isOptional = false) :
    (fieldValidator shape field).2.isOptional = !shape.requires field.1 := by
  unfold fieldValidator
  dsimp only
  split
  next required => rw [proper, required]; rfl
  next free => rw [Bool.eq_false_iff.mpr free]; rfl

private theorem optionality_fieldValidators
    (proper : ∀ field ∈ fields, field.2.validator.isOptional = false) :
    ((fields.map (fieldValidator shape)).lookup name).map Validator.isOptional =
      if (fields.map Prod.fst).contains name then some (!shape.requires name) else none := by
  induction fields with
  | nil => rfl
  | cons field rest ih =>
    obtain ⟨first, others⟩ := List.forall_mem_cons.mp proper
    have own := isOptional_fieldValidator shape field first
    have key : (fieldValidator shape field).1 = field.1 := rfl
    rw [List.map_cons, List.map_cons, List.lookup_cons, List.contains_cons, key]
    cases same : name == field.1 with
    | true =>
      rw [eq_of_beq same]
      exact congrArg some own
    | false => exact ih others

private theorem optionality_fieldTypes :
    ((fields.map (fieldType shape)).find? (·.name == name)).map TypeField.isOptional =
      if (fields.map Prod.fst).contains name then some (!shape.requires name) else none := by
  induction fields with
  | nil => rfl
  | cons field rest ih =>
    have key : (fieldType shape field).name = field.1 := rfl
    rw [List.map_cons, List.map_cons, List.find?_cons, List.contains_cons, key, BEq.comm]
    cases same : name == field.1 with
    | true =>
      rw [eq_of_beq same]
      rfl
    | false => exact ih

end Fields

section Objects

variable (shape : ObjectShape (Traced Compiled)) (name : String)

/-- Every property of a shape has a validator that does not let it be missing by itself. -/
def Firm (shape : ObjectShape (Traced Compiled)) : Prop :=
  ∀ entry ∈ shape.properties, entry.2.result.validator.isOptional = false

private theorem firm_compileShape (hint : String) (shape : ObjectShape Schema) :
    Firm (compileShape hint shape) := by
  rw [compileShape_eq_map]
  exact List.forall_mem_map.mpr fun entry _ => compile_not_optional _ entry.2

variable {shape}

def compiledFields (shape : ObjectShape (Traced Compiled)) : List (String × Compiled) :=
  shape.properties.map fun entry => (entry.1, entry.2.result)

theorem keys_compiledFields (shape : ObjectShape (Traced Compiled)) :
    (compiledFields shape).map Prod.fst = shape.properties.map Prod.fst := by
  rw [compiledFields, List.map_map]
  rfl

private theorem firm_compiledFields (firm : Firm shape) :
    ∀ field ∈ compiledFields shape, field.2.validator.isOptional = false :=
  List.forall_mem_map.mpr firm

/-- Both texts of an object mark its properties as its shape does. -/
theorem optionality_objectOf (firm : Firm shape) (own : name ≠ "__proto__") :
    (objectOf shape).result.validator.optionality? name = shape.optionality? name ∧
      (objectOf shape).result.type.optionality? name = shape.optionality? name := by
  have validators :=
    optionality_fieldValidators shape (compiledFields shape) name (firm_compiledFields firm)
  have types := optionality_fieldTypes shape (compiledFields shape) name
  rw [keys_compiledFields] at validators types
  rw [Validator.optionality?_of_ne _ own]
  obtain ⟨properties, required, additional⟩ := shape
  cases properties with
  | nil => cases additional <;> exact ⟨rfl, rfl⟩
  | cons first rest =>
    rw [objectOf_result_cons]
    refine ⟨?_, types⟩
    cases (gatherOthers additional).result <;> exact validators

/-- An object does not mind that a member goes for which all entries of its literal may be missing.
-/
theorem objectOf_accepts_erase {library : Library} {members : List (String × Value)}
    (free : ∀ entry ∈ (objectOf shape).result.validator.entries, entry.1 = name →
      library.mayLack entry.2)
    (accepts : (objectOf shape).result.validator.Accepts library (.object members)) :
    (objectOf shape).result.validator.Accepts library (.object (Ordered.erase name members)) := by
  obtain ⟨properties, required, additional⟩ := shape
  cases properties with
  | nil => cases additional <;> exact Validator.record_accepts_erase accepts
  | cons first rest =>
    rw [objectOf_result_cons] at accepts free ⊢
    cases others : (gatherOthers additional).result with
    | none =>
      rw [others] at accepts free
      exact Validator.object_accepts_erase free accepts
    | some other =>
      rw [others] at accepts free
      exact Validator.catchall_accepts_erase free accepts

theorem entries_objectOf (shape : ObjectShape (Traced Compiled)) :
    (objectOf shape).result.validator.entries =
      (compiledFields shape).map (fieldValidator shape) := by
  obtain ⟨properties, required, additional⟩ := shape
  cases properties with
  | nil => cases additional <;> rfl
  | cons first rest =>
    rw [objectOf_result_cons]
    cases (gatherOthers additional).result <;> rfl

/-- Unless a shape both declares and requires a name, the entries for it are marked as optional. -/
theorem optional_entries (firm : Firm shape) (free : shape.optionality? name ≠ some false) :
    ∀ entry ∈ (objectOf shape).result.validator.entries, entry.1 = name →
      entry.2.isOptional = true := by
  rw [entries_objectOf]
  refine List.forall_mem_map.mpr fun field listed same => ?_
  have declared : shape.declares name = true := by
    rw [ObjectShape.declares, ← keys_compiledFields, List.contains_iff_mem]
    exact List.mem_map.mpr ⟨field, listed, same⟩
  rw [isOptional_fieldValidator shape field (firm_compiledFields firm field listed)]
  rw [ObjectShape.optionality?, if_pos declared] at free
  obtain rfl : field.1 = name := same
  simpa using free

end Objects

theorem optionality_compileShape (hint : String) (shape : ObjectShape Schema) (name : String) :
    (compileShape hint shape).optionality? name = shape.optionality? name := by
  rw [compileShape_eq_map, ObjectShape.optionality?, ObjectShape.declares_map,
    ObjectShape.requires_map, ObjectShape.optionality?]

/-- Both texts of an object schema, merged or not, mark a name as its shape does. -/
theorem optionality_compile {schema : Schema} {shape : ObjectShape Schema}
    (found : schema.objectShape? = some shape) (hint : String) {name : String}
    (own : name ≠ "__proto__") :
    let compiled := (schema.compile hint).result
    compiled.validator.optionality? name = shape.optionality? name ∧
      compiled.type.optionality? name = shape.optionality? name := by
  obtain ⟨position, same⟩ := compile_of_objectShape? found hint
  have marks := optionality_objectOf name (firm_compileShape position shape) own
  rw [optionality_compileShape, ← same] at marks
  exact marks

/-- An object schema does not mind that a member goes which its shape does not both declare and
require, where marks decide what may be missing. -/
theorem compile_accepts_erase {schema : Schema} {shape : ObjectShape Schema} {library : Library}
    {members : List (String × Value)} (found : schema.objectShape? = some shape) (hint : String)
    (marks : library.GoesByMarks) {name : String} (free : shape.optionality? name ≠ some false)
    (accepts : (schema.compile hint).result.validator.Accepts library (.object members)) :
    (schema.compile hint).result.validator.Accepts library
      (.object (Ordered.erase name members)) := by
  obtain ⟨position, same⟩ := compile_of_objectShape? found hint
  have firm := firm_compileShape position shape
  rw [← optionality_compileShape position] at free
  have optional := optional_entries name firm free
  rw [same] at accepts ⊢
  exact objectOf_accepts_erase name
    (fun entry listed called => (marks entry.2).mpr (optional entry listed called)) accepts

/-- What an object schema, merged or not, says about a name is what both of its texts say. A name is
declared or required if any member of a merge declares or requires it. One that is declared and
required must be there in every value that the validator accepts, where the marks of the properties
decide what may be missing; any other one may go from a value that it accepts. A name that is not
declared has no place in either text. -/
theorem required_properties_enforced (schema : Schema) (hint : String)
    (shape : ObjectShape Schema) (found : schema.objectShape? = some shape) (library : Library)
    (marks : library.GoesByMarks) (name : String) (own : name ≠ "__proto__") :
    let compiled := (schema.compile hint).result
    let marked := if shape.declares name then some (!shape.requires name) else none
    (shape.declares name = true ↔
        ∃ part, some part ∈ schema.objectParts ∧ part.declares name = true) ∧
      (shape.requires name = true ↔
        ∃ part, some part ∈ schema.objectParts ∧ part.requires name = true) ∧
      compiled.validator.optionality? name = marked ∧ compiled.type.optionality? name = marked ∧
      (shape.declares name = true ∧ shape.requires name = true →
        ∀ value, compiled.validator.Accepts library value →
          ∃ members, value = .object members ∧ (members.lookup name).isSome = true) ∧
      (¬(shape.declares name = true ∧ shape.requires name = true) →
        ∀ members, compiled.validator.Accepts library (.object members) →
          compiled.validator.Accepts library (.object (Ordered.erase name members))) := by
  intro compiled marked
  obtain ⟨declares, requires⟩ := declares_and_requires_iff found name
  obtain ⟨validator, type⟩ := optionality_compile found hint own
  refine ⟨declares, requires, validator, type, ?_, ?_⟩
  · rintro ⟨declared, required⟩ value accepts
    refine Validator.present_of_demands marks ?_ accepts
    rw [Validator.demands, validator, ObjectShape.optionality?, declared, required]
    rfl
  · intro free members accepts
    refine compile_accepts_erase found hint marks ?_ accepts
    rw [ObjectShape.optionality?]
    intro both
    apply free
    simpa using both

/-- An object whose identifier is required by one member and declared by the other. -/
def splitRequirement : Schema := .combination .allOf [
  .object ⟨[], ["id"], .unspecified⟩, .object ⟨[("id", .boolean)], [], .unspecified⟩]

/-- Its validator demands the identifier and refuses the object without members. -/
theorem required_properties_enforced_split :
    splitRequirement.objectShape? = some ⟨[("id", .boolean)], ["id"], .unspecified⟩ ∧
      Library.lenient.GoesByMarks ∧ "id" ≠ "__proto__" ∧ "tag" ≠ "__proto__" ∧
      (∃ part, some part ∈ splitRequirement.objectParts ∧ part.requires "id" = true) ∧
      (splitRequirement.compile "").result.validator.optionality? "id" = some false ∧
      (splitRequirement.compile "").result.type.optionality? "id" = some false ∧
      ¬(splitRequirement.compile "").result.validator.Accepts .lenient (.object []) ∧
      ((splitRequirement.compile "").result.validator.Accepts .lenient
          (.object [("id", .boolean true), ("tag", .null)]) →
        (splitRequirement.compile "").result.validator.Accepts .lenient
          (.object [("id", .boolean true)])) := by
  have found : splitRequirement.objectShape? =
      some ⟨[("id", .boolean)], ["id"], .unspecified⟩ := rfl
  have marks := Library.lenient_goesByMarks
  obtain ⟨-, requires, validator, type, enforced, -⟩ :=
    required_properties_enforced splitRequirement "" _ found .lenient marks "id" (by decide)
  obtain ⟨-, -, -, -, -, removable⟩ :=
    required_properties_enforced splitRequirement "" _ found .lenient marks "tag" (by decide)
  refine ⟨found, marks, by decide, by decide, requires.mp rfl, validator, type, ?_,
    removable (by decide) _⟩
  intro accepts
  obtain ⟨_, ⟨rfl⟩, present⟩ := enforced ⟨rfl, rfl⟩ _ accepts
  cases present

/-- A name that is required without being declared is enforced by no validator and stands in no
type. -/
theorem undeclared_requirement_not_enforced :
    ¬∀ (schema : Schema) (hint : String) (shape : ObjectShape Schema),
      schema.objectShape? = some shape → ∀ library : Library, library.GoesByMarks →
        ∀ name : String, shape.requires name = true →
          (∀ members, (schema.compile hint).result.validator.Accepts library (.object members) →
            (members.lookup name).isSome = true) ∧
          (schema.compile hint).result.type.optionality? name = some false := by
  intro enforced
  have accepts : ((Schema.object ⟨[], ["id"], .unspecified⟩).compile "").result.validator.Accepts
      .lenient (.object []) :=
    ⟨[], rfl, List.forall_mem_nil _⟩
  obtain ⟨present, -⟩ := enforced (.object ⟨[], ["id"], .unspecified⟩) "" _ rfl .lenient
    Library.lenient_goesByMarks "id" rfl
  cases present [] accepts

end Schema
end ClientGen
