import ClientGen.Proofs.PathTemplate.Url
import ClientGen.Proofs.Schema.Requirements
import ClientGen.Proofs.TypeScript.PropertyNames

/-!
Names of the fields of an operation. The validator and the type of its input name a field where they
declare it, and the URL names one where it reads it. The generated language reads these names as the
schema and the path have them. A parameter is read from the field of its name, if there is one; the
validator has none for `__proto__`.
-/
namespace ClientGen
open TypeScript

namespace TypeScript

def TypeExpr.fields : TypeExpr → List (TypeField TypeExpr)
  | .object fields _ => fields
  | _ => []

private theorem endsName_colon (rest : List Char) : EndsName (": ".toList ++ rest) :=
  endsName_cons (by decide +kernel) (by decide) _

private theorem endsName_mark (isOptional : Bool) (rest : List Char) :
    EndsName ((if isOptional then "?: " else ": ").toList ++ rest) := by
  cases isOptional with
  | false => exact endsName_colon rest
  | true => exact endsName_cons (by decide +kernel) (by decide) _

private theorem readKey?_fieldType (field : TypeField TypeExpr) :
    readKey? (fieldChars field) = some (field.name.toList,
      (if field.isOptional then "?: " else ": ").toList ++ field.type.chars) := by
  rw [fieldChars, List.append_assoc]
  exact readKey?_propertyKey _ (endsName_mark _ _)

private theorem readKey?_fieldValidator (field : String × Validator) :
    readKey? (Validator.fieldChars field) =
      some (field.1.toList, ": ".toList ++ field.2.chars) := by
  rw [Validator.fieldChars, List.append_assoc]
  exact readKey?_propertyKey _ (endsName_colon _)

private theorem declaredName?_of_readKey? {name : String}
    (read : readKey? text = some (name.toList, rest)) : declaredName? text = some name := by
  rw [declaredName?, read, Option.map_some, String.ofList_toList]

/-- The key of a validator gives its name to a property, unless the name is that of the prototype. -/
theorem ownProperty?_fieldValidator (field : String × Validator) :
    ownProperty? (Validator.fieldChars field) =
      if field.1 = "__proto__" then none else some field.1 := by
  have colon : ": ".toList ++ field.2.chars = ':' :: ' ' :: field.2.chars := rfl
  have named : field.1.toList = "__proto__".toList ↔ field.1 = "__proto__" := String.toList_inj
  simp only [ownProperty?, readKey?_fieldValidator, colon, named, String.ofList_toList]

private theorem ownProperties_fieldValidators (fields : List (String × Validator)) :
    fields.filterMap (fun field => ownProperty? (Validator.fieldChars field)) =
      (fields.map Prod.fst).filter (· ≠ "__proto__") := by
  induction fields with
  | nil => rfl
  | cons field rest ih =>
    rw [List.filterMap_cons, ownProperty?_fieldValidator, ih]
    by_cases prototype : field.1 = "__proto__" <;> simp [prototype]

/-- The properties of a validator are those that its literal gives it. -/
theorem ownProperties_entries (validator : Validator) :
    validator.entries.filterMap (fun field => ownProperty? (Validator.fieldChars field)) =
      validator.properties.map Prod.fst := by
  rw [ownProperties_fieldValidators, Validator.properties, Ordered.erase, List.filter_map]
  congr 2
  funext field
  by_cases prototype : field.1 = "__proto__" <;> simp [prototype]

end TypeScript

namespace Schema

section Fields

variable {σ : Type} (shape : ObjectShape σ) (fields : List (String × Compiled))

private theorem names_fieldValidators :
    (fields.map (fieldValidator shape)).map Prod.fst = fields.map Prod.fst := by
  rw [List.map_map]
  rfl

private theorem names_fieldTypes :
    (fields.map (fieldType shape)).map TypeField.name = fields.map Prod.fst := by
  rw [List.map_map]
  rfl

end Fields

private theorem names_objectOf (shape : ObjectShape (Traced Compiled)) :
    (objectOf shape).result.validator.entries.map Prod.fst = shape.properties.map Prod.fst ∧
      (objectOf shape).result.type.fields.map TypeField.name = shape.properties.map Prod.fst := by
  have validators := names_fieldValidators shape (compiledFields shape)
  have types := names_fieldTypes shape (compiledFields shape)
  rw [keys_compiledFields] at validators types
  refine ⟨by rw [entries_objectOf, validators], ?_⟩
  obtain ⟨properties, required, additional⟩ := shape
  cases properties with
  | nil => cases additional <;> rfl
  | cons first rest =>
    rw [objectOf_result_cons]
    exact types

/-- A schema compiled as an object has a field for each of its properties, in order. -/
theorem names_compile {schema : Schema} {shape : ObjectShape Schema}
    (found : schema.objectShape? = some shape) (hint : String) :
    let compiled := (schema.compile hint).result
    compiled.validator.entries.map Prod.fst = shape.properties.map Prod.fst ∧
      compiled.type.fields.map TypeField.name = shape.properties.map Prod.fst := by
  obtain ⟨position, same⟩ := compile_of_objectShape? found hint
  have names : (compileShape position shape).properties.map Prod.fst =
      shape.properties.map Prod.fst := by
    rw [compileShape_eq_map, ObjectShape.map, List.map_map]
    rfl
  rw [same, ← names]
  exact names_objectOf (compileShape position shape)

end Schema

namespace PathTemplate

/-- The property of the input that the substitution of a parameter reads. -/
def inputProperty? (code : List Char) : Option String :=
  match readAccess? "encodeURIComponent(String(input".toList code with
  | some (name, rest) => if rest = "))".toList then some (String.ofList name) else none
  | none => none

private theorem inputProperty?_parameterExpression (name : List Char) :
    inputProperty? (parameterExpression "input".toList name) = some (String.ofList name) := by
  have ends : EndsName "))".toList := endsName_cons (by decide +kernel) (by decide) _
  have whole : parameterExpression "input".toList name =
      propertyAccessChars "encodeURIComponent(String(input".toList name ++ "))".toList :=
    congrArg (· ++ "))".toList) (append_propertyAccess "encodeURIComponent(String(".toList _ name)
  have read := readAccess?_propertyAccess "encodeURIComponent(String(input".toList name ends
  rw [inputProperty?, whole, read]
  exact if_pos rfl

/-- The substitutions of a URL read the base URL and then the parameters of the path. -/
theorem substitutions_url (path : List Char) : ∃ parts,
    readTemplate (urlChars path) = some (parts, []) ∧
      substitutions parts = "config.baseUrl".toList ::
        ((segments path).filterMap Segment.parameter?).map
          (parameterExpression "input".toList) := by
  have cut := wellCut_segments path
  have base : PassedInCode "config.baseUrl".toList := passedInCode_plain (by decide)
  refine ⟨.chunk [] :: .substitution "config.baseUrl".toList ::
    templateParts "input".toList (segments path), ?_, ?_⟩
  · rw [urlChars, List.cons_append, List.cons_append, List.append_assoc, readTemplate,
      readParts_substitution _ base, templateChars,
      readParts_template "input".toList (by decide) cut]
    rfl
  · exact congrArg (_ :: ·) (substitutions_templateParts "input".toList cut)

end PathTemplate

namespace Operation

/-- Texts and names read back as what they are. A string literal is one whole literal on one line
and stands for its text. A name reads as itself where it is the key of a validator, the key of a
type or the key of an access, and distinct names are written apart. So the texts of an input that is
an object name its properties, and the URL reads the properties that the path names. One of them may
be missing all the same: a key of a validator gives its name to a property if and only if the name
is not `__proto__`. -/
theorem names_read_back (name other object : String) (value : Validator) (isOptional : Bool)
    (type : TypeExpr) (op : Operation) :
    IsLiteralOf (stringLiteral name) name ∧
      readKey? (Validator.fieldChars (name, value)) =
        some (name.toList, ": ".toList ++ value.chars) ∧
      readKey? (fieldChars ⟨name, isOptional, type⟩) =
        some (name.toList, (if isOptional then "?: " else ": ").toList ++ type.chars) ∧
      readAccess? object.toList (propertyAccess object name).toList = some (name.toList, []) ∧
      (name ≠ other → propertyKey name ≠ propertyKey other ∧
        propertyAccess object name ≠ propertyAccess object other) ∧
      (ownProperty? (Validator.fieldChars (name, value)) = some name ↔ name ≠ "__proto__") ∧
      (∃ parts, readTemplate op.compile.result.url.toList = some (parts, []) ∧
        (substitutions parts).tail.map PathTemplate.inputProperty? =
          (PathTemplate.parameters op.path).map some) ∧
      ∀ shape : ObjectShape Schema, op.input.objectShape? = some shape →
        let input := op.compile.result.input
        let names := shape.properties.map Prod.fst
        input.type.fields.map (fun field => declaredName? (fieldChars field)) = names.map some ∧
          input.validator.entries.map (fun field => declaredName? (Validator.fieldChars field)) =
            names.map some ∧
          input.validator.entries.filterMap
              (fun field => ownProperty? (Validator.fieldChars field)) =
            names.filter (· ≠ "__proto__") := by
  refine ⟨isLiteralOf_stringLiteral name, readKey?_fieldValidator (name, value),
    readKey?_fieldType ⟨name, isOptional, type⟩, ?_, ?_, ?_, ?_, fun shape found => ?_⟩
  · have read := readAccess?_propertyAccess object.toList name.toList endsName_nil
    rw [List.append_nil] at read
    rw [propertyAccess, String.toList_ofList, read]
  · exact fun apart => ⟨mt propertyKey_injective apart, mt propertyAccess_injective apart⟩
  · rw [ownProperty?_fieldValidator]
    by_cases prototype : name = "__proto__" <;> simp [prototype]
  · obtain ⟨parts, whole, reads⟩ := PathTemplate.substitutions_url op.path.toList
    have url : op.compile.result.url.toList = PathTemplate.urlChars op.path.toList :=
      String.toList_ofList
    refine ⟨parts, url ▸ whole, ?_⟩
    rw [reads, List.tail_cons, PathTemplate.parameters, List.map_map, List.map_map]
    exact List.map_congr_left fun name _ => PathTemplate.inputProperty?_parameterExpression name
  · intro input names
    obtain ⟨validators, types⟩ : input.validator.entries.map Prod.fst = names ∧
        input.type.fields.map TypeField.name = names :=
      Schema.names_compile found (Identifier.pascal op.name ++ "Args")
    refine ⟨?_, ?_, ?_⟩
    · rw [← types, List.map_map]
      exact List.map_congr_left fun field _ => declaredName?_of_readKey? (readKey?_fieldType field)
    · rw [← validators, List.map_map]
      exact List.map_congr_left fun field _ =>
        declaredName?_of_readKey? (readKey?_fieldValidator field)
    · rw [← validators, ownProperties_fieldValidators]

/-- An operation with a parameter that is no plain identifier, and one with the name of the
prototype. -/
def unusual : Operation where
  name := "unusual"
  path := "/:été/:__proto__"
  verb := .get
  input := .object
    ⟨[("été", .boolean), ("__proto__", .boolean), ("a\"\u2028", .null)], ["été", "__proto__"],
      .unspecified⟩
  output := .unknown

/-- Its URL reads both, its type has both, but its validator has only the first. -/
theorem names_read_back_unusual :
    let input := unusual.compile.result.input
    ("été" ≠ "__proto__" ∧ propertyKey "été" ≠ propertyKey "__proto__" ∧ ∃ parts,
        readTemplate unusual.compile.result.url.toList = some (parts, []) ∧
          (substitutions parts).tail.map PathTemplate.inputProperty? =
            [some "été", some "__proto__"]) ∧
      input.type.fields.map (fun field => declaredName? (fieldChars field)) =
        [some "été", some "__proto__", some "a\"\u2028"] ∧
      input.validator.entries.filterMap (fun field => ownProperty? (Validator.fieldChars field)) =
        ["été", "a\"\u2028"] := by
  have distinct : "été" ≠ "__proto__" := by decide
  obtain ⟨-, -, -, -, apart, -, url, declared⟩ :=
    names_read_back "été" "__proto__" "input" .boolean false .boolean unusual
  obtain ⟨types, -, validators⟩ := declared _ rfl
  have parameters : PathTemplate.parameters unusual.path = ["été", "__proto__"] := by
    decide +kernel
  rw [parameters] at url
  exact ⟨⟨distinct, (apart distinct).1, url⟩, types, validators⟩

end Operation

end ClientGen
