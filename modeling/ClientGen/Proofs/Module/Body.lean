import ClientGen.Module.Emit
import ClientGen.Proofs.Identifier
import ClientGen.Proofs.Module.Breaks
import ClientGen.Proofs.Module.Names
import ClientGen.Proofs.Schema.Rules

/-!
A module has one stamp. Names, schemas, types and literals never make a line that starts with a
slash, whatever a payload says; so the code behind the stamp line holds a stamp only where the path
of an operation does.
-/
namespace ClientGen
open TypeScript ClientGen.Module

theorem slash_not_mem_pascal (name : String) : '/' ∉ (Identifier.pascal name).toList := by
  rw [Identifier.pascal, String.toList_ofList]
  exact Identifier.slash_not_mem_pascalChars _

private theorem slash_not_mem_camel (name : String) : '/' ∉ (Identifier.camel name).toList := by
  rw [Identifier.camel, String.toList_ofList]
  exact Identifier.slash_not_mem_lowerFirst (Identifier.slash_not_mem_pascalChars _)

private theorem slash_not_mem_referenceName (target : String) :
    '/' ∉ (Schema.referenceName target).toList := by
  unfold Schema.referenceName
  split
  · decide
  · rw [String.toList_ofList]
    exact Identifier.slash_not_mem_pascalChars _

/-- Fixed code, of which it can be decided that its lines do not start with a slash. -/
private theorem fixed (chars : List Char) (isCalm : calm ('\n' :: chars) = true) :
    KeepsWhole (String.ofList chars).toList := by
  rw [calm, Bool.and_eq_true] at isCalm
  rw [String.toList_ofList]
  refine keepsWhole_calm isCalm.2 ?_
  intro starts
  rw [starts] at isCalm
  cases isCalm.1

private theorem keepsWhole_digits (n : Nat) : KeepsWhole (Nat.toDigits 10 n) := by
  have number := keepsWhole_number (.natural n)
  rwa [Json.Number.chars] at number

private theorem keepsWhole_call (name : List Char) (argument : KeepsWhole code)
    (calmName : calm ('\n' :: name) = true) :
    KeepsWhole ((String.ofList name).toList ++ code ++ [')']) := by
  have closed : KeepsWhole [')'] := keepsWhole_calm (by decide) (by decide)
  exact keepsWhole_append (keepsWhole_append (fixed name calmName) argument) closed

private theorem keepsWhole_check (check : Check) : KeepsWhole check.chars := by
  cases check with
  | min count => exact keepsWhole_call _ (keepsWhole_digits count) rfl
  | max count => exact keepsWhole_call _ (keepsWhole_digits count) rfl
  | regex pattern =>
    have argument := keepsWhole_stringLiteral pattern.toList
    exact keepsWhole_append (keepsWhole_append (fixed _ rfl) argument) (fixed _ rfl)
  | email => exact fixed _ rfl
  | url => exact fixed _ rfl
  | uuid => exact fixed _ rfl
  | datetime => exact fixed _ rfl
  | int => exact fixed _ rfl
  | gte bound => exact keepsWhole_call _ (keepsWhole_number bound) rfl
  | lte bound => exact keepsWhole_call _ (keepsWhole_number bound) rfl
  | gt bound => exact keepsWhole_call _ (keepsWhole_number bound) rfl
  | lt bound => exact keepsWhole_call _ (keepsWhole_number bound) rfl
  | multipleOf step => exact keepsWhole_call _ (keepsWhole_number step) rfl
  | unique =>
    change KeepsWhole (String.toList (_ ++ _))
    rw [String.toList_append]
    exact keepsWhole_append (fixed _ rfl) (fixed _ rfl)

private theorem keepsWhole_withChecks (checks : List Check) {base : Validator}
    (keeps : KeepsWhole base.chars) : KeepsWhole (base.withChecks checks).chars := by
  rw [Validator.chars_withChecks]
  refine keepsWhole_append keeps (keepsWhole_flatten ?_)
  exact List.forall_mem_map.mpr fun check _ => keepsWhole_check check

namespace Compiled

/-- Both texts of a compiled schema can stand in front of any whole code. -/
def KeepsWhole (compiled : Compiled) : Prop :=
  Module.KeepsWhole compiled.validator.chars ∧ Module.KeepsWhole compiled.type.chars

private theorem keepsWhole_unknown : unknown.KeepsWhole := ⟨fixed _ rfl, fixed _ rfl⟩

private theorem keepsWhole_record {value : Compiled} (keeps : value.KeepsWhole) :
    (record value).KeepsWhole := by
  have closedType : Module.KeepsWhole ['>'] := keepsWhole_calm (by decide) (by decide)
  constructor
  · exact keepsWhole_call _ keeps.1 rfl
  · exact keepsWhole_append (keepsWhole_append (fixed _ rfl) keeps.2) closedType

private theorem keepsWhole_arrayOf (constraints : ArrayConstraints) {item : Compiled}
    (keeps : item.KeepsWhole) : (Schema.arrayOf constraints item).KeepsWhole := by
  have closedType : Module.KeepsWhole ['>'] := keepsWhole_calm (by decide) (by decide)
  constructor
  · apply keepsWhole_withChecks
    exact keepsWhole_call _ keeps.1 rfl
  · exact keepsWhole_append (keepsWhole_append (fixed _ rfl) keeps.2) closedType

private theorem keepsWhole_compileReference (target : String) :
    (Schema.compileReference target).KeepsWhole := by
  have name : Module.KeepsWhole (Schema.referenceName target).toList :=
    keepsWhole_of_no_slash (slash_not_mem_referenceName target)
  refine ⟨?_, name⟩
  have schemaName : Module.KeepsWhole (validatorName (Schema.referenceName target)).toList := by
    rw [validatorName, String.toList_append]
    exact keepsWhole_append name (fixed _ rfl)
  exact keepsWhole_call _ schemaName rfl

private theorem keepsWhole_listed (each : ∀ code ∈ codes, Module.KeepsWhole code) :
    Module.KeepsWhole (List.intercalate ", ".toList codes) :=
  keepsWhole_intercalate (fixed _ rfl) each

private theorem keepsWhole_typeUnion (members : List TypeExpr)
    (each : ∀ member ∈ members, Module.KeepsWhole member.chars) :
    Module.KeepsWhole (TypeExpr.union members).chars := by
  have texts : ∀ code ∈ membersChars members, Module.KeepsWhole code := by
    rw [membersChars_eq_map]
    exact List.forall_mem_map.mpr each
  exact keepsWhole_intercalate (fixed _ rfl) texts

private theorem keepsWhole_validatorUnion (members : List Validator)
    (each : ∀ member ∈ members, Module.KeepsWhole member.chars) :
    Module.KeepsWhole (Validator.union members).chars := by
  have texts : ∀ code ∈ Validator.membersChars members, Module.KeepsWhole code := by
    rw [Validator.membersChars_eq_map]
    exact List.forall_mem_map.mpr each
  exact keepsWhole_append (keepsWhole_append (fixed _ rfl) (keepsWhole_listed texts)) (fixed _ rfl)

theorem keepsWhole_union (members : List Compiled) (each : ∀ member ∈ members, member.KeepsWhole) :
    KeepsWhole ⟨.union (members.map validator), .union (members.map type)⟩ := by
  constructor
  · apply keepsWhole_validatorUnion
    exact List.forall_mem_map.mpr fun compiled listed => (each compiled listed).1
  · apply keepsWhole_typeUnion
    exact List.forall_mem_map.mpr fun compiled listed => (each compiled listed).2

private theorem keepsWhole_literals (values : List Json.Value) :
    Module.KeepsWhole (TypeExpr.union (values.map .literal)).chars ∧
      Module.KeepsWhole (Validator.union (values.map .literal)).chars := by
  constructor
  · apply keepsWhole_typeUnion
    exact List.forall_mem_map.mpr fun value _ => keepsWhole_value value
  · apply keepsWhole_validatorUnion
    exact List.forall_mem_map.mpr fun value _ => keepsWhole_call _ (keepsWhole_value value) rfl

private theorem keepsWhole_choice (values : List Json.Value) :
    Module.KeepsWhole (Validator.choice values).chars := by
  have texts : ∀ code ∈ values.map Json.Value.chars, Module.KeepsWhole code :=
    List.forall_mem_map.mpr fun value _ => keepsWhole_value value
  exact keepsWhole_append (keepsWhole_append (fixed _ rfl) (keepsWhole_listed texts)) (fixed _ rfl)

private theorem keepsWhole_compileEnumeration (hint : String) (values : List Json.Value) :
    (Schema.compileEnumeration hint values).result.KeepsWhole := by
  match values with
  | [] => exact keepsWhole_unknown
  | [value] => exact ⟨keepsWhole_call _ (keepsWhole_value value) rfl, keepsWhole_value value⟩
  | first :: second :: rest =>
    obtain ⟨type, union⟩ := keepsWhole_literals (first :: second :: rest)
    unfold Schema.compileEnumeration
    dsimp only
    split
    · exact ⟨keepsWhole_choice _, type⟩
    · exact ⟨union, type⟩

private theorem keepsWhole_field (shape : ObjectShape σ) (field : String × Compiled)
    (keeps : field.2.KeepsWhole) :
    Module.KeepsWhole (Validator.fieldChars (Schema.fieldValidator shape field)) ∧
      Module.KeepsWhole (fieldChars (Schema.fieldType shape field)) := by
  have key := keepsWhole_propertyKey field.1.toList
  have value : Module.KeepsWhole (if shape.requires field.1 then field.2.validator
      else .optional field.2.validator).chars := by
    split
    · exact keeps.1
    · exact keepsWhole_append keeps.1 (fixed _ rfl)
  have mark : Module.KeepsWhole (if !shape.requires field.1 then "?: " else ": ").toList := by
    split
    · exact fixed _ rfl
    · exact fixed _ rfl
  exact ⟨keepsWhole_append (keepsWhole_append key (fixed _ rfl)) value,
    keepsWhole_append (keepsWhole_append key mark) keeps.2⟩

private theorem keepsWhole_objectFrom (shape : ObjectShape σ) (fields : List (String × Compiled))
    (others : Option Compiled) (each : ∀ field ∈ fields, field.2.KeepsWhole)
    (rest : ∀ other, others = some other → other.KeepsWhole) :
    (Schema.objectFrom shape fields others).KeepsWhole := by
  have validators : ∀ code ∈ Validator.fieldsChars (fields.map (Schema.fieldValidator shape)),
      Module.KeepsWhole code := by
    rw [Validator.fieldsChars_eq_map, List.forall_mem_map, List.forall_mem_map]
    exact fun field listed => (keepsWhole_field shape field (each field listed)).1
  have types : ∀ code ∈ fieldsChars (fields.map (Schema.fieldType shape)),
      Module.KeepsWhole code := by
    rw [fieldsChars_eq_map, List.forall_mem_map, List.forall_mem_map]
    exact fun field listed => (keepsWhole_field shape field (each field listed)).2
  have object : Module.KeepsWhole
      (Validator.object (fields.map (Schema.fieldValidator shape))).chars :=
    keepsWhole_append (keepsWhole_append (fixed _ rfl) (keepsWhole_listed validators)) (fixed _ rfl)
  have braces : ∀ codes, (∀ code ∈ codes, Module.KeepsWhole code) → Module.KeepsWhole
      ("\x7b ".toList ++ List.intercalate "; ".toList codes ++ " \x7d".toList) := by
    intro codes keeps
    have inside : Module.KeepsWhole (List.intercalate "; ".toList codes) :=
      keepsWhole_intercalate (fixed _ rfl) keeps
    exact keepsWhole_append (keepsWhole_append (fixed _ rfl) inside) (fixed _ rfl)
  cases others with
  | none =>
    refine ⟨object, braces _ ?_⟩
    intro code member
    rcases List.mem_append.mp member with declared | other
    · exact types code declared
    · cases other
  | some other =>
    have keeps := rest other rfl
    have closed : Module.KeepsWhole [')'] := keepsWhole_calm (by decide) (by decide)
    refine ⟨?_, braces _ ?_⟩
    · exact keepsWhole_append (keepsWhole_append (keepsWhole_append object (fixed _ rfl))
        keeps.1) closed
    · intro code member
      rcases List.mem_append.mp member with declared | index
      · exact types code declared
      · rw [List.mem_singleton.mp index]
        exact keepsWhole_append (fixed _ rfl) keeps.2

private theorem keepsWhole_compile (hint : String) (schema : Schema) :
    (schema.compile hint).result.KeepsWhole := by
  apply Schema.compile_keeps
  constructor
  case' toKeptByParts => constructor
  case unknown => exact keepsWhole_unknown
  case reference => exact keepsWhole_compileReference
  case string =>
    intro constraints
    exact ⟨keepsWhole_withChecks _ (fixed _ rfl), fixed _ rfl⟩
  case number =>
    intro constraints
    exact ⟨keepsWhole_withChecks _ (fixed _ rfl), fixed _ rfl⟩
  case boolean => exact ⟨fixed _ rfl, fixed _ rfl⟩
  case null => exact ⟨fixed _ rfl, fixed _ rfl⟩
  case nullable =>
    constructor
    · exact keepsWhole_append keepsWhole_unknown.1 (fixed _ rfl)
    · apply keepsWhole_typeUnion
      intro member listed
      rcases List.mem_pair.mp listed with rfl | rfl
      · exact fixed _ rfl
      · exact fixed _ rfl
  case enumeration => exact keepsWhole_compileEnumeration
  case array => exact fun constraints item keeps => keepsWhole_arrayOf constraints keeps
  case record => exact fun value keeps => keepsWhole_record keeps
  case object =>
    intro shape fields others _ each rest
    exact keepsWhole_objectFrom shape fields others each rest
  case union => exact fun members _ each => keepsWhole_union members each

end Compiled

/-- What every compiled operation promises about its text: names without slashes, and schemas that
can stand in front of any whole code. -/
structure CompiledOperation.Tame (op : CompiledOperation) : Prop where
  pascal : '/' ∉ op.pascal.toList
  camel : '/' ∉ op.camel.toList
  input : op.input.KeepsWhole
  output : op.output.KeepsWhole

theorem Operation.tame_compileAll (ops : List Operation) :
    ∀ op ∈ (compileAll ops).result, op.Tame := by
  rw [compileAll_result, List.forall_mem_map]
  exact fun source _ => ⟨slash_not_mem_pascal _, slash_not_mem_camel _,
    Compiled.keepsWhole_compile _ _, Compiled.keepsWhole_compile _ _⟩

namespace Module

private theorem keepsWhole_join (each : ∀ text ∈ texts, KeepsWhole text.toList) :
    KeepsWhole (String.join texts).toList := by
  rw [String.toList_join, List.flatMap_def]
  apply keepsWhole_flatten
  exact List.forall_mem_map.mpr each

/-- The fixed parts of a module. -/
theorem keepsWhole_scaffold :
    KeepsWhole configTypes.toList ∧ KeepsWhole configure.toList ∧ KeepsWhole runtime.toList := by
  refine ⟨keepsWhole_join ?_, keepsWhole_join ?_, keepsWhole_join ?_⟩
  all_goals
    simp only [List.forall_mem_cons]
    and_intros
    all_goals first | exact fixed _ rfl | exact List.forall_mem_nil _

private theorem keepsWhole_clientConfig (baseUrl : Option String) :
    KeepsWhole (clientConfig baseUrl).toList := by
  have literal : KeepsWhole (stringLiteral (baseUrl.getD "")).toList := by
    rw [stringLiteral, String.toList_ofList]
    exact keepsWhole_stringLiteral _
  apply keepsWhole_join
  simp only [List.forall_mem_cons]
  exact ⟨fixed _ rfl, fixed _ rfl, literal, fixed _ rfl, fixed _ rfl, fixed _ rfl,
    List.forall_mem_nil _⟩

section Operations
variable {op : CompiledOperation} (tame : op.Tame)
include tame

/-- The names made from a Pascal form. -/
theorem keepsWhole_suffixed (suffix : List Char)
    (isCalm : calm ('\n' :: suffix) = true) :
    KeepsWhole (op.pascal ++ String.ofList suffix).toList := by
  rw [String.toList_append]
  exact keepsWhole_append (keepsWhole_of_no_slash tame.pascal) (fixed _ isCalm)

private theorem keepsWhole_schemaBlock : KeepsWhole (schemaBlock op).toList := by
  have inputSchema : KeepsWhole op.inputSchemaName.toList := keepsWhole_suffixed tame _ rfl
  have inputType : KeepsWhole op.inputTypeName.toList := keepsWhole_suffixed tame _ rfl
  have resultSchema : KeepsWhole op.resultSchemaName.toList := keepsWhole_suffixed tame _ rfl
  have resultType : KeepsWhole op.resultTypeName.toList := keepsWhole_suffixed tame _ rfl
  have input :
      KeepsWhole op.input.validator.text.toList ∧ KeepsWhole op.input.type.text.toList := by
    rw [Validator.text, TypeExpr.text, String.toList_ofList, String.toList_ofList]
    exact tame.input
  have output :
      KeepsWhole op.output.validator.text.toList ∧ KeepsWhole op.output.type.text.toList := by
    rw [Validator.text, TypeExpr.text, String.toList_ofList, String.toList_ofList]
    exact tame.output
  apply keepsWhole_join
  simp only [List.forall_mem_cons]
  exact ⟨fixed _ rfl, inputSchema, fixed _ rfl, input.1, fixed _ rfl, fixed _ rfl, inputType,
    fixed _ rfl, input.2, fixed _ rfl, fixed _ rfl, resultSchema, fixed _ rfl, output.1,
    fixed _ rfl, fixed _ rfl, resultType, fixed _ rfl, output.2, fixed _ rfl, List.forall_mem_nil _⟩

private theorem keepsWhole_schemaEntries : KeepsWhole (schemaEntries op).toList := by
  apply keepsWhole_join
  simp only [List.forall_mem_cons]
  exact ⟨fixed _ rfl, keepsWhole_suffixed tame _ rfl, fixed _ rfl, fixed _ rfl,
    keepsWhole_suffixed tame _ rfl, fixed _ rfl, List.forall_mem_nil _⟩

private theorem keepsWhole_exportEntry : KeepsWhole (exportEntry op).toList := by
  apply keepsWhole_join
  simp only [List.forall_mem_cons]
  exact ⟨fixed _ rfl, keepsWhole_of_no_slash tame.camel, fixed _ rfl, List.forall_mem_nil _⟩

/-- The one place where a stamp can break into a function is its URL. -/
theorem keepsWhole_functionText (url : KeepsWhole op.url.toList) :
    KeepsWhole op.functionText.toList := by
  have camel : KeepsWhole op.camel.toList := keepsWhole_of_no_slash tame.camel
  have body : KeepsWhole
      (if op.includesBody then "    body: JSON.stringify(input),\n" else "").toList := by
    split
    · exact fixed _ rfl
    · exact fixed [] rfl
  have verb : KeepsWhole op.verb.name.toList := by
    cases op.verb with
    | _ => exact fixed _ rfl
  have inputType : KeepsWhole op.inputTypeName.toList := keepsWhole_suffixed tame _ rfl
  have inputSchema : KeepsWhole op.inputSchemaName.toList := keepsWhole_suffixed tame _ rfl
  have resultType : KeepsWhole op.resultTypeName.toList := keepsWhole_suffixed tame _ rfl
  have resultSchema : KeepsWhole op.resultSchemaName.toList := keepsWhole_suffixed tame _ rfl
  apply keepsWhole_join
  simp only [List.forall_mem_cons]
  exact ⟨fixed _ rfl, camel, fixed _ rfl, inputType, fixed _ rfl, resultType, fixed _ rfl,
    fixed _ rfl, inputSchema, fixed _ rfl, fixed _ rfl, url, fixed _ rfl, fixed _ rfl, verb,
    fixed _ rfl, fixed _ rfl, fixed _ rfl, fixed _ rfl, fixed _ rfl, body, fixed _ rfl, fixed _ rfl,
    fixed _ rfl, fixed _ rfl, fixed _ rfl, resultSchema, fixed _ rfl, fixed _ rfl, fixed _ rfl,
    camel, fixed _ rfl, fixed _ rfl, fixed _ rfl, fixed _ rfl, List.forall_mem_nil _⟩

end Operations

theorem keepsWhole_map (f : CompiledOperation → String) (ops : List CompiledOperation)
    (each : ∀ op ∈ ops, KeepsWhole (f op).toList) :
    KeepsWhole (String.join (ops.map f)).toList := by
  apply keepsWhole_join
  exact List.forall_mem_map.mpr each

/-- The code of a module behind its stamp line, given that no stamp breaks into a URL. -/
theorem keepsWhole_body (ops : List CompiledOperation) (baseUrl : Option String)
    (tame : ∀ op ∈ ops, op.Tame) (urls : ∀ op ∈ ops, KeepsWhole op.url.toList) :
    KeepsWhole (body ops baseUrl).toList := by
  have schemas := keepsWhole_map schemaBlock ops fun op listed =>
    keepsWhole_schemaBlock (tame op listed)
  have entries := keepsWhole_map schemaEntries ops fun op listed =>
    keepsWhole_schemaEntries (tame op listed)
  have exports := keepsWhole_map exportEntry ops fun op listed =>
    keepsWhole_exportEntry (tame op listed)
  have functions := keepsWhole_map (fun op => "\n" ++ op.functionText) ops (by
    intro op listed
    rw [String.toList_append]
    exact keepsWhole_append (fixed _ rfl)
      (keepsWhole_functionText (tame op listed) (urls op listed)))
  obtain ⟨types, configure, runtime⟩ := keepsWhole_scaffold
  apply keepsWhole_join
  simp only [List.forall_mem_cons]
  exact ⟨fixed _ rfl, schemas, fixed _ rfl, types, fixed _ rfl, keepsWhole_clientConfig baseUrl,
    fixed _ rfl, configure, fixed _ rfl, runtime, functions, fixed _ rfl, entries, fixed _ rfl,
    fixed _ rfl, exports, fixed _ rfl, List.forall_mem_nil _⟩

end Module

end ClientGen
