import ClientGen.Operation.Compile
import ClientGen.Proofs.Schema.Positions
import ClientGen.Proofs.Schema.Requirements

/-!
Warnings about path parameters. Compiling the schemas of an operation warns of nothing, so the
warnings of an operation are those about its parameters. For an input that is no combination they
are exact but for names that the input requires without declaring them: a parameter is warned of
unless the validator of the input demands it. An input that joins its members is warned of for every
parameter. The name `__proto__` is left out, since no property of a validator has it.

Who is not warned of is there in the checked input, unless the validator of the property accepts
`undefined`, as the one of an unconstrained schema does.
-/
namespace ClientGen
open Json

namespace Operation

/-- The warnings of an operation are those about its path parameters. -/
theorem warnings_compile (op : Operation) :
    op.compile.diagnostics.filter Diagnostic.isWarning = op.parameterWarnings := by
  have parts : op.compile.diagnostics =
      (op.input.compile (Identifier.pascal op.name ++ "Args")).diagnostics ++
        ((op.output.compile (Identifier.pascal op.name ++ "Result")).diagnostics ++
          (op.parameterWarnings ++ [.compiledOperation op.name op.verb op.path
            (PathTemplate.parameters op.path).length op.verb.sendsBody])) := rfl
  have warned : ∀ d ∈ op.parameterWarnings, d.isWarning = true :=
    List.forall_mem_map.mpr fun _ _ => rfl
  rw [parts, List.filter_append, (Schema.located_compile _ _).warnings, List.filter_append,
    (Schema.located_compile _ _).warnings, List.filter_append, List.filter_eq_self.mpr warned]
  exact List.append_nil _

end Operation

namespace Schema

/-- Whether a schema is compiled as what its members give together or as its only member. -/
def joins : Schema → Bool
  | .combination .allOf _ | .combination _ [_] => true
  | _ => false

/-- Whether a schema is an object that requires a name which it does not declare. -/
def requiresUndeclared (schema : Schema) (name : String) : Bool :=
  schema.object?.any fun shape => shape.requires name && !shape.declares name

private theorem eq_object_of_object? {schema : Schema} {shape : ObjectShape Schema}
    (found : schema.object? = some shape) : schema = .object shape := by
  cases schema <;> cases found
  rfl

/-- What joins its members has no shape of its own. -/
theorem object?_of_joins {schema : Schema} (joined : schema.joins = true) :
    schema.object? = none := by
  cases schema <;> first | rfl | cases joined

theorem entries_withChecks {base : Validator} (none : base.entries = []) (checks : List Check) :
    (base.withChecks checks).entries = [] := by
  induction checks generalizing base with
  | nil => exact none
  | cons check rest ih => exact ih rfl

private theorem demands_of_entries {validator : Validator} (none : validator.entries = [])
    (name : String) : validator.demands name = false := by
  rw [Validator.demands, Validator.optionality?, Validator.properties, none]
  rfl

private theorem entries_enumeration (hint : String) (values : List Value) :
    (compileEnumeration hint values).result.validator.entries = [] := by
  match values with
  | [] | [_] => rfl
  | first :: second :: rest =>
    unfold compileEnumeration
    dsimp only
    split <;> rfl

private theorem demands_object (shape : ObjectShape Schema) (hint : String) {name : String}
    (own : name ≠ "__proto__") : ((object shape).compile hint).result.validator.demands name =
      (shape.declares name && shape.requires name) := by
  have found : (object shape).objectShape? = some shape := rfl
  rw [Validator.demands, (optionality_compile found hint own).1, ObjectShape.optionality?]
  cases shape.declares name <;> cases shape.requires name <;> rfl

/-- The validator of a schema that joins nothing and is no object demands nothing. -/
theorem demands_other {schema : Schema} (apart : schema.joins = false)
    (other : schema.object? = none) (hint name : String) :
    (schema.compile hint).result.validator.demands name = false := by
  apply demands_of_entries
  match schema, apart, other with
  | .reference _, _, _ | .boolean, _, _ | .null, _, _ | .nullable, _, _ | .unknown, _, _ => rfl
  | .string constraints, _, _ => exact entries_withChecks rfl _
  | .number constraints, _, _ => exact entries_withChecks rfl _
  | .array items constraints, _, _ => exact entries_withChecks rfl _
  | .enumeration values, _, _ => exact entries_enumeration hint values
  | .combination .anyOf [], _, _ | .combination .oneOf [], _, _ => rfl
  | .combination .anyOf (_ :: _ :: _), _, _ | .combination .oneOf (_ :: _ :: _), _, _ => rfl

/-- Where an object describes a name without constraints, its validator accepts `undefined` for it.
-/
theorem spares_of_unknown (shape : ObjectShape Schema) (hint : String) {name : String}
    (declared : String → Prop)
    (unconstrained : ∀ schema, (name, schema) ∈ shape.properties → schema = .unknown) :
    ((object shape).compile hint).result.validator.Spares declared name := by
  intro property listed
  have inLiteral := (List.mem_filter.mp listed).1
  have compiled : ((object shape).compile hint).result =
      (objectOf (compileShape hint shape)).result := rfl
  rw [compiled, entries_objectOf] at inLiteral
  obtain ⟨field, inFields, same⟩ := List.mem_map.mp inLiteral
  rw [compiledFields, compileShape_eq_map] at inFields
  obtain ⟨traced, inShape, rfl⟩ := List.mem_map.mp inFields
  obtain ⟨⟨key, schema⟩, declares, rfl⟩ := List.mem_map.mp inShape
  obtain ⟨rfl, rfl⟩ := Prod.mk.inj same
  obtain rfl := unconstrained schema declares
  split <;> trivial

end Schema

namespace Operation

/-- An input that joins nothing requires a field if its validator demands it, and else only if the
field is not declared. -/
theorem requiresField_eq {op : Operation} (apart : op.input.joins = false) (hint : String)
    {name : String} (own : name ≠ "__proto__") :
    op.requiresField name = ((op.input.compile hint).result.validator.demands name ||
      op.input.requiresUndeclared name) := by
  cases shaped : op.input.object? with
  | none =>
    rw [Schema.demands_other apart shaped, requiresField, Schema.requiresUndeclared, shaped]
    rfl
  | some shape =>
    have demanded : (op.input.compile hint).result.validator.demands name =
        (shape.declares name && shape.requires name) := by
      rw [Schema.eq_object_of_object? shaped, Schema.demands_object shape hint own]
    rw [demanded, requiresField, Schema.requiresUndeclared, shaped, Option.any_some,
      Option.any_some]
    cases shape.declares name <;> cases shape.requires name <;> rfl

theorem requiresField_of_joins {op : Operation} (joined : op.input.joins = true) (name : String) :
    op.requiresField name = false := by
  rw [requiresField, Schema.object?_of_joins joined]
  rfl

/-- An input that has a field to require is an object. -/
theorem object_of_requiresField {op : Operation} {name : String}
    (required : op.requiresField name = true) : ∃ shape, op.input = .object shape := by
  cases found : op.input.object? with
  | none =>
    rw [requiresField, found] at required
    cases required
  | some shape => exact ⟨shape, Schema.eq_object_of_object? found⟩

/-- Where the run time decides what may be missing, an input without a property is accepted if and
only if the validator of the property accepts `undefined`. -/
theorem present_or_spared {shape : ObjectShape Schema} {hint name : String} {library : Library}
    {declared : String → Prop} (handed : library.HandsUndefined declared)
    (demanded : ((Schema.object shape).compile hint).result.validator.demands name = true) :
    let validator := ((Schema.object shape).compile hint).result.validator
    (∀ value, validator.Accepts library value → ∃ members, value = .object members ∧
        ((members.lookup name).isSome = true ∨ validator.Spares declared name)) ∧
      (validator.Spares declared name → ∀ members, validator.Accepts library (.object members) →
        validator.Accepts library (.object (Ordered.erase name members))) := by
  intro validator
  obtain ⟨property, found, -⟩ := (Validator.demands_iff _ _).mp demanded
  constructor
  · intro value accepts
    obtain ⟨members, rfl, present | missing⟩ := Validator.present_or_mayLack found accepts
    · exact ⟨members, rfl, .inl present⟩
    · exact ⟨members, rfl, .inr fun own listed => (handed own).mp (missing own listed)⟩
  · intro spared members accepts
    have own : name ≠ "__proto__" := by
      simpa using (List.mem_filter.mp (Ordered.mem_of_lookup found)).2
    refine Schema.objectOf_accepts_erase name ?_ accepts
    rintro ⟨_, entry⟩ listed rfl
    exact (handed entry).mpr (spared entry (List.mem_filter.mpr ⟨listed, by simpa using own⟩))

/-- The warnings of an operation are about path parameters, each occurrence once and in the order of
the path; one rule tells for each name whether it is warned of. Every name is that the validator of
the input does not demand, unless the input requires it without declaring it; for inputs that join
nothing no other name is, for those that join their members every name. Who is not warned of and is
declared is a property that the validator demands. It is there in every value that the validator
accepts, unless the property's own validator accepts `undefined`; then it may be missing, and so it
is with a property that has no constraints. -/
theorem parameter_warnings_exact (op : Operation) :
    let warned := op.compile.diagnostics.filter Diagnostic.isWarning
    let validator := op.compile.result.input.validator
    ∃ warns : String → Bool,
      warned = ((PathTemplate.parameters op.path).filter warns).map
        (.undeclaredParameter op.name op.path) ∧
      (op.input.joins = true → ∀ name, warns name = true) ∧
      ∀ name, name ≠ "__proto__" →
        (validator.demands name = false → op.input.requiresUndeclared name = false →
          warns name = true) ∧
        (op.input.joins = false → warns name = true →
          validator.demands name = false ∧ op.input.requiresUndeclared name = false) ∧
        (warns name = false → op.input.requiresUndeclared name = false →
          validator.demands name = true ∧
          (∀ (library : Library) (declared : String → Prop), library.HandsUndefined declared →
            (∀ value, validator.Accepts library value → ∃ members, value = .object members ∧
              ((members.lookup name).isSome = true ∨ validator.Spares declared name)) ∧
            (validator.Spares declared name →
              ∀ members, validator.Accepts library (.object members) →
                validator.Accepts library (.object (Ordered.erase name members)))) ∧
          ∀ shape, op.input.object? = some shape →
            (∀ schema, (name, schema) ∈ shape.properties → schema = .unknown) →
              ∀ declared, validator.Spares declared name) := by
  intro warned validator
  refine ⟨(!op.requiresField ·), op.warnings_compile, ?_, ?_⟩
  · intro joined name
    dsimp only
    rw [requiresField_of_joins joined]
    rfl
  intro name own
  dsimp only
  have exactly (apart : op.input.joins = false) :
      op.requiresField name = (validator.demands name || op.input.requiresUndeclared name) :=
    requiresField_eq apart _ own
  refine ⟨?_, ?_, ?_⟩
  · intro free listed
    cases joined : op.input.joins with
    | true =>
      rw [requiresField_of_joins joined]
      rfl
    | false =>
      rw [exactly joined, free, listed]
      rfl
  · intro apart warns
    rw [exactly apart] at warns
    simpa using warns
  · intro silent declares
    have required : op.requiresField name = true := by simpa using silent
    obtain ⟨shape, isObject⟩ := object_of_requiresField required
    have apart : op.input.joins = false := by
      rw [isObject]
      rfl
    rw [exactly apart, declares, Bool.or_false] at required
    have compiled : validator =
        ((Schema.object shape).compile (Identifier.pascal op.name ++ "Args")).result.validator := by
      rw [← isObject]
      rfl
    refine ⟨required, ?_, ?_⟩
    · intro library declared handed
      rw [compiled] at required ⊢
      exact present_or_spared handed required
    · intro other found unconstrained declared
      rw [isObject] at found
      cases found
      rw [compiled]
      exact Schema.spares_of_unknown shape _ declared unconstrained

/-- An operation that reads its input by four parameters, of which the input declares and requires
two, one of them without constraints. -/
def partlyDeclared : Operation where
  name := "partly"
  path := "/:id/:rest/:id/:free/:any"
  verb := .get
  input := .object
    ⟨[("id", .boolean), ("any", .unknown)], ["id", "rest", "any"], .unspecified⟩
  output := .unknown

/-- The library at run time, where no validator declared elsewhere accepts `undefined`. -/
def runTime : Library :=
  { Library.lenient with mayLack := (·.TakesUndefined fun _ => False) }

/-- It is warned of the parameter that the input says nothing of. Of those that are declared, the
one with constraints is there in what the validator accepts, and the other one may be missing. -/
theorem parameter_warnings_exact_partly :
    let validator := partlyDeclared.compile.result.input.validator
    partlyDeclared.input.joins = false ∧
      partlyDeclared.compile.diagnostics.filter Diagnostic.isWarning =
        [.undeclaredParameter "partly" "/:id/:rest/:id/:free/:any" "free"] ∧
      runTime.HandsUndefined (fun _ => False) ∧
      ¬validator.Accepts runTime (.object [("any", .null)]) ∧
      validator.Accepts runTime (.object [("id", .boolean true)]) := by
  intro validator
  obtain ⟨warns, warned, -, each⟩ := parameter_warnings_exact partlyDeclared
  obtain ⟨-, idWarned, idPresent⟩ := each "id" (by decide)
  obtain ⟨-, restWarned, -⟩ := each "rest" (by decide)
  obtain ⟨freeWarned, -, -⟩ := each "free" (by decide)
  obtain ⟨-, anyWarned, anyPresent⟩ := each "any" (by decide)
  have id : warns "id" = false :=
    Bool.eq_false_iff.mpr fun warns => absurd (idWarned rfl warns).1 (by decide +kernel)
  have rest : warns "rest" = false :=
    Bool.eq_false_iff.mpr fun warns => absurd (restWarned rfl warns).2 (by decide +kernel)
  have free : warns "free" = true := freeWarned (by decide +kernel) rfl
  have any : warns "any" = false :=
    Bool.eq_false_iff.mpr fun warns => absurd (anyWarned rfl warns).1 (by decide +kernel)
  have parameters : PathTemplate.parameters partlyDeclared.path =
      ["id", "rest", "id", "free", "any"] := by
    decide +kernel
  have handed : runTime.HandsUndefined fun _ => False := fun _ => Iff.rfl
  refine ⟨rfl, ?_, handed, ?_, ?_⟩
  · rw [warned, parameters]
    simp [id, rest, free, any, partlyDeclared]
  · intro accepts
    obtain ⟨-, present, -⟩ := idPresent id rfl
    obtain ⟨_, ⟨rfl⟩, found | spared⟩ := (present runTime _ handed).1 _ accepts
    · cases found
    · exact spared .boolean (List.mem_cons_self)
  · obtain ⟨-, present, unconstrained⟩ := anyPresent any rfl
    have spared := unconstrained _ rfl (by simp) fun _ => False
    have whole : validator.Accepts runTime (.object [("id", .boolean true), ("any", .null)]) := by
      refine ⟨_, rfl, fun _ => ⟨?_, nofun⟩, fun _ => ⟨fun _ _ => trivial, nofun⟩, trivial⟩
      rintro _ ⟨rfl⟩
      exact ⟨true, rfl⟩
    exact (present runTime _ handed).2 spared _ whole

/-- An operation whose input requires its parameter without declaring it. -/
def requiredOnly : Operation where
  name := "only"
  path := "/:id"
  verb := .get
  input := .object ⟨[], ["id"], .unspecified⟩
  output := .unknown

/-- An operation whose input demands its parameter through a merge. -/
def mergedInput : Operation where
  name := "merged"
  path := "/:id"
  verb := .get
  input := .combination .allOf [.object ⟨[("id", .boolean)], ["id"], .unspecified⟩]
  output := .unknown

/-- The warnings are not those about the parameters that the validator does not demand: the first
operation lacks one, the second has one too many. -/
theorem warnings_not_by_validator :
    (requiredOnly.compile.diagnostics.filter Diagnostic.isWarning = [] ∧
      PathTemplate.parameters requiredOnly.path = ["id"] ∧
      requiredOnly.compile.result.input.validator.demands "id" = false) ∧
    mergedInput.compile.diagnostics.filter Diagnostic.isWarning =
        [.undeclaredParameter "merged" "/:id" "id"] ∧
      mergedInput.compile.result.input.validator.demands "id" = true := by
  decide +kernel

end Operation
end ClientGen
