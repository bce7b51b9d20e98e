import ClientGen.Proofs.Module.References
import ClientGen.Proofs.Module.Syntax
import ClientGen.Proofs.Validator.Syntax

/-!
Names that the functions of a module take away from the rest of it. A function is declared for the
whole module, so code in which its name occurs free reads the function. Names of the runtime and
reserved words are refused, and a function never starts with a capital, which leaves two ways: the
global name that marks absent options, and schemas whose names start with a character that has no
lower case.
-/
namespace ClientGen
open TypeScript

namespace CompiledOperation

/-- The names that client functions read besides the schemas of their operation. -/
def globals : List String := ["clientConfig", "fetch", "encodeURIComponent", "String", "JSON",
  "resolveHeaders", "HttpError", "ResponseValidationError"]

/-- The parameters and constants of client functions. -/
def locals : List String := ["args", "config", "input", "response", "parsed"]

private theorem free_pieces (all : List PathTemplate.Segment) :
    piecesFree (all.map PathTemplate.Segment.piece) ⊆ globals ++ locals := by
  induction all with
  | nil => exact List.nil_subset _
  | cons first rest ih =>
    refine List.append_subset.mpr ⟨?_, ih⟩
    cases first with
    | literal text => exact List.nil_subset _
    | parameter name =>
      have own : ["encodeURIComponent", "String", "input"] ⊆ globals ++ locals := by decide
      exact own

private theorem free_optionsCode (op : CompiledOperation) :
    entriesFree op.optionsCode ⊆ globals ++ locals := by
  have names : entriesFree op.optionsCode =
      ["resolveHeaders", "config"] ++ if op.includesBody then ["JSON", "input"] else [] := by
    rw [optionsCode]
    cases op.includesBody <;> rfl
  rw [names]
  cases op.includesBody <;> decide

theorem free_requestCode (op : CompiledOperation) : op.requestCode.free ⊆ globals ++ locals := by
  have names : op.requestCode.free = ["fetch", "config"] ++
      piecesFree ((PathTemplate.segments op.path.toList).map PathTemplate.Segment.piece) ++
        entriesFree op.optionsCode :=
    congrArg (_ :: _ :: _ ++ ·) (List.append_nil _)
  rw [names]
  exact List.append_subset.mpr
    ⟨List.append_subset.mpr ⟨by decide, free_pieces _⟩, op.free_optionsCode⟩

/-- What the statements of a client function read, whether it is bound in the function or not. -/
theorem free_bodyCode (op : CompiledOperation) : statementsFree op.bodyCode =
    [op.inputSchemaName, "args"] ++ (op.requestCode.free ++
      (["response", "HttpError", "response", "response"] ++ [op.resultSchemaName, "response",
        "parsed", "ResponseValidationError", "parsed", "parsed"])) :=
  rfl

/-- A name is free in a client function if its statements read it and it is no local one; besides
that, the parameters read the default configuration. -/
theorem mem_free_code (op : CompiledOperation) (name : String) :
    name ∈ op.code.free ↔
      (name = "clientConfig" ∨ name ∈ statementsFree op.bodyCode) ∧ name ∉ locals := by
  have parts : op.code.free = unbound ["args", "config"] ("clientConfig" ::
      unbound ["input", "response", "parsed"] (statementsFree op.bodyCode)) :=
    rfl
  have split : locals = ["args", "config"] ++ ["input", "response", "parsed"] := rfl
  rw [parts, split, List.mem_append, not_or, mem_unbound, List.mem_cons, mem_unbound]
  constructor
  · rintro ⟨rfl | ⟨read, notConstant⟩, notParameter⟩
    · exact ⟨.inl rfl, by decide, by decide⟩
    · exact ⟨.inr read, notParameter, notConstant⟩
  · rintro ⟨rfl | read, notParameter, notConstant⟩
    · exact ⟨.inl rfl, notParameter⟩
    · exact ⟨.inr ⟨read, notConstant⟩, notParameter⟩

/-- A client function reads its schemas and besides them a few fixed names. -/
theorem free_code (op : CompiledOperation) (name : String) (free : name ∈ op.code.free) :
    name = op.inputSchemaName ∨ name = op.resultSchemaName ∨ name ∈ globals := by
  obtain ⟨read, notLocal⟩ := (mem_free_code op name).mp free
  have request : name ∈ op.requestCode.free → name ∈ globals := fun inRequest =>
    (List.mem_append.mp (op.free_requestCode inRequest)).resolve_right notLocal
  rw [free_bodyCode] at read
  grind [locals, globals]

/-- No schema is hidden by a parameter or a constant of the function. -/
theorem schemaNames_free (op : CompiledOperation) :
    op.inputSchemaName ∈ op.code.free ∧ op.resultSchemaName ∈ op.code.free := by
  have ends : ∀ name ∈ locals, name.toList.getLast? ≠ some 'a' := by decide
  rw [mem_free_code, mem_free_code, free_bodyCode]
  constructor
  · refine ⟨.inr (by simp), fun hidden => ends _ hidden ?_⟩
    exact Module.last_append op.pascal (by decide)
  · refine ⟨.inr (by simp), fun hidden => ends _ hidden ?_⟩
    exact Module.last_append op.pascal (by decide)

end CompiledOperation

namespace Module

/-- The names that the fixed part of a module reads. -/
def fixedNames (baseUrl : Option String) : List String :=
  (clientConfigSource baseUrl).free ++ configureSource.free ++ runtimeSource.free

theorem fixedNames_eq (baseUrl : Option String) : fixedNames baseUrl =
    ["undefined", "clientConfig", "undefined", "clientConfig", "clientConfig", "Error",
      "Error"] := rfl

section Kept

variable {op : CompiledOperation}

/-- Of the names that the fixed part reads, one is left to functions. -/
theorem camel_mem_fixedNames_iff (named : op.Named) (available : isUnavailable op.camel = false)
    (baseUrl : Option String) : op.camel ∈ fixedNames baseUrl ↔ op.camel = "undefined" := by
  have others : op.camel ∉ ["clientConfig", "Error"] :=
    camel_not_mem named available _ (by decide)
  rw [fixedNames_eq]
  constructor
  · grind
  · grind

/-- A function is read by a client function as one of its schemas only. -/
theorem camel_mem_free_iff (named : op.Named) (available : isUnavailable op.camel = false)
    {other : CompiledOperation} (otherNamed : other.Named) :
    op.camel ∈ other.source.free ↔ op.camel = op.pascal ∧
      (op.pascal = other.inputSchemaName ∨ op.pascal = other.resultSchemaName) := by
  have guarded : op.camel ∉ CompiledOperation.globals :=
    camel_not_mem named available _ (by decide)
  rw [CompiledOperation.source, Source.free_single]
  constructor
  · intro free
    have schema : op.camel = other.inputSchemaName ∨ op.camel = other.resultSchemaName := by
      rcases other.free_code _ free with input | result | global
      · exact .inl input
      · exact .inr result
      · exact absurd global guarded
    have uncased := camel_eq_pascal_of_schema named otherNamed schema
    exact ⟨uncased, uncased ▸ schema⟩
  · rintro ⟨uncased, input | result⟩
    · rw [uncased, input]
      exact other.schemaNames_free.1
    · rw [uncased, result]
      exact other.schemaNames_free.2

/-- A validator without references reads no function. -/
theorem camel_not_mem_validator (named : op.Named) (available : isUnavailable op.camel = false)
    (schema : Schema) (hint : String) (closed : schema.targets = []) :
    op.camel ∉ (schema.compile hint).result.validator.code.free := by
  have none : (schema.compile hint).result.validator.references = [] := by
    refine List.eq_nil_iff_forall_not_mem.mpr fun name listed => ?_
    obtain ⟨target, inSchema, -⟩ :=
      Schema.references_compile schema hint name (List.mem_append_left _ listed)
    rw [closed] at inSchema
    cases inSchema
  have guarded : op.camel ∉ Validator.globals := camel_not_mem named available _ (by decide)
  intro free
  have read := Validator.readsOnly_code (schema.compile hint).result.validator free
  rw [none, List.map_nil, List.append_nil] at read
  exact guarded read

end Kept

/-- What a function of a module takes away from the code of the module: from the fixed part only the
global name of absent values, from client functions only a schema that is called like it, which
needs a name that starts with a character without a lower case, and from validators without
references nothing. -/
theorem function_captures_iff (ops : List Operation) (baseUrl : Option String) :
    ∀ op ∈ kept ops,
      (op.camel ∈ (clientConfigSource baseUrl).free ++ configureSource.free ++ runtimeSource.free ↔
        op.camel = "undefined") ∧
      (∀ other : Operation, op.camel ∈ other.compile.result.source.free ↔
        op.camel = op.pascal ∧ (op.pascal = other.compile.result.inputSchemaName ∨
          op.pascal = other.compile.result.resultSchemaName)) ∧
      ∀ (schema : Schema) (hint : String), schema.targets = [] →
        op.camel ∉ (schema.compile hint).result.validator.code.free := by
  intro op listed
  obtain ⟨distinct, among⟩ := kept_distinct ops
  have named := Operation.named_compileAll ops op (among op listed)
  have available := distinct.available op listed
  exact ⟨camel_mem_fixedNames_iff named available baseUrl,
    fun other => camel_mem_free_iff named available ⟨other.name, rfl, rfl⟩,
    camel_not_mem_validator named available⟩

/-- An operation that is called like the global name of absent values. -/
def undefinedOperation : Operation where
  name := "undefined"
  path := "/undefined"
  verb := .get
  input := .unknown
  output := .unknown

/-- The module keeps it, and then `configure` reads its function. -/
theorem function_captures_iff_undefined :
    undefinedOperation.compile.result ∈ kept [undefinedOperation] ∧
      undefinedOperation.compile.result.camel ∈
        (clientConfigSource none).free ++ configureSource.free ++ runtimeSource.free ∧
      undefinedOperation.compile.result.camel ∉ undefinedOperation.compile.result.source.free ∧
      Schema.unknown.targets = [] ∧ undefinedOperation.compile.result.camel ∉
        (Schema.unknown.compile "").result.validator.code.free := by
  have listed : undefinedOperation.compile.result ∈ kept [undefinedOperation] := by
    have alone : kept [undefinedOperation] = [undefinedOperation.compile.result] := rfl
    rw [alone]
    exact List.mem_singleton_self _
  obtain ⟨fixed, own, validators⟩ :=
    function_captures_iff [undefinedOperation] none undefinedOperation.compile.result listed
  refine ⟨listed, fixed.mpr (by decide +kernel), ?_, rfl, validators _ "" rfl⟩
  rw [own undefinedOperation]
  decide +kernel

end Module
end ClientGen
