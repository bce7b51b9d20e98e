import ClientGen.Proofs.Module.Names
import ClientGen.Proofs.Schema.References

/-!
Which references of a module resolve in it. A module imports nothing but the schema library and
declares no schemas besides those of its operations' inputs and results, so a reference resolves
exactly if it is called like one of these. What it points to in the payload makes no difference.
-/
namespace ClientGen
open TypeScript

/-- A compiled operation refers to names of references in its schemas only. -/
theorem Operation.references_compile (source : Operation) :
    ∀ name ∈ source.compile.result.input.references ++ source.compile.result.output.references,
      ∃ target ∈ source.input.targets ++ source.output.targets,
        name = Schema.referenceName target := by
  refine List.forall_mem_append.mpr ⟨?_, ?_⟩
  · intro name listed
    obtain ⟨target, inInput, same⟩ := Schema.references_compile _ _ name listed
    exact ⟨target, List.mem_append_left _ inInput, same⟩
  · intro name listed
    obtain ⟨target, inOutput, same⟩ := Schema.references_compile _ _ name listed
    exact ⟨target, List.mem_append_right _ inOutput, same⟩

namespace Module

/-- A name resolves among declared operations: its validator and its type are declared. -/
def Resolves (ops : List CompiledOperation) (name : String) : Prop :=
  validatorName name ∈ valueNames ops ∧ name ∈ typeNames ops

instance (ops : List CompiledOperation) (name : String) : Decidable (Resolves ops name) :=
  inferInstanceAs (Decidable (_ ∧ _))

variable {ops : List CompiledOperation}

theorem validatorName_eq_iff (name stem suffix : String) :
    validatorName name = stem ++ (suffix ++ "Schema") ↔ name = stem ++ suffix := by
  rw [validatorName, ← String.append_assoc]
  exact ⟨append_suffix_injective, congrArg (· ++ "Schema")⟩

/-- The validators of a module are called like its types. -/
theorem mem_schemaNames_iff (name : String) :
    validatorName name ∈ schemaNames ops ↔
      ∃ op ∈ ops, name = op.inputTypeName ∨ name = op.resultTypeName := by
  have input (op : CompiledOperation) :
      validatorName name = op.inputSchemaName ↔ name = op.inputTypeName :=
    validatorName_eq_iff name op.pascal "Args"
  have result (op : CompiledOperation) :
      validatorName name = op.resultSchemaName ↔ name = op.resultTypeName :=
    validatorName_eq_iff name op.pascal "Result"
  simp only [schemaNames, List.mem_flatMap, List.mem_pair, input, result]

/-- A type of the fixed part has no validator. -/
theorem validatorName_runtimeType (named : ∀ op ∈ ops, op.Named) (fixed : name ∈ runtimeTypes) :
    validatorName name ∉ valueNames ops := by
  have capital : ∀ name ∈ runtimeTypes,
      (validatorName name).toList.head?.any Char.isUpper = true := by
    decide
  have ends : ∀ name ∈ runtimeTypes, ¬(name.toList.getLast? = some 's' ∨
      name.toList.getLast? = some 't') := by
    decide
  have apart : ∀ name ∈ runtimeTypes, validatorName name ∉ runtimeValues := by decide
  -- No schema is called like it, for want of a suffix, and functions do not start with a capital.
  intro declared
  rcases List.mem_append.mp declared with value | declared
  · exact apart name fixed value
  rcases List.mem_append.mp declared with schema | function
  · obtain ⟨op, -, rfl | rfl⟩ := (mem_schemaNames_iff name).mp schema
    · exact ends _ fixed (.inl (last_append op.pascal (by decide)))
    · exact ends _ fixed (.inr (last_append op.pascal (by decide)))
  · obtain ⟨op, listed, same⟩ := List.mem_map.mp function
    obtain ⟨source, -, camel⟩ := named op listed
    have small := Identifier.camel_not_capital source
    rw [← camel, same, capital name fixed] at small
    cases small

/-- A name resolves if it is the name of an operation's input or result, and only then. -/
theorem resolves_iff (named : ∀ op ∈ ops, op.Named) (name : String) :
    Resolves ops name ↔ ∃ op ∈ ops, name = op.inputTypeName ∨ name = op.resultTypeName := by
  constructor
  · rintro ⟨validator, type⟩
    rcases List.mem_append.mp type with fixed | own
    · exact absurd validator (validatorName_runtimeType named fixed)
    · obtain ⟨op, listed, same⟩ := List.mem_flatMap.mp own
      exact ⟨op, listed, List.mem_pair.mp same⟩
  · intro own
    have schema := (mem_schemaNames_iff name).mpr own
    obtain ⟨op, listed, same⟩ := own
    have type : name ∈ ops.flatMap fun op => [op.inputTypeName, op.resultTypeName] :=
      List.mem_flatMap.mpr ⟨op, listed, List.mem_pair.mpr same⟩
    exact ⟨List.mem_append_right _ (List.mem_append_left _ schema), List.mem_append_right _ type⟩

/-- A module refers to names of references in the schemas of its operations, and such a name
resolves in the module exactly if it is the name of the input or of the result of an operation that
the module declares. -/
theorem kept_references_resolve_iff (ops : List Operation) :
    ∀ op ∈ kept ops, ∀ name ∈ op.input.references ++ op.output.references,
      (∃ source ∈ ops, op = source.compile.result ∧
        ∃ target ∈ source.input.targets ++ source.output.targets,
          name = Schema.referenceName target) ∧
      (Resolves (kept ops) name ↔
        ∃ other ∈ kept ops, name = other.inputTypeName ∨ name = other.resultTypeName) := by
  intro op listed name inOp
  obtain ⟨-, among⟩ := kept_distinct ops
  have named : ∀ op ∈ kept ops, op.Named := fun op listed =>
    Operation.named_compileAll ops op (among op listed)
  have compiled := among op listed
  rw [Operation.compileAll_result] at compiled
  obtain ⟨source, inOps, rfl⟩ := List.mem_map.mp compiled
  exact ⟨⟨source, inOps, rfl, Operation.references_compile source name inOp⟩,
    resolves_iff named name⟩

/-- An operation that takes a shared schema and gives back what it takes. -/
def echo : Operation where
  name := "echo"
  path := "/echo"
  verb := .post
  input := .reference "#/components/schemas/User"
  output := .reference "#/components/schemas/echo-args"

/-- The shared schema is referred to and not declared; the reference to the input resolves. -/
theorem kept_references_resolve_iff_echo :
    echo.compile.result ∈ kept [echo] ∧
      "User" ∈ echo.compile.result.input.references ∧ ¬Resolves (kept [echo]) "User" ∧
      "EchoArgs" ∈ echo.compile.result.output.references ∧ Resolves (kept [echo]) "EchoArgs" := by
  have alone : kept [echo] = [echo.compile.result] := rfl
  have listed : echo.compile.result ∈ kept [echo] := by
    rw [alone]
    exact List.mem_singleton_self _
  have resolve := kept_references_resolve_iff [echo] echo.compile.result listed
  have user : "User" ∈ echo.compile.result.input.references := by decide +kernel
  have args : "EchoArgs" ∈ echo.compile.result.output.references := by decide +kernel
  obtain ⟨-, userResolves⟩ := resolve "User" (List.mem_append_left _ user)
  obtain ⟨-, argsResolves⟩ := resolve "EchoArgs" (List.mem_append_right _ args)
  refine ⟨listed, user, ?_, args, argsResolves.mpr ⟨_, listed, .inl (by decide +kernel)⟩⟩
  intro resolved
  obtain ⟨other, inModule, called⟩ := userResolves.mp resolved
  rw [alone] at inModule
  obtain rfl := List.mem_singleton.mp inModule
  revert called
  decide +kernel

end Module

end ClientGen
