import ClientGen.Proofs.Module.References
import ClientGen.Proofs.TypeScript.Spelling

/-!
Which names of a module are identifiers. A name in a payload only has to be there: it may hold any
characters, and of those only the separators are taken out. So the names of an operation are
identifiers exactly when its letters spell one.
-/
namespace ClientGen
open TypeScript Identifier

/-- No reserved name has a capital letter. -/
theorem not_reserved_of_capital {name : String} (capital : name.toList.any Char.isUpper = true) :
    name ∉ reservedNames := by
  have plain : ∀ word ∈ reservedNames, word.toList.any Char.isUpper = false := by decide +kernel
  intro reserved
  rw [plain name reserved] at capital
  cases capital

/-- A Pascal form with a capital name behind it. -/
theorem isIdentifier_suffixed (name : List Char) (suffix : String)
    (isName : isIdentifierName suffix.toList = true)
    (capital : suffix.toList.any Char.isUpper = true) :
    IsIdentifier (String.ofList (pascalChars name) ++ suffix) ↔ Spells name := by
  have free : String.ofList (pascalChars name) ++ suffix ∉ reservedNames := by
    apply not_reserved_of_capital
    rw [String.toList_append, List.any_append, capital, Bool.or_true]
  rw [IsIdentifier, and_iff_left free, String.toList_append, String.toList_ofList]
  exact isIdentifierName_pascalChars name isName

/-- The name of the validator of a referenced schema. -/
theorem isIdentifier_validatorName (target : String) :
    IsIdentifier (validatorName (Schema.referenceName target)) ↔
      Spells (Schema.lastSegment target.toList) := by
  unfold Schema.referenceName
  split
  next missing =>
    have spells : Spells [] := ⟨List.forall_mem_nil _, fun _ head => nomatch head⟩
    have isName : IsIdentifier (validatorName "Ref") := by decide
    rw [missing]
    exact iff_of_true isName spells
  next segment =>
    exact isIdentifier_suffixed _ "Schema" (by decide) (by decide)

namespace Module

/-- The name of a function that a module can declare. -/
theorem isIdentifier_camel (name : String) (available : isUnavailable (camel name) = false) :
    IsIdentifier (camel name) ↔ letters name.toList ≠ [] ∧ Spells name.toList := by
  have covered : ∀ word ∈ reservedNames, isUnavailable word = true := by decide +kernel
  have free : camel name ∉ reservedNames := by
    intro reserved
    rw [covered _ reserved] at available
    cases available
  rw [IsIdentifier, and_iff_left free, camel, String.toList_ofList]
  exact isIdentifierName_camelChars name.toList

/-- The names that a module takes from an operation are identifiers exactly when the letters of the
operation's name spell one, and for the function's name there has to be a letter; the validators it
refers to have identifiers as names exactly when the last segments of the references spell one. -/
theorem kept_identifiers_iff (ops : List Operation) :
    ∀ op ∈ kept ops, ∃ source ∈ ops, op = source.compile.result ∧
      (IsIdentifier op.camel ↔ letters source.name.toList ≠ [] ∧ Spells source.name.toList) ∧
      (∀ name ∈ [op.inputSchemaName, op.inputTypeName, op.resultSchemaName, op.resultTypeName],
        IsIdentifier name ↔ Spells source.name.toList) ∧
      ∀ name ∈ op.input.references ++ op.output.references,
        ∃ target ∈ source.input.targets ++ source.output.targets,
          name = Schema.referenceName target ∧
            (IsIdentifier (validatorName name) ↔ Spells (Schema.lastSegment target.toList)) := by
  intro op listed
  obtain ⟨distinct, among⟩ := kept_distinct ops
  have available := distinct.available op listed
  have compiled := among op listed
  rw [Operation.compileAll_result] at compiled
  obtain ⟨source, inOps, rfl⟩ := List.mem_map.mp compiled
  refine ⟨source, inOps, rfl, isIdentifier_camel source.name available, ?_, ?_⟩
  · have suffixed := isIdentifier_suffixed source.name.toList
    simp only [List.forall_mem_cons]
    exact ⟨suffixed _ (by decide) (by decide), suffixed _ (by decide) (by decide),
      suffixed _ (by decide) (by decide), suffixed _ (by decide) (by decide),
      List.forall_mem_nil _⟩
  · intro name member
    obtain ⟨target, inSchemas, rfl⟩ := source.references_compile name member
    exact ⟨target, inSchemas, rfl, isIdentifier_validatorName target⟩

/-- An operation whose name is a separator only. -/
def dash : Operation := ⟨"-", "/dash", .get, .unknown, .unknown⟩

/-- Its function is declared without a name, although its schemas have proper ones. -/
theorem kept_identifiers_iff_dash :
    dash.compile.result ∈ kept [dash] ∧ ¬IsIdentifier dash.compile.result.camel ∧
      IsIdentifier dash.compile.result.inputSchemaName := by
  have listed : dash.compile.result ∈ kept [dash] := by
    have alone : kept [dash] = [dash.compile.result] := rfl
    rw [alone]
    exact List.mem_singleton_self _
  obtain ⟨source, inOps, -, function, names, -⟩ :=
    kept_identifiers_iff [dash] dash.compile.result listed
  obtain rfl := List.mem_singleton.mp inOps
  have unspelled : letters dash.name.toList = [] := by decide
  have spells : Spells dash.name.toList := by
    rw [Spells, unspelled]
    simp
  refine ⟨listed, ?_, (names _ List.mem_cons_self).mpr spells⟩
  intro named
  exact (function.mp named).1 unspelled

/-- A name with a space in it gives a function with a broken name. -/
example : ∀ op ∈ kept [⟨"list users", "/users", .get, .unknown, .unknown⟩],
    ¬IsIdentifier op.camel := by
  decide +kernel

end Module

end ClientGen
