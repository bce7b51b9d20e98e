import Mathlib.Data.List.Nodup
import ClientGen.Module.Emit
import ClientGen.Proofs.Identifier

/-!
Names that a module declares at its top level. Operations are kept so that no two share a Pascal or
a camel form, and no function takes a name of the runtime. Types and the keys of the default export
are then told apart by their spelling alone; a constant and a function can still meet where a Pascal
form starts with a character that has no lower case.

The lists of names are put together here from the operations; `values_items` and `types_items` read
the same names off the text of a module.
-/
namespace ClientGen
open Text

/-- An operation whose names are the two forms of one name. -/
def CompiledOperation.Named (op : CompiledOperation) : Prop :=
  ∃ name, op.pascal = Identifier.pascal name ∧ op.camel = Identifier.camel name

theorem Operation.compileAll_result (ops : List Operation) :
    (compileAll ops).result = ops.map (·.compile.result) := by
  induction ops with
  | nil => rfl
  | cons first rest ih => exact congrArg (first.compile.result :: ·) ih

theorem Operation.named_compileAll (ops : List Operation) :
    ∀ op ∈ (compileAll ops).result, op.Named := by
  rw [compileAll_result, List.forall_mem_map]
  exact fun source _ => ⟨source.name, rfl, rfl⟩

namespace Module

/-- The operations that the module of some operations declares. -/
def kept (ops : List Operation) : List CompiledOperation :=
  (declared (Operation.compileAll ops).result).result

theorem render_result (ops : List Operation) (baseUrl : Option String) (seconds : Int) :
    (render ops baseUrl seconds).result = text (kept ops) baseUrl seconds := rfl

/-- Operations that a module can declare next to each other. -/
structure Distinct (ops : List CompiledOperation) : Prop where
  pascal : (ops.map (·.pascal)).Nodup
  camel : (ops.map (·.camel)).Nodup
  available : ∀ op ∈ ops, isUnavailable op.camel = false

/-- What is known of an operation that is kept. -/
theorem keep_kept (isKept : (keep taken op).2.result = true) :
    isUnavailable op.camel = false ∧ op.pascal ∉ taken.pascal ∧ op.camel ∉ taken.camel ∧
      (keep taken op).1 = ⟨op.pascal :: taken.pascal, op.camel :: taken.camel⟩ := by
  unfold keep at isKept ⊢
  split at isKept
  next => cases isKept
  next available =>
    split at isKept
    next => cases isKept
    next fresh =>
      rw [if_neg available, if_neg fresh]
      rw [Bool.or_eq_true, List.contains_iff_mem, List.contains_iff_mem, not_or] at fresh
      exact ⟨Bool.eq_false_iff.mpr available, fresh.1, fresh.2, rfl⟩

/-- Names once taken stay taken. -/
theorem taken_keep (taken : TakenNames) (op : CompiledOperation) :
    taken.pascal ⊆ (keep taken op).1.pascal ∧ taken.camel ⊆ (keep taken op).1.camel := by
  unfold keep
  split
  · exact ⟨List.Subset.refl _, List.Subset.refl _⟩
  · split
    · exact ⟨List.subset_cons_self _ _, List.subset_cons_self _ _⟩
    · exact ⟨List.subset_cons_self _ _, List.subset_cons_self _ _⟩

theorem keepBackward_cons (taken : TakenNames) (op : CompiledOperation)
    (rest : List CompiledOperation) :
    (keepBackward taken (op :: rest)).result =
      if (keep taken op).2.result then op :: (keepBackward (keep taken op).1 rest).result
      else (keepBackward (keep taken op).1 rest).result := by
  simp only [keepBackward, Traced.bind_result]
  split <;> rfl

/-- The operations kept are distinct and clash with none that came before. -/
theorem keepBackward_distinct (taken : TakenNames) (ops : List CompiledOperation) :
    Distinct (keepBackward taken ops).result ∧ ∀ op ∈ (keepBackward taken ops).result,
      op ∈ ops ∧ op.pascal ∉ taken.pascal ∧ op.camel ∉ taken.camel := by
  induction ops generalizing taken with
  | nil => exact ⟨⟨.nil, .nil, fun op member => nomatch member⟩, fun op member => nomatch member⟩
  | cons op rest ih =>
    obtain ⟨distinct, fresh⟩ := ih (keep taken op).1
    obtain ⟨pascalGrows, camelGrows⟩ := taken_keep taken op
    have others : ∀ other ∈ (keepBackward (keep taken op).1 rest).result,
        other ∈ op :: rest ∧ other.pascal ∉ taken.pascal ∧ other.camel ∉ taken.camel := by
      intro other member
      obtain ⟨listed, pascal, camel⟩ := fresh other member
      exact ⟨List.mem_cons_of_mem _ listed, mt (pascalGrows ·) pascal, mt (camelGrows ·) camel⟩
    rw [keepBackward_cons]
    split
    next isKept =>
      obtain ⟨available, pascal, camel, grown⟩ := keep_kept isKept
      rw [grown] at fresh distinct others ⊢
      have pascalApart : op.pascal ∉ (keepBackward ⟨op.pascal :: taken.pascal,
          op.camel :: taken.camel⟩ rest).result.map (·.pascal) := by
        intro member
        obtain ⟨other, listed, same⟩ := List.mem_map.mp member
        exact (fresh other listed).2.1 (same ▸ List.mem_cons_self)
      have camelApart : op.camel ∉ (keepBackward ⟨op.pascal :: taken.pascal,
          op.camel :: taken.camel⟩ rest).result.map (·.camel) := by
        intro member
        obtain ⟨other, listed, same⟩ := List.mem_map.mp member
        exact (fresh other listed).2.2 (same ▸ List.mem_cons_self)
      refine ⟨⟨List.nodup_cons.mpr ⟨pascalApart, distinct.pascal⟩,
        List.nodup_cons.mpr ⟨camelApart, distinct.camel⟩, ?_⟩, ?_⟩
      · exact List.forall_mem_cons.mpr ⟨available, distinct.available⟩
      · exact List.forall_mem_cons.mpr ⟨⟨List.mem_cons_self, pascal, camel⟩, others⟩
    next dropped => exact ⟨distinct, others⟩

/-- A module declares distinct operations, all of them among the ones it is made from. -/
theorem kept_distinct (ops : List Operation) :
    Distinct (kept ops) ∧ ∀ op ∈ kept ops, op ∈ (Operation.compileAll ops).result := by
  obtain ⟨distinct, among⟩ := keepBackward_distinct ⟨[], []⟩ (Operation.compileAll ops).result.reverse
  refine ⟨⟨?_, ?_, ?_⟩, ?_⟩
  · rw [kept, declared, Traced.map_result, List.map_reverse, List.nodup_reverse]
    exact distinct.pascal
  · rw [kept, declared, Traced.map_result, List.map_reverse, List.nodup_reverse]
    exact distinct.camel
  · intro op member
    exact distinct.available op (List.mem_reverse.mp member)
  · intro op member
    exact List.mem_reverse.mp (among op (List.mem_reverse.mp member)).1

/-- Values of the fixed part of a module. -/
def runtimeValues : List String := ["z", "clientConfig", "configure", "HttpError",
  "ResponseValidationError", "resolveHeaders", "schemas"]

/-- Types of the fixed part of a module. -/
def runtimeTypes : List String :=
  ["HeaderProvider", "ClientConfig", "HttpError", "ResponseValidationError"]

/-- The schemas that a module declares. -/
def schemaNames (ops : List CompiledOperation) : List String :=
  ops.flatMap fun op => [op.inputSchemaName, op.resultSchemaName]

/-- The names that a module declares as values. -/
def valueNames (ops : List CompiledOperation) : List String :=
  runtimeValues ++ (schemaNames ops ++ ops.map (·.camel))

/-- The names that a module declares as types. -/
def typeNames (ops : List CompiledOperation) : List String :=
  runtimeTypes ++ ops.flatMap fun op => [op.inputTypeName, op.resultTypeName]

/-- The keys of the default export of a module. -/
def exportKeys (ops : List CompiledOperation) : List String :=
  ["configure", "schemas"] ++ ops.map (·.camel)

theorem last_append (p : String) (last : suffix.toList.getLast? = some c) :
    (p ++ suffix).toList.getLast? = some c := by
  rw [String.toList_append, List.getLast?_append, last]
  rfl

/-- Names that end in different letters differ. -/
theorem append_ne_of_last (p q : String) (lastOne : one.toList.getLast? = some c)
    (lastTwo : two.toList.getLast? = some d) (apart : c ≠ d) : p ++ one ≠ q ++ two := by
  intro same
  have last := last_append p lastOne
  rw [same, last_append q lastTwo] at last
  exact apart (Option.some.inj last).symm

theorem append_suffix_injective {p q suffix : String} (same : p ++ suffix = q ++ suffix) :
    p = q := by
  rw [← String.toList_inj, String.toList_append, String.toList_append] at same
  exact String.toList_inj.mp (List.append_cancel_right same)

/-- Two kinds of names that end in different ways are distinct over distinct operations. -/
theorem nodup_suffixed (one two : String) (ends : ∀ p q : String, p ++ one ≠ q ++ two)
    (ops : List CompiledOperation) (distinct : (ops.map (·.pascal)).Nodup) :
    (ops.flatMap fun op => [op.pascal ++ one, op.pascal ++ two]).Nodup := by
  induction ops with
  | nil => exact .nil
  | cons op rest ih =>
    obtain ⟨fresh, others⟩ := List.nodup_cons.mp distinct
    have apart : ∀ other ∈ rest, op.pascal ≠ other.pascal := by
      intro other member same
      exact fresh (List.mem_map.mpr ⟨other, member, same.symm⟩)
    have freshOne : op.pascal ++ one ∉
        rest.flatMap fun op => [op.pascal ++ one, op.pascal ++ two] := by
      intro member
      obtain ⟨other, listed, named⟩ := List.mem_flatMap.mp member
      rcases List.mem_pair.mp named with same | same
      · exact apart other listed (append_suffix_injective same)
      · exact ends _ _ same
    have freshTwo : op.pascal ++ two ∉
        rest.flatMap fun op => [op.pascal ++ one, op.pascal ++ two] := by
      intro member
      obtain ⟨other, listed, named⟩ := List.mem_flatMap.mp member
      rcases List.mem_pair.mp named with same | same
      · exact ends _ _ same.symm
      · exact apart other listed (append_suffix_injective same)
    rw [List.flatMap_cons, List.cons_append, List.singleton_append, List.nodup_cons,
      List.nodup_cons, List.mem_cons, not_or]
    exact ⟨⟨ends _ _, freshOne⟩, freshTwo, ih others⟩

private theorem type_suffixes (p q : String) : p ++ "Args" ≠ q ++ "Result" := by
  have lastArgs : "Args".toList.getLast? = some 's' := by decide
  have lastResult : "Result".toList.getLast? = some 't' := by decide
  exact append_ne_of_last p q lastArgs lastResult (by decide)

private theorem schema_suffixes (p q : String) : p ++ "ArgsSchema" ≠ q ++ "ResultSchema" := by
  intro same
  have stems : p ++ "Args" ++ "Schema" = q ++ "Result" ++ "Schema" := by
    rw [String.append_assoc, String.append_assoc]
    exact same
  exact type_suffixes p q (append_suffix_injective stems)

private theorem nodup_typeNames (distinct : Distinct ops) : (typeNames ops).Nodup := by
  refine List.nodup_append.mpr
    ⟨by decide, nodup_suffixed "Args" "Result" type_suffixes ops distinct.pascal, ?_⟩
  intro name fixed other member same
  obtain ⟨op, listed, named⟩ := List.mem_flatMap.mp member
  have last : other.toList.getLast? = some 's' ∨ other.toList.getLast? = some 't' := by
    rcases List.mem_pair.mp named with rfl | rfl
    · exact .inl (last_append op.pascal (by decide))
    · exact .inr (last_append op.pascal (by decide))
  have runtimeLast : ∀ name ∈ runtimeTypes, ¬(name.toList.getLast? = some 's' ∨
      name.toList.getLast? = some 't') := by
    decide
  exact runtimeLast name fixed (same ▸ last)

private theorem nodup_exportKeys (distinct : Distinct ops) : (exportKeys ops).Nodup := by
  refine List.nodup_append.mpr ⟨by decide, distinct.camel, ?_⟩
  intro name fixed other member same
  obtain ⟨op, listed, rfl⟩ := List.mem_map.mp member
  have reserved : ∀ name ∈ ["configure", "schemas"], isUnavailable name = true := by decide
  have available := distinct.available op listed
  rw [← same, reserved name fixed] at available
  cases available

private theorem nodup_schemaNames (distinct : Distinct ops) : (schemaNames ops).Nodup :=
  nodup_suffixed "ArgsSchema" "ResultSchema" schema_suffixes ops distinct.pascal

private theorem last_of_mem_schemaNames (member : name ∈ schemaNames ops) :
    name.toList.getLast? = some 'a' := by
  obtain ⟨op, listed, named⟩ := List.mem_flatMap.mp member
  rcases List.mem_pair.mp named with rfl | rfl
  · exact last_append op.pascal (by decide)
  · exact last_append op.pascal (by decide)

/-- A function that a module can declare has no name that is refused and none with a capital. -/
theorem camel_ne {op : CompiledOperation} (named : op.Named)
    (available : isUnavailable op.camel = false)
    (guarded : isUnavailable name = true ∨ name.toList.head?.any Char.isUpper = true) :
    op.camel ≠ name := by
  rintro rfl
  rcases guarded with unavailable | capital
  · rw [available] at unavailable
    cases unavailable
  · obtain ⟨name, -, camel⟩ := named
    rw [camel, Identifier.camel_not_capital] at capital
    cases capital

theorem camel_not_mem {op : CompiledOperation} (named : op.Named)
    (available : isUnavailable op.camel = false) (names : List String)
    (guarded : ∀ name ∈ names,
      isUnavailable name = true ∨ name.toList.head?.any Char.isUpper = true) :
    op.camel ∉ names :=
  fun listed => camel_ne named available (guarded _ listed) rfl

/-- A function never has the name of a value of the fixed part. -/
theorem camel_not_runtime {op : CompiledOperation} (named : op.Named)
    (available : isUnavailable op.camel = false) : op.camel ∉ runtimeValues :=
  camel_not_mem named available _ (by decide)

/-- A function has the name of a schema only if it is written as its own Pascal form. -/
theorem camel_eq_pascal_of_schema {op other : CompiledOperation} (named : op.Named)
    (otherNamed : other.Named)
    (meets : op.camel = other.inputSchemaName ∨ op.camel = other.resultSchemaName) :
    op.camel = op.pascal := by
  obtain ⟨name, pascal, camel⟩ := named
  obtain ⟨second, otherPascal, -⟩ := otherNamed
  rw [CompiledOperation.inputSchemaName, CompiledOperation.resultSchemaName, camel, otherPascal]
    at meets
  rw [pascal, camel]
  rcases meets with meets | meets
  · exact Identifier.camel_eq_pascal name second (by decide) meets
  · exact Identifier.camel_eq_pascal name second (by decide) meets

/-- The values of a module are told apart, but for functions that meet a schema. -/
theorem nodup_valueNames_iff (distinct : Distinct ops) (named : ∀ op ∈ ops, op.Named) :
    (valueNames ops).Nodup ↔
      ∀ op ∈ ops, ∀ other ∈ ops, other.camel = other.pascal →
        other.pascal ≠ op.inputSchemaName ∧ other.pascal ≠ op.resultSchemaName := by
  constructor
  · intro unique op listed other otherListed uncased
    obtain ⟨-, functions, -⟩ := List.nodup_append.mp unique
    obtain ⟨-, -, apart⟩ := List.nodup_append.mp functions
    have camel : other.camel ∈ ops.map (·.camel) := List.mem_map_of_mem otherListed
    have input : op.inputSchemaName ∈ schemaNames ops :=
      List.mem_flatMap.mpr ⟨op, listed, List.mem_cons_self⟩
    have result : op.resultSchemaName ∈ schemaNames ops :=
      List.mem_flatMap.mpr ⟨op, listed, List.mem_cons_of_mem _ List.mem_cons_self⟩
    rw [← uncased]
    exact ⟨(apart _ input _ camel).symm, (apart _ result _ camel).symm⟩
  · intro apart
    have functions : (schemaNames ops ++ ops.map (·.camel)).Nodup := by
      refine List.nodup_append.mpr ⟨nodup_schemaNames distinct, distinct.camel, ?_⟩
      rintro name schema camel function rfl
      obtain ⟨other, otherListed, rfl⟩ := List.mem_map.mp function
      obtain ⟨op, listed, same⟩ := List.mem_flatMap.mp schema
      have meets := List.mem_pair.mp same
      have uncased := camel_eq_pascal_of_schema (named other otherListed) (named op listed) meets
      obtain ⟨input, result⟩ := apart op listed other otherListed uncased
      rw [uncased] at meets
      exact meets.elim input result
    refine List.nodup_append.mpr ⟨by decide, functions, ?_⟩
    rintro name fixed other member rfl
    rcases List.mem_append.mp member with schema | function
    · have runtimeLast : ∀ name ∈ runtimeValues, name.toList.getLast? ≠ some 'a' := by decide
      exact runtimeLast name fixed (last_of_mem_schemaNames schema)
    · obtain ⟨op, listed, rfl⟩ := List.mem_map.mp function
      exact camel_not_runtime (named op listed) (distinct.available op listed) fixed

/-- Types and keys of the default export are declared once. Values are declared once exactly when no
operation that has the same Pascal and camel form, since it starts with a character that has no
lower case, is called like a schema of an operation. -/
theorem names_declared_once (ops : List Operation) :
    (typeNames (kept ops)).Nodup ∧ (exportKeys (kept ops)).Nodup ∧
      ((valueNames (kept ops)).Nodup ↔
        ∀ op ∈ kept ops, ∀ other ∈ kept ops, other.camel = other.pascal →
          other.pascal ≠ op.inputSchemaName ∧ other.pascal ≠ op.resultSchemaName) := by
  obtain ⟨distinct, among⟩ := kept_distinct ops
  have named : ∀ op ∈ kept ops, op.Named := fun op listed =>
    Operation.named_compileAll ops op (among op listed)
  exact ⟨nodup_typeNames distinct, nodup_exportKeys distinct, nodup_valueNames_iff distinct named⟩

/-- The first function is declared under the name of the second operation's schema. -/
example : ¬(valueNames (kept [⟨"中ArgsSchema", "/terms", .get, .unknown, .unknown⟩,
    ⟨"中", "/terms/:id", .get, .unknown, .unknown⟩])).Nodup := by
  decide +kernel

end Module

end ClientGen
