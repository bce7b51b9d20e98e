import ClientGen.Proofs.Module.Declarations

/-!
Which operations a module keeps. The list is walked from its end with the names taken so far, and an
operation that is dropped takes its names as well. Since the camel form of a name depends on its
Pascal form alone, this comes down to one rule: an operation is kept exactly if its function can
have its name and no later operation asks for the same one. What was kept is kept again, without
warnings.
-/
namespace ClientGen
open Text TypeScript

/-- The name of a function is the start of the schemas' names in lower case. -/
theorem CompiledOperation.Named.camel_eq {op : CompiledOperation} (named : op.Named) :
    op.camel = String.ofList (lowerFirst op.pascal.toList) := by
  obtain ⟨name, pascal, camel⟩ := named
  rw [pascal, camel, Identifier.pascal, Identifier.camel, String.toList_ofList]

namespace Module

/-- An operation is kept before later ones: its function has no name of the runtime and no reserved
word as its name, and none of them asks for the same one. -/
def Outlives (op : CompiledOperation) (later : List CompiledOperation) : Prop :=
  op.camel ∉ runtimeNames ∧ op.camel ∉ Identifier.reservedWords ∧
    ∀ other ∈ later, other.camel ≠ op.camel

instance (op : CompiledOperation) (later : List CompiledOperation) :
    Decidable (Outlives op later) :=
  inferInstanceAs (Decidable (_ ∧ _ ∧ _))

/-- The operations of a list that outlive the ones behind them. -/
def survivors : List CompiledOperation → List CompiledOperation
  | [] => []
  | op :: later => if Outlives op later then op :: survivors later else survivors later

/-- The operations of a list that do not outlive the ones behind them. -/
def outlived : List CompiledOperation → List CompiledOperation
  | [] => []
  | op :: later => if Outlives op later then outlived later else op :: outlived later

/-- The warning about an operation that is dropped. -/
def dropWarning (op : CompiledOperation) : Diagnostic :=
  if isUnavailable op.camel then .reservedName op.camel else .duplicateName op.pascal

/-- The names that operations take: those of the ones that a module could declare, also where it
does not. -/
def takenBy (later : List CompiledOperation) : TakenNames where
  pascal := (later.filter (!isUnavailable ·.camel)).map (·.pascal)
  camel := (later.filter (!isUnavailable ·.camel)).map (·.camel)

section Walk

variable {op : CompiledOperation} {later : List CompiledOperation}

theorem isUnavailable_eq_false_iff (camel : String) :
    isUnavailable camel = false ↔ camel ∉ runtimeNames ∧ camel ∉ Identifier.reservedWords := by
  simp [isUnavailable, Identifier.isReserved]

theorem mem_camel_takenBy (available : isUnavailable op.camel = false) :
    op.camel ∈ (takenBy later).camel ↔ ∃ other ∈ later, other.camel = op.camel := by
  constructor
  · intro taken
    obtain ⟨other, able, same⟩ := List.mem_map.mp taken
    exact ⟨other, (List.mem_filter.mp able).1, same⟩
  · rintro ⟨other, listed, same⟩
    have able : (!isUnavailable other.camel) = true := by rw [same, available]; rfl
    exact List.mem_map.mpr ⟨other, List.mem_filter.mpr ⟨listed, able⟩, same⟩

/-- Where the start of the schemas' names is taken, so is the name of the function. -/
theorem mem_camel_of_mem_pascal (named : op.Named) (others : ∀ other ∈ later, other.Named)
    (taken : op.pascal ∈ (takenBy later).pascal) : op.camel ∈ (takenBy later).camel := by
  obtain ⟨other, able, same⟩ := List.mem_map.mp taken
  have camel : other.camel = op.camel := by
    rw [named.camel_eq, (others other (List.mem_filter.mp able).1).camel_eq, same]
  exact List.mem_map.mpr ⟨other, able, camel⟩

/-- One step of the walk, with the names of all later operations taken. -/
theorem keep_takenBy (named : op.Named) (others : ∀ other ∈ later, other.Named) :
    keep (takenBy later) op = (takenBy (op :: later),
      if Outlives op later then ⟨true, []⟩ else ⟨false, [dropWarning op]⟩) := by
  unfold keep
  split
  next unavailable =>
    have dropped : ¬Outlives op later := by
      rintro ⟨runtime, reserved, -⟩
      rw [(isUnavailable_eq_false_iff op.camel).mpr ⟨runtime, reserved⟩] at unavailable
      cases unavailable
    have same : takenBy (op :: later) = takenBy later := by simp [takenBy, unavailable]
    rw [if_neg dropped, dropWarning, if_pos unavailable, same]
  next able =>
    have available := Bool.eq_false_iff.mpr able
    have grown : takenBy (op :: later) =
        ⟨op.pascal :: (takenBy later).pascal, op.camel :: (takenBy later).camel⟩ := by
      simp [takenBy, available]
    -- The Pascal forms add nothing: who shares a Pascal form shares the camel form.
    have clashes : ((takenBy later).pascal.contains op.pascal ||
        (takenBy later).camel.contains op.camel) = true ↔ ¬Outlives op later := by
      have free := (isUnavailable_eq_false_iff op.camel).mp available
      have alone : Outlives op later ↔ ¬∃ other ∈ later, other.camel = op.camel := by
        simp [Outlives, free]
      rw [Bool.or_eq_true, List.contains_iff_mem, List.contains_iff_mem, alone, not_not,
        ← mem_camel_takenBy available]
      exact or_iff_right_of_imp (mem_camel_of_mem_pascal named others)
    rw [grown]
    by_cases kept : Outlives op later
    · rw [if_neg (mt clashes.mp (not_not.mpr kept)), if_pos kept]
    · rw [if_pos (clashes.mpr kept), if_neg kept, dropWarning, if_neg able]

/-- The walk keeps the survivors and warns of the others, whatever comes behind its start. -/
theorem keepBackward_takenBy (backward later : List CompiledOperation)
    (named : ∀ op ∈ backward ++ later, op.Named) :
    (keepBackward (takenBy later) backward).result.reverse ++ survivors later =
        survivors (backward.reverse ++ later) ∧
      (keepBackward (takenBy later) backward).diagnostics.reverse ++
          (outlived later).map dropWarning =
        (outlived (backward.reverse ++ later)).map dropWarning := by
  induction backward generalizing later with
  | nil => exact ⟨rfl, rfl⟩
  | cons op rest ih =>
    -- The walk goes on with this operation among the later ones, whether it is kept or not.
    obtain ⟨first, others⟩ := List.forall_mem_cons.mp named
    have behind : ∀ other ∈ later, other.Named :=
      fun other listed => others other (List.mem_append_right rest listed)
    have moved : ∀ other ∈ rest ++ op :: later, other.Named := by
      intro other listed
      exact named other (List.perm_middle.mem_iff.mp listed)
    obtain ⟨results, warnings⟩ := ih (op :: later) moved
    rw [List.reverse_cons, List.append_assoc, List.singleton_append, ← results, ← warnings,
      keepBackward, keep_takenBy first behind]
    by_cases kept : Outlives op later
    · simp [kept, survivors, outlived]
    · simp [kept, survivors, outlived]

/-- The operations that a module declares are the survivors, and every other one is warned of. -/
theorem declared_eq (ops : List CompiledOperation) (named : ∀ op ∈ ops, op.Named) :
    declared ops = ⟨survivors ops, ((outlived ops).map dropWarning).reverse⟩ := by
  obtain ⟨results, warnings⟩ := keepBackward_takenBy ops.reverse [] (by simpa using named)
  have start : takenBy [] = ⟨[], []⟩ := rfl
  rw [start, survivors, List.append_nil, List.reverse_reverse, List.append_nil] at results
  rw [start, outlived, List.map_nil, List.append_nil, List.reverse_reverse, List.append_nil]
    at warnings
  have parts : declared ops = ⟨(declared ops).result, (declared ops).diagnostics⟩ := rfl
  rw [parts, declared, Traced.map_result, Traced.map_diagnostics, results, ← warnings,
    List.reverse_reverse]

end Walk

section Lists

private theorem survivors_sublist (ops : List CompiledOperation) : (survivors ops).Sublist ops := by
  induction ops with
  | nil => exact .slnil
  | cons op later ih =>
    rw [survivors]
    split
    · exact ih.cons_cons op
    · exact ih.cons op

/-- Every operation either outlives the ones behind it or does not. -/
theorem survivors_append_outlived (ops : List CompiledOperation) :
    (survivors ops ++ outlived ops).Perm ops := by
  induction ops with
  | nil => exact .nil
  | cons op later ih =>
    rw [survivors, outlived]
    split
    · exact ih.cons op
    · exact List.perm_middle.trans (ih.cons op)

theorem Outlives.of_subset {op : CompiledOperation} {later fewer : List CompiledOperation}
    (outlives : Outlives op later) (among : fewer ⊆ later) : Outlives op fewer := by
  obtain ⟨runtime, reserved, alone⟩ := outlives
  exact ⟨runtime, reserved, fun other listed => alone other (among listed)⟩

/-- Among survivors alone, nobody is dropped. -/
theorem survivors_survivors (ops : List CompiledOperation) :
    survivors (survivors ops) = survivors ops ∧ outlived (survivors ops) = [] := by
  induction ops with
  | nil => exact ⟨rfl, rfl⟩
  | cons op later ih =>
    by_cases kept : Outlives op later
    · have again : Outlives op (survivors later) := kept.of_subset (survivors_sublist later).subset
      have head : survivors (op :: later) = op :: survivors later := if_pos kept
      rw [head, survivors, outlived, if_pos again, if_pos again, ih.1]
      exact ⟨rfl, ih.2⟩
    · have tail : survivors (op :: later) = survivors later := if_neg kept
      rw [tail]
      exact ih

/-- No two survivors have functions of one name. -/
theorem nodup_camel_survivors (ops : List CompiledOperation) :
    ((survivors ops).map (·.camel)).Nodup := by
  induction ops with
  | nil => exact .nil
  | cons op later ih =>
    rw [survivors]
    split
    next kept =>
      refine List.nodup_cons.mpr ⟨?_, ih⟩
      intro listed
      obtain ⟨other, survives, same⟩ := List.mem_map.mp listed
      exact kept.2.2 other ((survivors_sublist later).subset survives) same
    next => exact ih

/-- No two survivors have schemas of one name. -/
theorem nodup_pascal_survivors (ops : List CompiledOperation) (named : ∀ op ∈ ops, op.Named) :
    ((survivors ops).map (·.pascal)).Nodup := by
  have camel : (survivors ops).map (·.camel) = ((survivors ops).map (·.pascal)).map
      fun pascal => String.ofList (lowerFirst pascal.toList) := by
    rw [List.map_map]
    exact List.map_congr_left fun op listed =>
      (named op ((survivors_sublist ops).subset listed)).camel_eq
  have distinct := nodup_camel_survivors ops
  rw [camel] at distinct
  exact distinct.of_map _

end Lists

theorem isWarning_dropWarning (op : CompiledOperation) : (dropWarning op).isWarning = true := by
  rw [dropWarning]
  split <;> rfl

/-- Emission in one line: the module of the survivors, a warning for each other operation from the
last one to the first, and the report of the module. -/
theorem emit_eq (ops : List CompiledOperation) (named : ∀ op ∈ ops, op.Named)
    (baseUrl : Option String) (seconds : Int) :
    emit ops baseUrl seconds = ⟨text (survivors ops) baseUrl seconds,
      ((outlived ops).map dropWarning).reverse ++ [.emittedModule (survivors ops).length
        (text (survivors ops) baseUrl seconds).utf8ByteSize]⟩ := by
  rw [emit, declared_eq ops named]
  rfl

private theorem warnings_emit (ops : List CompiledOperation) (named : ∀ op ∈ ops, op.Named)
    (baseUrl : Option String) (seconds : Int) :
    (emit ops baseUrl seconds).diagnostics.filter (·.isWarning) =
      ((outlived ops).map dropWarning).reverse := by
  have drops : ∀ d ∈ ((outlived ops).map dropWarning).reverse, d.isWarning = true := by
    intro d listed
    obtain ⟨op, -, rfl⟩ := List.mem_map.mp (List.mem_reverse.mp listed)
    exact isWarning_dropWarning op
  rw [emit_eq ops named, List.filter_append, List.filter_eq_self.mpr drops]
  exact List.append_nil _

/-- The module of any operations holds the ones that outlive those behind them. Its text is the text
of items, by which it declares two schemas and one function for each of them, lists the schemas in
one collection and the functions in the default export, all in the order of the operations, and
declares nothing else but the fixed part; no two operations have a name in common. Each of the
others is warned of once. The module of what was kept is the same one, without a warning. -/
theorem last_of_each_name_kept (ops : List Operation) (baseUrl : Option String) (seconds : Int) :
    let compiled := ops.map (·.compile.result)
    let kept := survivors compiled
    let schemas := kept.flatMap fun op => [op.inputSchemaName, op.resultSchemaName]
    (emit compiled baseUrl seconds).result.toList =
        banner.toList ++ (stampLine seconds).toList ++ blocksChars (blocks kept baseUrl) ∧
      (items kept baseUrl).filterMap Item.constant? = schemas ∧
      (items kept baseUrl).filterMap Item.function? =
        "configure" :: "resolveHeaders" :: kept.map (·.camel) ∧
      (items kept baseUrl).filterMap Item.collection? = [("schemas", schemas)] ∧
      (items kept baseUrl).filterMap Item.exports? =
        ["configure" :: "schemas" :: kept.map (·.camel)] ∧
      ((items kept baseUrl).filterMap Item.value?).Perm (valueNames kept) ∧
      ((items kept baseUrl).filterMap Item.type?).Perm (typeNames kept) ∧
      (kept.map (·.camel)).Nodup ∧ (kept.map (·.pascal)).Nodup ∧
      (kept ++ outlived compiled).Perm compiled ∧
      ((emit compiled baseUrl seconds).diagnostics.filter (·.isWarning)).Perm
        ((outlived compiled).map dropWarning) ∧
      (emit kept baseUrl seconds).result = (emit compiled baseUrl seconds).result ∧
      (emit kept baseUrl seconds).diagnostics.filter (·.isWarning) = [] := by
  intro compiled kept schemas
  have named : ∀ op ∈ compiled, op.Named :=
    List.forall_mem_map.mpr fun source _ => ⟨source.name, rfl, rfl⟩
  have keptNamed : ∀ op ∈ kept, op.Named :=
    fun op survives => named op ((survivors_sublist compiled).subset survives)
  obtain ⟨sameKept, noneLost⟩ := survivors_survivors compiled
  refine ⟨?_, constants_items kept baseUrl, functions_items kept baseUrl,
    collections_items kept baseUrl, exports_items kept baseUrl, values_items kept baseUrl,
    types_items kept baseUrl, nodup_camel_survivors compiled,
    nodup_pascal_survivors compiled named, survivors_append_outlived compiled, ?_, ?_, ?_⟩
  · rw [emit_eq compiled named, text, String.toList_append, String.toList_append, chars_blocks]
  · rw [warnings_emit compiled named]
    exact List.reverse_perm _
  · rw [emit_eq compiled named, emit_eq kept keptNamed, sameKept]
  · rw [warnings_emit kept keptNamed, noneLost]
    rfl

end Module
end ClientGen
