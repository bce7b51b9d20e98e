import ClientGen.Proofs.Schema.Rules

/-!
Positions of schemas. A position is named by a hint that grows on the way down, and the compiler
looks at no hint: under a name with some text in front it does the same work and reports the same
diagnostics, with the same text in front of their hints. All that it reports names a position, and
none of it is a warning.
-/
namespace ClientGen

namespace Diagnostic

/-- A diagnostic about a schema, with a text in front of the name of its position. -/
def under (front : String) : Diagnostic → Diagnostic
  | unknownShape hint => unknownShape (front ++ hint)
  | emptyEnumeration hint => emptyEnumeration (front ++ hint)
  | emptyUnion how hint => emptyUnion how (front ++ hint)
  | skippedMember hint index => skippedMember (front ++ hint) index
  | nothingToMerge hint => nothingToMerge (front ++ hint)
  | other => other

/-- The name of the position that a diagnostic is about, if it is about a schema. -/
def hint? : Diagnostic → Option String
  | unknownShape hint | emptyEnumeration hint | emptyUnion _ hint | skippedMember hint _
  | nothingToMerge hint => some hint
  | _ => none

/-- What is shown of a diagnostic: its level, its words and its fields. -/
def shown (d : Diagnostic) : Level × String × List (String × FieldValue) :=
  (d.level, d.message, d.fields)

private theorem isWarning_of_hint? {d : Diagnostic} (located : d.hint?.isSome = true) :
    d.isWarning = false := by
  cases d with
  | unknownShape _ | emptyEnumeration _ | emptyUnion _ _ | skippedMember _ _ | nothingToMerge _ =>
    rfl
  | _ => cases located

/-- The hint is the first field of a diagnostic about a schema, and all that changes with it. -/
theorem shown_under {d : Diagnostic} (located : d.hint? = some suffix) (front : String) :
    (d.under front).shown =
      (d.level, d.message, ("hint", .text (front ++ suffix)) :: d.fields.tail) := by
  cases d with
  | unknownShape _ | emptyEnumeration _ | emptyUnion _ _ | skippedMember _ _ | nothingToMerge _ =>
    cases located
    rfl
  | _ => cases located

end Diagnostic

namespace Traced

/-- A result whose diagnostics have a text in front of their positions. -/
def under (front : String) (traced : Traced α) : Traced α :=
  ⟨traced.result, traced.diagnostics.map (·.under front)⟩

variable (front : String)

@[simp] theorem under_pure (a : α) : under front (Pure.pure a) = Pure.pure a := rfl

@[simp] theorem under_bind (first : Traced α) (next : α → Traced β) :
    under front (first >>= next) = under front first >>= fun a => under front (next a) :=
  congrArg (Traced.mk _) List.map_append

@[simp] theorem under_map (f : α → β) (first : Traced α) :
    under front (f <$> first) = f <$> under front first :=
  under_bind front first fun a => Pure.pure (f a)

end Traced

/-- A computation all of whose diagnostics have a property. -/
def Traced.Reports (P : Diagnostic → Prop) (traced : Traced α) : Prop :=
  ∀ d ∈ traced.diagnostics, P d

namespace Traced.Reports

variable {P : Diagnostic → Prop}

theorem pure (result : α) : Reports P (Pure.pure result) := List.forall_mem_nil _

theorem report {d : Diagnostic} (own : P d) : Reports P (Traced.report d) :=
  List.forall_mem_singleton.mpr own

theorem bind {first : Traced α} {next : α → Traced β} (one : first.Reports P)
    (two : (next first.result).Reports P) : (first >>= next).Reports P :=
  List.forall_mem_append.mpr ⟨one, two⟩

theorem map {first : Traced α} (f : α → β) (reports : first.Reports P) :
    (f <$> first).Reports P := by
  rw [Reports, Traced.map_diagnostics]
  exact reports

end Traced.Reports

/-- A computation whose diagnostics each name a position. -/
def Traced.Located (traced : Traced α) : Prop := ∀ d ∈ traced.diagnostics, d.hint?.isSome = true

/-- A position is no reason to warn. -/
theorem Traced.Located.warnings {traced : Traced α} (located : traced.Located) :
    traced.diagnostics.filter Diagnostic.isWarning = [] :=
  List.filter_eq_nil_iff.mpr fun d listed =>
    Bool.eq_false_iff.mp (Diagnostic.isWarning_of_hint? (located d listed))

namespace ObjectShape

/-- Whether shapes are missing does not depend on what they describe. -/
theorem missingFrom_map (f : ObjectShape σ → ObjectShape τ) (index : Nat)
    (shapes : List (Option (ObjectShape σ))) :
    missingFrom index (shapes.map (Option.map f)) = missingFrom index shapes := by
  induction shapes generalizing index with
  | nil => rfl
  | cons first rest ih =>
    cases first with
    | none => exact congrArg (index :: ·) (ih _)
    | some shape => exact ih _

end ObjectShape

namespace Schema
open TypeScript

variable (front hint : String)

/-- A shape of compilations with a text in front of all their positions. -/
def shapeUnder : ObjectShape (Traced Compiled) → ObjectShape (Traced Compiled) :=
  ObjectShape.map (fun _ => Traced.under front) (Traced.under front)

section Steps

private theorem compileEnumeration_under (values : List Json.Value) :
    compileEnumeration (front ++ hint) values = (compileEnumeration hint values).under front := by
  match values with
  | [] => rfl
  | [value] => rfl
  | first :: second :: rest =>
    simp only [compileEnumeration]
    split
    · rfl
    · rfl

private theorem gatherFields_under (entries : List (String × Traced Compiled)) :
    gatherFields (entries.map fun entry => (entry.1, entry.2.under front)) =
      (gatherFields entries).under front := by
  induction entries with
  | nil => rfl
  | cons entry rest ih =>
    simp only [List.map_cons, gatherFields, ih, Traced.under_bind, Traced.under_pure]

private theorem gatherOthers_under (additional : Additional (Traced Compiled)) :
    gatherOthers (additional.map (Traced.under front)) =
      (gatherOthers additional).under front := by
  cases additional with
  | unspecified => rfl
  | allowed isAllowed => cases isAllowed <;> rfl
  | described compiled => simp only [Additional.map, gatherOthers, Traced.under_map]

private theorem objectOf_under (shape : ObjectShape (Traced Compiled)) :
    objectOf (shapeUnder front shape) = (objectOf shape).under front := by
  obtain ⟨properties, required, additional⟩ := shape
  cases properties with
  | nil =>
    cases additional with
    | unspecified => rfl
    | allowed isAllowed => rfl
    | described compiled =>
      simp only [shapeUnder, ObjectShape.map, Additional.map, List.map_nil, objectOf,
        Traced.under_map]
  | cons first rest =>
    have fields := gatherFields_under front (first :: rest)
    have others := gatherOthers_under front additional
    rw [List.map_cons] at fields
    simp only [shapeUnder, ObjectShape.map, List.map_cons, objectOf, fields, others,
      Traced.under_bind, Traced.under_pure]
    rfl

/-- The reports on the members of a merge that have no shape. -/
def skipped (shapes : List (Option (ObjectShape σ))) : Traced Unit :=
  ⟨(), (ObjectShape.missingFrom 0 shapes).map (Diagnostic.skippedMember hint)⟩

def afterMerging : Option (ObjectShape (Traced Compiled)) → Traced Compiled
  | some shape => objectOf shape
  | none => do
    Traced.report (.nothingToMerge hint)
    return .unknown

theorem mergedOf_eq (shapes : List (Option (ObjectShape (Traced Compiled)))) :
    mergedOf hint shapes =
      skipped hint shapes >>= fun _ => afterMerging hint (ObjectShape.mergeAll shapes) := by
  rw [mergedOf, mergeReporting]
  cases ObjectShape.mergeAll shapes with
  | none => rfl
  | some shape => rfl

private theorem skipped_under (shapes : List (Option (ObjectShape (Traced Compiled)))) :
    skipped (front ++ hint) (shapes.map (Option.map (shapeUnder front))) =
      (skipped hint shapes).under front := by
  rw [skipped, ObjectShape.missingFrom_map, skipped, Traced.under, List.map_map]
  rfl

private theorem afterMerging_under (merged : Option (ObjectShape (Traced Compiled))) :
    afterMerging (front ++ hint) (merged.map (shapeUnder front)) =
      (afterMerging hint merged).under front := by
  cases merged with
  | none => rfl
  | some shape => exact objectOf_under front shape

private theorem mergedOf_under (shapes : List (Option (ObjectShape (Traced Compiled)))) :
    mergedOf (front ++ hint) (shapes.map (Option.map (shapeUnder front))) =
      (mergedOf hint shapes).under front := by
  have merged : ObjectShape.mergeAll (shapes.map (Option.map (shapeUnder front))) =
      (ObjectShape.mergeAll shapes).map (shapeUnder front) :=
    (ObjectShape.map_mergeAll _ _ shapes).symm
  rw [mergedOf_eq, mergedOf_eq, merged, skipped_under, afterMerging_under, Traced.under_bind]

private theorem unionOf_under (how : Combination) (members : List Compiled) :
    unionOf how (front ++ hint) members = (unionOf how hint members).under front := by
  match members with
  | [] => rfl
  | [only] => rfl
  | first :: second :: rest => rfl

end Steps

section Compiling

mutual
/-- Under a longer name of its position a schema is compiled to the same, with the same reports
about it and its parts under that name. -/
theorem compile_under (hint : String) : (schema : Schema) →
    schema.compile (front ++ hint) = (schema.compile hint).under front
  | .reference _ | .string _ | .number _ | .boolean | .null | .nullable | .unknown => rfl
  | .enumeration values => compileEnumeration_under front hint values
  | .array items constraints => by
    rw [compile, compile, compileItems_under hint items, Traced.under_map]
  | .object shape => by
    rw [compile, compile, compileShape_under hint shape, objectOf_under]
  | .combination .allOf members => by
    rw [compile, compile, String.append_assoc, compileShapes_under (hint ++ "AllOf") members,
      mergedOf_under]
  | .combination .anyOf members | .combination .oneOf members => by
    rw [compile_united _ (by decide), compile_united _ (by decide),
      compileMembers_under _ hint 0 members, Traced.under_bind]
    exact congrArg _ (funext fun compiled => unionOf_under front hint _ compiled)
private theorem compileItems_under (hint : String) : (items : Option Schema) →
    compileItems (front ++ hint) items = (compileItems hint items).under front
  | none => rfl
  | some items => by
    rw [compileItems, compileItems, String.append_assoc, compile_under (hint ++ "Item") items]
private theorem compileShape_under (hint : String) : (shape : ObjectShape Schema) →
    compileShape (front ++ hint) shape = shapeUnder front (compileShape hint shape)
  | ⟨properties, required, additional⟩ => by
    rw [compileShape, compileShape, compileProperties_under hint properties,
      compileAdditional_under hint additional]
    rfl
private theorem compileProperties_under (hint : String) : (properties : List (String × Schema)) →
    compileProperties (front ++ hint) properties =
      (compileProperties hint properties).map fun entry => (entry.1, entry.2.under front)
  | [] => rfl
  | property :: rest => by
    rw [compileProperties, compileProperties, compileProperty_under hint property,
      compileProperties_under hint rest, List.map_cons]
private theorem compileProperty_under (hint : String) : (property : String × Schema) →
    compileProperty (front ++ hint) property =
      ((compileProperty hint property).1, (compileProperty hint property).2.under front)
  | (name, schema) => by
    rw [compileProperty, compileProperty, String.append_assoc,
      compile_under (hint ++ Identifier.pascal name) schema]
private theorem compileAdditional_under (hint : String) : (additional : Additional Schema) →
    compileAdditional (front ++ hint) additional =
      (compileAdditional hint additional).map (Traced.under front)
  | .unspecified | .allowed _ => rfl
  | .described schema => by
    rw [compileAdditional, compileAdditional, String.append_assoc,
      compile_under (hint ++ "Value") schema]
    rfl
private theorem compileMembers_under (how : Combination) (hint : String) (index : Nat) :
    (members : List Schema) → compileMembers how (front ++ hint) index members =
      (compileMembers how hint index members).under front
  | [] => rfl
  | member :: rest => by
    have position : front ++ hint ++ how.name ++ toString index =
        front ++ (hint ++ how.name ++ toString index) := by
      simp only [String.append_assoc]
    rw [compileMembers, compileMembers, position,
      compile_under (hint ++ how.name ++ toString index) member,
      compileMembers_under how hint (index + 1) rest]
    simp only [Traced.under_bind, Traced.under_pure]
private theorem compileShapes_under (hint : String) : (members : List Schema) →
    compileShapes (front ++ hint) members =
      (compileShapes hint members).map (Option.map (shapeUnder front))
  | [] => rfl
  | member :: rest => by
    rw [compileShapes, compileShapes, compileObject?_under hint member,
      compileShapes_under hint rest, List.map_cons]
private theorem compileObject?_under (hint : String) : (schema : Schema) →
    compileObject? (front ++ hint) schema =
      (compileObject? hint schema).map (shapeUnder front)
  | .object shape => congrArg some (compileShape_under hint shape)
  | .reference _ | .string _ | .enumeration _ | .number _ | .boolean | .null | .array _ _
  | .combination _ _ | .nullable | .unknown => rfl
end

end Compiling

section Reports
open Traced

variable {P : Diagnostic → Prop}

private theorem reports_gatherFields (entries : List (String × Traced Compiled))
    (each : ∀ entry ∈ entries, entry.2.Reports P) : (gatherFields entries).Reports P := by
  induction entries with
  | nil => exact .pure _
  | cons entry rest ih =>
    obtain ⟨first, others⟩ := List.forall_mem_cons.mp each
    exact .bind first (.bind (ih others) (.pure _))

private theorem reports_gatherOthers (additional : Additional (Traced Compiled))
    (each : ∀ compiled, additional = .described compiled → compiled.Reports P) :
    (gatherOthers additional).Reports P := by
  match additional with
  | .described compiled => exact .map _ (each compiled rfl)
  | .allowed true | .allowed false | .unspecified => exact .pure _

theorem reports_objectOf (shape : ObjectShape (Traced Compiled)) (each : shape.All (Reports P)) :
    (objectOf shape).Reports P := by
  obtain ⟨properties, required, additional⟩ := shape
  cases properties with
  | nil =>
    cases additional with
    | described compiled => exact .map _ (each.2 compiled rfl)
    | unspecified => exact .pure _
    | allowed isAllowed => exact .pure _
  | cons first rest =>
    exact .bind (reports_gatherFields _ each.1) (.bind (reports_gatherOthers _ each.2) (.pure _))

theorem reports_mergedOf (shapes : List (Option (ObjectShape (Traced Compiled))))
    (skip : ∀ index, P (.skippedMember hint index)) (nothing : P (.nothingToMerge hint))
    (each : ∀ shape, ObjectShape.mergeAll shapes = some shape → shape.All (Reports P)) :
    (mergedOf hint shapes).Reports P := by
  have reported : (skipped hint shapes).Reports P :=
    List.forall_mem_map.mpr fun index _ => skip index
  rw [mergedOf_eq]
  refine .bind reported ?_
  cases found : ObjectShape.mergeAll shapes with
  | some shape => exact reports_objectOf shape (each shape found)
  | none => exact .bind (.report nothing) (.pure _)

theorem reports_gatherMembers (members : List (Traced Compiled))
    (each : ∀ member ∈ members, member.Reports P) : (gatherMembers members).Reports P := by
  induction members with
  | nil => exact .pure _
  | cons member rest ih =>
    obtain ⟨first, others⟩ := List.forall_mem_cons.mp each
    exact .bind first (.bind (ih others) (.pure _))

theorem reports_unionOf (how : Combination) (empty : P (.emptyUnion how hint))
    (members : List Compiled) : (unionOf how hint members).Reports P := by
  match members with
  | [] => exact .bind (.report empty) (.pure _)
  | [_] | _ :: _ :: _ => exact .pure _

theorem reports_enumeration (values : List Json.Value)
    (empty : values = [] → P (.emptyEnumeration hint)) :
    (compileEnumeration hint values).Reports P := by
  match values with
  | [] => exact .bind (.report (empty rfl)) (.pure _)
  | [value] => exact .pure _
  | first :: second :: rest =>
    unfold compileEnumeration
    dsimp only
    split <;> exact .pure _

/-- Every rule of the compiler names a position where it reports. -/
theorem located_kept : KeptByCompiling Located where
  string _ := Reports.pure _
  number _ := Reports.pure _
  boolean := Reports.pure _
  null := Reports.pure _
  nullable := Reports.pure _
  unknown _ := Reports.bind (.report rfl) (.pure _)
  enumeration hint values := reports_enumeration hint values fun _ => rfl
  anyItem := Reports.pure _
  array _ _ := Reports.map _
  object := reports_objectOf
  merge hint shapes each := reports_mergedOf hint shapes (fun _ => rfl) rfl fun _ found =>
    ObjectShape.All.mergeAll each found
  union how hint members each :=
    Reports.bind (reports_gatherMembers members each) (reports_unionOf hint how (by rfl) _)

/-- All that compiling a schema reports is about a position. -/
theorem located_compile (schema : Schema) : (schema.compile hint).Located :=
  compile_keeps_traced located_kept hint schema fun _ _ => Reports.pure _

end Reports

/-- What the compiler reports of a schema apart from where the whole stands: the rest of the
position that it is about, and all that is shown besides the position. -/
structure Notice where
  suffix : String
  level : Level
  message : String
  others : List (String × FieldValue)

def Notice.shownAt (hint : String) (notice : Notice) :
    Level × String × List (String × FieldValue) :=
  (notice.level, notice.message, ("hint", .text (hint ++ notice.suffix)) :: notice.others)

/-- The notice in a diagnostic about a whole without a name. -/
def Notice.ofDiagnostic (d : Diagnostic) : Notice :=
  ⟨d.hint?.getD "", d.level, d.message, d.fields.tail⟩

theorem shown_under_eq {d : Diagnostic} (located : d.hint?.isSome = true) :
    (d.under hint).shown = (Notice.ofDiagnostic d).shownAt hint := by
  obtain ⟨suffix, named⟩ := Option.isSome_iff_exists.mp located
  rw [Diagnostic.shown_under named, Notice.shownAt, Notice.ofDiagnostic, named]
  rfl

/-- Hints are for diagnostics only. The name under which a schema is compiled has no part in what it
is compiled to, and what is reported on the way is fixed by the schema but for this name, which
stands in front of the position in each report. -/
theorem hints_in_diagnostics_only (schema : Schema) :
    ∃ notices : List Notice, ∀ one two : String,
      (schema.compile one).result = (schema.compile two).result ∧
        (schema.compile one).diagnostics.map Diagnostic.shown =
          notices.map (Notice.shownAt one) ∧
        (schema.compile two).diagnostics.map Diagnostic.shown =
          notices.map (Notice.shownAt two) := by
  have moved : ∀ hint, schema.compile hint = (schema.compile "").under hint := by
    intro hint
    rw [← compile_under, String.append_empty]
  have shown : ∀ hint, (schema.compile hint).diagnostics.map Diagnostic.shown =
      ((schema.compile "").diagnostics.map Notice.ofDiagnostic).map (Notice.shownAt hint) := by
    intro hint
    rw [moved hint, Traced.under, List.map_map, List.map_map]
    exact List.map_congr_left fun d reported =>
      shown_under_eq hint (located_compile "" schema d reported)
  refine ⟨(schema.compile "").diagnostics.map Notice.ofDiagnostic, ?_⟩
  intro one two
  refine ⟨?_, shown one, shown two⟩
  rw [moved one, moved two]
  rfl

end Schema
end ClientGen
