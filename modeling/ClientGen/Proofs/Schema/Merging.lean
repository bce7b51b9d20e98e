import ClientGen.Schema.Compile

/-!
Merging and compiling commute: the merge of compiled shapes is the compiled merge of the shapes,
since merging looks at names only. So the members of an `allOf` are compiled as one object, whose
properties and required names come from any of them.
-/
namespace ClientGen

/-- A word on additional properties with its schema replaced. -/
def Additional.map (f : σ → τ) : Additional σ → Additional τ
  | .unspecified => .unspecified
  | .allowed isAllowed => .allowed isAllowed
  | .described schema => .described (f schema)

private theorem Additional.map_override (f : σ → τ) (earlier later : Additional σ) :
    (earlier.override later).map f = (earlier.map f).override (later.map f) := by
  cases later <;> rfl

namespace ObjectShape

def declares (shape : ObjectShape σ) (name : String) : Bool :=
  (shape.properties.map Prod.fst).contains name

/-- A shape with its descriptions replaced: properties by name, and that of all others. -/
def map (property : String → σ → τ) (others : σ → τ) (shape : ObjectShape σ) : ObjectShape τ where
  properties := shape.properties.map fun entry => (entry.1, property entry.1 entry.2)
  required := shape.required
  additional := shape.additional.map others

section Map

variable (property : String → σ → τ) (others : σ → τ)

@[simp] theorem requires_map (shape : ObjectShape σ) (name : String) :
    (shape.map property others).requires name = shape.requires name :=
  rfl

@[simp] theorem declares_map (shape : ObjectShape σ) (name : String) :
    (shape.map property others).declares name = shape.declares name := by
  simp [declares, map, Function.comp_def]

theorem map_insert (name : String) (schema : σ) (entries : List (String × σ)) :
    (Ordered.insert name schema entries).map (fun entry => (entry.1, property entry.1 entry.2)) =
      Ordered.insert name (property name schema)
        (entries.map fun entry => (entry.1, property entry.1 entry.2)) := by
  induction entries with
  | nil => rfl
  | cons first rest ih =>
    rw [Ordered.insert, List.map_cons, Ordered.insert]
    split
    · rfl
    · rw [List.map_cons, ih]

theorem map_merge (earlier later : ObjectShape σ) :
    (earlier.merge later).map property others =
      (earlier.map property others).merge (later.map property others) := by
  have inserted : ∀ added kept : List (String × σ),
      (added.foldl (fun kept entry => Ordered.insert entry.1 entry.2 kept) kept).map
          (fun entry => (entry.1, property entry.1 entry.2)) =
        (added.map fun entry => (entry.1, property entry.1 entry.2)).foldl
          (fun kept entry => Ordered.insert entry.1 entry.2 kept)
          (kept.map fun entry => (entry.1, property entry.1 entry.2)) := by
    intro added
    induction added with
    | nil => exact fun _ => rfl
    | cons entry rest ih =>
      intro kept
      rw [List.foldl_cons, ih, map_insert, List.map_cons, List.foldl_cons]
  rw [merge, merge, map, inserted, Additional.map_override]
  rfl

theorem map_mergeInto (merged : Option (ObjectShape σ)) (shapes : List (Option (ObjectShape σ))) :
    (mergeInto merged shapes).map (map property others) =
      mergeInto (merged.map (map property others))
        (shapes.map (Option.map (map property others))) := by
  induction shapes generalizing merged with
  | nil => rfl
  | cons first rest ih =>
    cases first with
    | none => exact ih merged
    | some shape =>
      have start : (merged.getD empty).map property others =
          (merged.map (map property others)).getD empty := by
        cases merged <;> rfl
      rw [mergeInto, ih, Option.map_some, map_merge, start]
      rfl

/-- Merging looks at no description. -/
theorem map_mergeAll (shapes : List (Option (ObjectShape σ))) :
    (mergeAll shapes).map (map property others) =
      mergeAll (shapes.map (Option.map (map property others))) :=
  map_mergeInto property others none shapes

end Map

section Every

/-- What merging keeps holds of a merge of shapes if it holds of them and of what was there
before. -/
theorem mergeInto_closed {P : ObjectShape σ → Prop}
    (keep : ∀ earlier later, P earlier → P later → P (earlier.merge later))
    (shapes : List (Option (ObjectShape σ))) (each : ∀ shape, some shape ∈ shapes → P shape)
    (merged : Option (ObjectShape σ)) (before : P (merged.getD empty)) :
    P ((mergeInto merged shapes).getD empty) := by
  induction shapes generalizing merged with
  | nil => exact before
  | cons first rest ih =>
    have later : ∀ shape, some shape ∈ rest → P shape :=
      fun shape listed => each shape (List.mem_cons_of_mem _ listed)
    cases first with
    | none => exact ih later merged before
    | some shape => exact ih later _ (keep _ _ before (each shape List.mem_cons_self))

/-- Every description in a shape has a property. -/
def All (P : σ → Prop) (shape : ObjectShape σ) : Prop :=
  (∀ entry ∈ shape.properties, P entry.2) ∧
    ∀ schema, shape.additional = .described schema → P schema

variable {P : σ → Prop}

private theorem all_empty : All P empty := by
  refine ⟨List.forall_mem_nil _, ?_⟩
  intro schema described
  cases described

private theorem forall_insert {entries : List (String × σ)} (before : ∀ entry ∈ entries, P entry.2)
    (name : String) {schema : σ} (added : P schema) :
    ∀ entry ∈ Ordered.insert name schema entries, P entry.2 := by
  induction entries with
  | nil => exact List.forall_mem_singleton.mpr added
  | cons first rest ih =>
    obtain ⟨head, tail⟩ := List.forall_mem_cons.mp before
    rw [Ordered.insert]
    split
    · exact List.forall_mem_cons.mpr ⟨added, tail⟩
    · exact List.forall_mem_cons.mpr ⟨head, ih tail⟩

theorem All.merge {earlier later : ObjectShape σ} (first : earlier.All P) (second : later.All P) :
    (earlier.merge later).All P := by
  constructor
  · have inserted : ∀ added kept : List (String × σ), (∀ entry ∈ kept, P entry.2) →
        (∀ entry ∈ added, P entry.2) →
        ∀ entry ∈ added.foldl (fun kept entry => Ordered.insert entry.1 entry.2 kept) kept,
          P entry.2 := by
      intro added
      induction added with
      | nil => exact fun _ before _ => before
      | cons entry rest ih =>
        intro kept before each
        obtain ⟨own, others⟩ := List.forall_mem_cons.mp each
        exact ih _ (forall_insert before entry.1 own) others
    exact inserted _ _ first.1 second.1
  · intro schema described
    obtain ⟨_, _, additional⟩ := later
    cases additional with
    | unspecified => exact first.2 schema described
    | allowed isAllowed => cases described
    | described own => exact second.2 schema described

/-- Every description in merged shapes has a property that all those in the shapes have. -/
theorem All.mergeAll {shapes : List (Option (ObjectShape σ))}
    (each : ∀ shape, some shape ∈ shapes → shape.All P) {merged : ObjectShape σ}
    (found : mergeAll shapes = some merged) : merged.All P := by
  have all := mergeInto_closed (fun _ _ => All.merge) shapes each none all_empty
  have same : mergeInto none shapes = some merged := found
  rwa [same] at all

end Every

section Merged

variable {P : ObjectShape σ → Prop}

/-- What holds of two shapes merged if it holds of one of them holds of merged shapes if it holds of
one among them. -/
theorem mergeInto_iff
    (either : ∀ earlier later, P (earlier.merge later) ↔ P earlier ∨ P later)
    (shapes : List (Option (ObjectShape σ))) (merged : Option (ObjectShape σ))
    {result : ObjectShape σ} (found : mergeInto merged shapes = some result) :
    P result ↔ P (merged.getD empty) ∨ ∃ shape, some shape ∈ shapes ∧ P shape := by
  induction shapes generalizing merged with
  | nil =>
    obtain rfl : merged = some result := found
    simp
  | cons first rest ih =>
    cases first with
    | none =>
      rw [ih merged found]
      simp
    | some shape =>
      rw [ih _ found, Option.getD_some, either]
      simp [or_assoc]

/-- Likewise for all shapes of a list. -/
theorem mergeAll_iff (absent : ¬P empty)
    (either : ∀ earlier later, P (earlier.merge later) ↔ P earlier ∨ P later)
    {shapes : List (Option (ObjectShape σ))} {merged : ObjectShape σ}
    (found : mergeAll shapes = some merged) :
    P merged ↔ ∃ shape, some shape ∈ shapes ∧ P shape := by
  rw [mergeInto_iff either shapes none found]
  exact or_iff_right absent

theorem requires_merge (earlier later : ObjectShape σ) (name : String) :
    (earlier.merge later).requires name = true ↔
      earlier.requires name = true ∨ later.requires name = true := by
  simp only [requires, merge, List.contains_iff_mem, NameSet.mem_union]

theorem mem_keys_insert (name other : String) (schema : σ) (entries : List (String × σ)) :
    other ∈ (Ordered.insert name schema entries).map Prod.fst ↔
      other = name ∨ other ∈ entries.map Prod.fst := by
  induction entries with
  | nil => exact List.mem_cons
  | cons first rest ih =>
    rw [Ordered.insert]
    split
    next same =>
      rw [List.map_cons, List.map_cons, List.mem_cons, List.mem_cons, eq_of_beq same]
      simp
    next apart =>
      rw [List.map_cons, List.map_cons, List.mem_cons, ih, List.mem_cons]
      exact or_left_comm

theorem declares_merge (earlier later : ObjectShape σ) (name : String) :
    (earlier.merge later).declares name = true ↔
      earlier.declares name = true ∨ later.declares name = true := by
  have inserted : ∀ added kept : List (String × σ),
      name ∈ (added.foldl (fun kept entry => Ordered.insert entry.1 entry.2 kept) kept).map
          Prod.fst ↔ name ∈ kept.map Prod.fst ∨ name ∈ added.map Prod.fst := by
    intro added
    induction added with
    | nil => simp
    | cons entry rest ih =>
      intro kept
      rw [List.foldl_cons, ih, mem_keys_insert, List.map_cons, List.mem_cons,
        or_comm (a := name = entry.1), or_assoc]
  simp only [declares, List.contains_iff_mem]
  exact inserted later.properties earlier.properties

/-- A merged shape requires what one of the shapes requires. -/
theorem requires_mergeAll {shapes : List (Option (ObjectShape σ))} {merged : ObjectShape σ}
    (found : mergeAll shapes = some merged) (name : String) :
    merged.requires name = true ↔ ∃ shape, some shape ∈ shapes ∧ shape.requires name = true :=
  mergeAll_iff (P := fun shape => shape.requires name = true) Bool.false_ne_true
    (fun earlier later => requires_merge earlier later name) found

/-- A merged shape has the properties that one of the shapes has. -/
theorem declares_mergeAll {shapes : List (Option (ObjectShape σ))} {merged : ObjectShape σ}
    (found : mergeAll shapes = some merged) (name : String) :
    merged.declares name = true ↔ ∃ shape, some shape ∈ shapes ∧ shape.declares name = true :=
  mergeAll_iff (P := fun shape => shape.declares name = true) Bool.false_ne_true
    (fun earlier later => declares_merge earlier later name) found

end Merged

end ObjectShape

namespace Schema

theorem compileProperties_eq_map (hint : String) (properties : List (String × Schema)) :
    compileProperties hint properties = properties.map fun property =>
      (property.1, property.2.compile (hint ++ Identifier.pascal property.1)) := by
  induction properties with
  | nil => rfl
  | cons property rest ih =>
    obtain ⟨name, schema⟩ := property
    exact congrArg ((name, schema.compile (hint ++ Identifier.pascal name)) :: ·) ih

/-- Compiling a shape replaces its descriptions. -/
theorem compileShape_eq_map (hint : String) (shape : ObjectShape Schema) :
    compileShape hint shape = shape.map (fun name => compile (hint ++ Identifier.pascal name))
      (compile (hint ++ "Value")) := by
  obtain ⟨properties, required, additional⟩ := shape
  rw [compileShape, compileProperties_eq_map]
  cases additional <;> rfl

theorem compileShapes_eq_map (hint : String) (members : List Schema) :
    compileShapes hint members = (members.map object?).map (Option.map (compileShape hint)) := by
  induction members with
  | nil => rfl
  | cons member rest ih =>
    rw [compileShapes, ih, List.map_cons, List.map_cons]
    cases member <;> rfl

/-- Compiled shapes merge to the compiled merge. -/
theorem mergeAll_compileShapes (hint : String) (members : List Schema) :
    ObjectShape.mergeAll (compileShapes hint members) =
      (ObjectShape.mergeAll (members.map object?)).map (compileShape hint) := by
  have replaced : compileShape hint = ObjectShape.map
      (fun name => compile (hint ++ Identifier.pascal name)) (compile (hint ++ "Value")) :=
    funext (compileShape_eq_map hint)
  rw [compileShapes_eq_map, replaced, ObjectShape.map_mergeAll]

/-- The objects among the members of an `allOf` are compiled as one object. -/
theorem compile_allOf_result (hint : String) (members : List Schema) :
    ((combination .allOf members).compile hint).result =
      match ObjectShape.mergeAll (members.map object?) with
      | some merged => (objectOf (compileShape (hint ++ "AllOf") merged)).result
      | none => .unknown := by
  rw [compile, mergedOf, Traced.bind_result, mergeReporting, mergeAll_compileShapes]
  cases ObjectShape.mergeAll (members.map object?) <;> rfl

end Schema
end ClientGen
