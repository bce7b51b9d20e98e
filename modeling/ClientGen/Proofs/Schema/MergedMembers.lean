import ClientGen.Proofs.Ordered
import ClientGen.Schema.Compile

/-!
What the merge of an `allOf` is, said of all its members at once: each property where it first
occurs with the schema that it has last, every required name, and the last word on additional
properties. Nothing in this asks where the list of members was cut, so parts of it can be merged
first, and a member that is no object can stand anywhere.
-/
namespace ClientGen

/-- Whether a word on additional properties was given. -/
def Additional.isGiven : Additional σ → Bool
  | .unspecified => false
  | .allowed _ | .described _ => true

namespace ObjectShape

/-- The properties of all shapes of a list in order, also those that later ones replace. -/
def allProperties (shapes : List (ObjectShape σ)) : List (String × σ) :=
  shapes.flatMap ObjectShape.properties

def lastGiven (shapes : List (ObjectShape σ)) : Option (Additional σ) :=
  ((shapes.map ObjectShape.additional).filter Additional.isGiven).getLast?

/-- One shape for all shapes of a list. -/
structure MergeOf (shapes : List (ObjectShape σ)) (merged : ObjectShape σ) : Prop where
  /-- Each name stands once, where it first occurs, with the schema of its last occurrence. -/
  properties : Ordered.Collects merged.properties (allProperties shapes)
  /-- The required names form a set, in its order and without repetition. -/
  sorted : merged.required.Pairwise (· < ·)
  required : ∀ name, name ∈ merged.required ↔ ∃ shape ∈ shapes, name ∈ shape.required
  additional : merged.additional = (lastGiven shapes).getD .unspecified

variable {shapes others : List (ObjectShape σ)} {merged : ObjectShape σ}

theorem allProperties_append (front back : List (ObjectShape σ)) :
    allProperties (front ++ back) = allProperties front ++ allProperties back :=
  List.flatMap_append

theorem lastGiven_append (front back : List (ObjectShape σ)) :
    lastGiven (front ++ back) = (lastGiven back).or (lastGiven front) := by
  simp [lastGiven, List.getLast?_append]

theorem mergeOf_nil : MergeOf [] (empty : ObjectShape σ) where
  properties := .nil
  sorted := .nil
  required := by simp [empty]
  additional := rfl

/-- One shape more. -/
theorem MergeOf.merge (whole : MergeOf shapes merged) (shape : ObjectShape σ) :
    MergeOf (shapes ++ [shape]) (merged.merge shape) where
  properties := by
    have own : allProperties [shape] = shape.properties := List.flatMap_singleton ..
    rw [allProperties_append, own]
    exact whole.properties.foldl shape.properties
  sorted := NameSet.pairwise_union whole.sorted shape.required
  required name := by
    simp only [ObjectShape.merge, NameSet.mem_union, whole.required, List.mem_append, or_and_right,
      exists_or, List.mem_singleton, exists_eq_left]
  additional := by
    rw [lastGiven_append]
    cases word : shape.additional with
    | unspecified => simp [ObjectShape.merge, Additional.override, lastGiven, word,
        Additional.isGiven, whole.additional]
    | allowed isAllowed => simp [ObjectShape.merge, Additional.override, lastGiven, word,
        Additional.isGiven]
    | described schema => simp [ObjectShape.merge, Additional.override, lastGiven, word,
        Additional.isGiven]

private theorem mergeOf_mergeInto {before : Option (ObjectShape σ)}
    (start : MergeOf shapes (before.getD empty)) (list : List (Option (ObjectShape σ))) :
    MergeOf (shapes ++ list.filterMap id) ((mergeInto before list).getD empty) := by
  induction list generalizing before shapes with
  | nil => simpa [mergeInto] using start
  | cons first rest ih =>
    cases first with
    | none => simpa [mergeInto] using ih start
    | some shape =>
      have next : MergeOf (shapes ++ [shape])
          ((some ((before.getD empty).merge shape)).getD empty) := start.merge shape
      simpa [mergeInto] using ih next

theorem isSome_mergeInto (before : Option (ObjectShape σ)) (list : List (Option (ObjectShape σ))) :
    (mergeInto before list).isSome = (before.isSome || list.any Option.isSome) := by
  induction list generalizing before with
  | nil => simp [mergeInto]
  | cons first rest ih =>
    cases first with
    | none => simp [mergeInto, ih]
    | some shape => simp [mergeInto, ih]

/-- Only one shape is the merge of shapes. -/
theorem MergeOf.unique {other : ObjectShape σ} (whole : MergeOf shapes merged)
    (again : MergeOf shapes other) : merged = other := by
  have properties := whole.properties.unique again.properties
  have required := NameSet.ext whole.sorted again.sorted fun name => by
    rw [whole.required, again.required]
  have additional := whole.additional.trans again.additional.symm
  cases merged
  cases other
  simp_all

/-- Lists of shapes that have the same merge, also among others. -/
structure SameMerge (shapes others : List (ObjectShape σ)) : Prop where
  none : shapes = [] ↔ others = []
  names : ((allProperties shapes).map Prod.fst).eraseDups =
    ((allProperties others).map Prod.fst).eraseDups
  latest : ∀ name, (allProperties shapes).reverse.lookup name =
    (allProperties others).reverse.lookup name
  required : ∀ name, (∃ shape ∈ shapes, name ∈ shape.required) ↔
    ∃ shape ∈ others, name ∈ shape.required
  additional : lastGiven shapes = lastGiven others

namespace SameMerge

theorem refl (shapes : List (ObjectShape σ)) : SameMerge shapes shapes :=
  ⟨Iff.rfl, rfl, fun _ => rfl, fun _ => Iff.rfl, rfl⟩

theorem symm (same : SameMerge shapes others) : SameMerge others shapes :=
  ⟨same.none.symm, same.names.symm, fun name => (same.latest name).symm,
    fun name => (same.required name).symm, same.additional.symm⟩

private theorem mergeOf (same : SameMerge shapes others) (whole : MergeOf shapes merged) :
    MergeOf others merged where
  properties := ⟨whole.properties.keys.trans same.names,
    fun name => (whole.properties.latest name).trans (same.latest name)⟩
  sorted := whole.sorted
  required name := (whole.required name).trans (same.required name)
  additional := by rw [whole.additional, same.additional]

theorem append {front back otherFront otherBack : List (ObjectShape σ)}
    (first : SameMerge front otherFront) (second : SameMerge back otherBack) :
    SameMerge (front ++ back) (otherFront ++ otherBack) where
  none := by rw [List.append_eq_nil_iff, List.append_eq_nil_iff, first.none, second.none]
  names := by
    rw [allProperties_append, allProperties_append, List.map_append, List.map_append,
      ← Ordered.eraseDups_append_eraseDups, first.names, second.names,
      Ordered.eraseDups_append_eraseDups]
  latest name := by
    rw [allProperties_append, allProperties_append, List.reverse_append, List.reverse_append,
      List.lookup_append, List.lookup_append, first.latest, second.latest]
  required name := by
    simp only [List.mem_append, or_and_right, exists_or, first.required, second.required]
  additional := by rw [lastGiven_append, lastGiven_append, first.additional, second.additional]

end SameMerge

/-- The merge of shapes stands for all of them. -/
theorem MergeOf.sameMerge (whole : MergeOf shapes merged) (listed : shapes ≠ []) :
    SameMerge [merged] shapes where
  none := iff_of_false (List.cons_ne_nil _ _) listed
  names := by
    rw [← whole.properties.keys, allProperties, List.flatMap_singleton,
      Ordered.eraseDups_of_nodup whole.properties.distinct]
  latest name := by
    rw [← whole.properties.latest, allProperties, List.flatMap_singleton,
      Ordered.lookup_reverse whole.properties.distinct]
  required name := by simp [whole.required]
  additional := by
    have given : ∀ word, lastGiven shapes = some word → word.isGiven = true := by
      intro word last
      exact (List.mem_filter.mp (List.mem_of_getLast? last)).2
    have own : lastGiven [merged] =
        if merged.additional.isGiven then some merged.additional else Option.none := by
      cases word : merged.additional <;> simp [lastGiven, word, Additional.isGiven]
    rw [own, whole.additional]
    cases last : lastGiven shapes with
    | none => rfl
    | some word => simp [given word last]

end ObjectShape

namespace Schema
open ObjectShape

variable (hint : String) (members : List Schema)

private theorem isSome_mergeAllOf :
    (mergeAllOf hint members).result.isSome = true ↔ members.filterMap object? ≠ [] := by
  have result : (mergeAllOf hint members).result = mergeInto none (members.map object?) := rfl
  rw [result, isSome_mergeInto]
  simp [List.filterMap_eq_nil_iff, Option.isSome_iff_ne_none]

/-- What the merge of members is, if there is an object among them. -/
theorem mergeAllOf_eq_some_iff (merged : ObjectShape Schema) :
    (mergeAllOf hint members).result = some merged ↔
      members.filterMap object? ≠ [] ∧ MergeOf (members.filterMap object?) merged := by
  have shapes : (members.map object?).filterMap id = members.filterMap object? :=
    List.filterMap_map
  have start : MergeOf [] ((none : Option (ObjectShape Schema)).getD empty) := mergeOf_nil
  have whole := mergeOf_mergeInto start (members.map object?)
  have result : mergeInto none (members.map object?) = (mergeAllOf hint members).result := rfl
  rw [shapes, List.nil_append, result] at whole
  rw [← isSome_mergeAllOf hint members]
  cases found : (mergeAllOf hint members).result with
  | none => simp
  | some own =>
    rw [found] at whole
    constructor
    · rintro ⟨rfl⟩
      exact ⟨rfl, whole⟩
    · rintro ⟨-, other⟩
      exact congrArg some (MergeOf.unique whole other)

/-- The merge depends on the objects among the members only, as far as they differ in it. -/
theorem mergeAllOf_eq_of_sameMerge (position : String) {others : List Schema}
    (same : SameMerge (members.filterMap object?) (others.filterMap object?)) :
    (mergeAllOf hint members).result = (mergeAllOf position others).result := by
  apply Option.ext
  intro merged
  rw [mergeAllOf_eq_some_iff, mergeAllOf_eq_some_iff, ne_eq, ne_eq, same.none]
  exact and_congr_right fun _ => ⟨same.mergeOf, same.symm.mergeOf⟩

/-- The result of a merge stands for the objects that went into it. -/
theorem sameMerge_result :
    SameMerge (mergeAllOf hint members).result.toList (members.filterMap object?) := by
  cases found : (mergeAllOf hint members).result with
  | none =>
    have objects := isSome_mergeAllOf hint members
    rw [found] at objects
    have absent : members.filterMap object? = [] := by simpa using objects
    rw [absent]
    exact .refl []
  | some merged =>
    obtain ⟨listed, whole⟩ := (mergeAllOf_eq_some_iff hint members merged).mp found
    exact whole.sameMerge listed

/-- The objects among the members of an `allOf` are merged to one object exactly if there are any:
each property name stands once, where it first occurs, with its last schema; what any of them
requires is required; the last explicit word on additional properties stands. Members that are no
objects can be put in or taken out anywhere. The members can be cut in two anywhere and merged part
by part; the two results merge to the same object, its properties in the same order. -/
theorem merged_as_declared (hint : String) (members : List Schema) :
    let shapes := members.filterMap object?
    let result := (mergeAllOf hint members).result
    (result = none ↔ ∀ member ∈ members, member.object? = none) ∧
      (∀ merged, result = some merged ↔ shapes ≠ [] ∧ MergeOf shapes merged) ∧
      (∀ (position : String) (others : List Schema), others.filterMap object? = shapes →
        (mergeAllOf position others).result = result) ∧
      ∀ (position : String) (front back : List Schema), members = front ++ back →
        let parts := (mergeAllOf hint front).result.toList ++ (mergeAllOf hint back).result.toList
        (mergeAllOf position (parts.map .object)).result = result := by
  intro shapes result
  refine ⟨?_, mergeAllOf_eq_some_iff hint members, ?_, ?_⟩
  · rw [← List.filterMap_eq_nil_iff, ← not_iff_not, ← ne_eq, ← ne_eq, ← Option.isSome_iff_ne_none]
    exact isSome_mergeAllOf hint members
  · intro position others same
    apply mergeAllOf_eq_of_sameMerge
    rw [same]
    exact .refl shapes
  · intro position front back whole parts
    have objects : (parts.map Schema.object).filterMap object? = parts := by
      simp [List.filterMap_map, Function.comp_def, object?]
    have together := (sameMerge_result hint front).append (sameMerge_result hint back)
    apply mergeAllOf_eq_of_sameMerge
    rw [objects, whole, List.filterMap_append]
    exact together

end Schema
end ClientGen
