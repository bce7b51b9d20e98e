import Mathlib.Data.List.Nodup
import ClientGen.Ordered

/-!
What is kept of entries put one after the other: each key once, in the order in which the keys first
occur, with the value that it was given last.
-/
namespace ClientGen.Ordered
variable [BEq κ] [LawfulBEq κ]

section Names

private theorem nodup_eraseDups (names : List κ) : names.eraseDups.Nodup := by
  cases names with
  | nil => exact List.nodup_nil
  | cons name rest =>
    rw [List.eraseDups_cons, List.nodup_cons]
    refine ⟨?_, nodup_eraseDups _⟩
    intro again
    simp at again
  termination_by names.length
  decreasing_by exact Nat.lt_succ_of_le (List.length_filter_le _ rest)

private theorem filter_eraseDups (p : κ → Bool) (names : List κ) :
    names.eraseDups.filter p = (names.filter p).eraseDups := by
  cases names with
  | nil => rfl
  | cons name rest =>
    have others := filter_eraseDups p (rest.filter fun other => !other == name)
    rw [List.eraseDups_cons, List.filter_cons, List.filter_cons, others]
    by_cases passes : p name = true
    · rw [if_pos passes, if_pos passes, List.eraseDups_cons, List.filter_filter,
        List.filter_filter]
      simp only [Bool.and_comm]
    · -- The filter takes out the name itself, so nothing is left to erase for it.
      have gone : (rest.filter fun other => !other == name).filter p = rest.filter p := by
        rw [List.filter_filter]
        refine List.filter_congr fun other _ => ?_
        by_cases same : other = name
        · simp [same, passes]
        · simp [same]
      rw [if_neg passes, if_neg passes, gone]
  termination_by names.length
  decreasing_by exact Nat.lt_succ_of_le (List.length_filter_le _ rest)

theorem eraseDups_of_nodup {names : List κ} (distinct : names.Nodup) : names.eraseDups = names := by
  induction names with
  | nil => rfl
  | cons name rest ih =>
    obtain ⟨new, others⟩ := List.nodup_cons.mp distinct
    have kept : rest.filter (fun other => !other == name) = rest := by
      refine List.filter_eq_self.mpr fun other listed => ?_
      have apart : other ≠ name := fun same => new (same ▸ listed)
      simp [apart]
    rw [List.eraseDups_cons, kept, ih others]

/-- Elements that occur twice can be left out of both parts of a list. -/
theorem eraseDups_append_eraseDups (front back : List κ) :
    (front.eraseDups ++ back.eraseDups).eraseDups = (front ++ back).eraseDups := by
  have again (names : List κ) : names.eraseDups.eraseDups = names.eraseDups :=
    eraseDups_of_nodup (nodup_eraseDups names)
  have rest : back.eraseDups.removeAll front.eraseDups = (back.removeAll front).eraseDups := by
    simp only [List.removeAll, filter_eraseDups, List.elem_eq_contains, List.contains_eq_mem,
      List.mem_eraseDups]
  rw [List.eraseDups_append, List.eraseDups_append, again, rest, again]

end Names

section Collected

private theorem lookup_eq_none_of_key {key : κ} {entries : List (κ × α)}
    (absent : key ∉ entries.map Prod.fst) : entries.lookup key = none := by
  rw [List.lookup_eq_none_iff]
  intro entry listed
  have apart : key ≠ entry.1 := fun same => absent (same ▸ List.mem_map_of_mem listed)
  simpa using apart

/-- Entries are known by the order of their keys and by what stands under each of them. -/
theorem ext_of_lookup {entries others : List (κ × α)} (distinct : (entries.map Prod.fst).Nodup)
    (keys : entries.map Prod.fst = others.map Prod.fst)
    (values : ∀ key, entries.lookup key = others.lookup key) : entries = others := by
  induction entries generalizing others with
  | nil =>
    rw [List.map_nil, eq_comm, List.map_eq_nil_iff] at keys
    exact keys.symm
  | cons entry rest ih =>
    cases others with
    | nil => cases keys
    | cons other more =>
      obtain ⟨name, value⟩ := entry
      obtain ⟨_, otherValue⟩ := other
      simp only [List.map_cons, List.cons.injEq] at keys distinct
      obtain ⟨rfl, keys⟩ := keys
      obtain ⟨new, distinct⟩ := List.nodup_cons.mp distinct
      have first : value = otherValue := by simpa using values name
      have tails : rest = more := by
        refine ih distinct keys fun key => ?_
        by_cases same : key = name
        · subst same
          rw [lookup_eq_none_of_key new, lookup_eq_none_of_key (keys ▸ new)]
        · simpa [List.lookup_cons, beq_eq_false_iff_ne.mpr same] using values key
      rw [first, tails]

theorem lookup_reverse {entries : List (κ × α)} (distinct : (entries.map Prod.fst).Nodup)
    (key : κ) : entries.reverse.lookup key = entries.lookup key := by
  induction entries with
  | nil => rfl
  | cons entry rest ih =>
    obtain ⟨name, value⟩ := entry
    obtain ⟨new, distinct⟩ := List.nodup_cons.mp distinct
    rw [List.reverse_cons, List.lookup_append, ih distinct, List.lookup_cons]
    by_cases same : key = name
    · subst same
      simp [lookup_eq_none_of_key new]
    · simp [List.lookup_cons, beq_eq_false_iff_ne.mpr same]

theorem keys_insert (key : κ) (value : α) (entries : List (κ × α)) :
    (insert key value entries).map Prod.fst =
      if key ∈ entries.map Prod.fst then entries.map Prod.fst
      else entries.map Prod.fst ++ [key] := by
  induction entries with
  | nil => simp [insert]
  | cons entry rest ih =>
    obtain ⟨name, old⟩ := entry
    by_cases same : name = key
    · simp [insert, same]
    · by_cases listed : key ∈ rest.map Prod.fst
      · rw [if_pos listed] at ih
        simp [insert, same, ih, listed]
      · rw [if_neg listed] at ih
        simp [insert, same, ih, listed, Ne.symm same]

/-- What is kept of entries: each key once, in the order of first occurrence, with the value of its
last occurrence. -/
structure Collects (kept entries : List (κ × α)) : Prop where
  keys : kept.map Prod.fst = (entries.map Prod.fst).eraseDups
  latest : ∀ key, kept.lookup key = entries.reverse.lookup key

namespace Collects
variable {kept entries : List (κ × α)}

omit [LawfulBEq κ] in
theorem nil : Collects ([] : List (κ × α)) [] := ⟨rfl, fun _ => rfl⟩

theorem distinct (collects : Collects kept entries) : (kept.map Prod.fst).Nodup := by
  rw [collects.keys]
  exact nodup_eraseDups _

/-- One entry more. -/
theorem insert (collects : Collects kept entries) (key : κ) (value : α) :
    Collects (Ordered.insert key value kept) (entries ++ [(key, value)]) := by
  constructor
  · have known : key ∈ kept.map Prod.fst ↔ key ∈ entries.map Prod.fst := by
      rw [collects.keys, List.mem_eraseDups]
    rw [keys_insert, List.map_append, List.eraseDups_append, ← collects.keys]
    by_cases listed : key ∈ entries.map Prod.fst
    · rw [if_pos (known.mpr listed)]
      simp [List.removeAll, listed]
    · rw [if_neg (mt known.mp listed)]
      simp [List.removeAll, listed, List.eraseDups_cons]
  · intro other
    rw [List.reverse_append, List.reverse_singleton, List.singleton_append, List.lookup_cons]
    by_cases same : other = key
    · rw [same, lookup_insert_self, beq_self_eq_true]
    · rw [lookup_insert_of_ne value kept same, collects.latest, beq_eq_false_iff_ne.mpr same]

/-- Entries put one after the other. -/
theorem foldl (collects : Collects kept entries) (added : List (κ × α)) :
    Collects (added.foldl (fun kept entry => Ordered.insert entry.1 entry.2 kept) kept)
      (entries ++ added) := by
  induction added generalizing kept entries with
  | nil => simpa using collects
  | cons entry rest ih => simpa using ih (collects.insert entry.1 entry.2)

/-- No two different lists are kept of the same entries. -/
theorem unique {other : List (κ × α)} (collects : Collects kept entries)
    (others : Collects other entries) : kept = other := by
  refine ext_of_lookup collects.distinct (collects.keys.trans others.keys.symm) fun key => ?_
  rw [collects.latest, others.latest]

end Collects

end Collected

end ClientGen.Ordered
