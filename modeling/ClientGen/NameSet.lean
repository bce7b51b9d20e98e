/-!
Sets of names, kept as lists in increasing order of code points without repetition.
-/
namespace ClientGen.NameSet

def insert (name : String) : List String → List String
  | [] => [name]
  | first :: rest =>
    if name < first then name :: first :: rest
    else if name = first then first :: rest
    else first :: insert name rest

def ofList (names : List String) : List String := names.foldl (fun set name => insert name set) []

/-- The names of either set. -/
def union (left right : List String) : List String :=
  right.foldl (fun set name => insert name set) left

theorem mem_insert {name other : String} {set : List String} :
    other ∈ insert name set ↔ other = name ∨ other ∈ set := by
  induction set with
  | nil => simp [insert]
  | cons first rest ih =>
    rw [insert]
    split
    · simp
    · split
      · next same => simp [same]
      · simp only [List.mem_cons, ih]; exact or_left_comm

theorem mem_union {name : String} {left right : List String} :
    name ∈ union left right ↔ name ∈ left ∨ name ∈ right := by
  rw [union]
  induction right generalizing left with
  | nil => simp
  | cons first rest ih =>
    rw [List.foldl_cons, ih, mem_insert, List.mem_cons, or_comm (a := name = first), or_assoc]

theorem pairwise_insert {name : String} {set : List String} (sorted : set.Pairwise (· < ·)) :
    (insert name set).Pairwise (· < ·) := by
  induction set with
  | nil => exact List.pairwise_singleton _ _
  | cons first rest ih =>
    obtain ⟨above, others⟩ := List.pairwise_cons.mp sorted
    rw [insert]
    split
    next below =>
      refine List.pairwise_cons.mpr ⟨?_, sorted⟩
      intro other listed
      rcases List.mem_cons.mp listed with rfl | later
      · exact below
      · exact String.lt_trans below (above other later)
    next notBelow =>
      split
      next same => exact sorted
      next apart =>
        refine List.pairwise_cons.mpr ⟨?_, ih others⟩
        intro other listed
        rcases mem_insert.mp listed with rfl | later
        · exact Std.lt_of_le_of_ne (String.not_lt.mp notBelow) (Ne.symm apart)
        · exact above other later

/-- A set stays in order when names are added. -/
theorem pairwise_union {left : List String} (sorted : left.Pairwise (· < ·)) (right : List String) :
    (union left right).Pairwise (· < ·) := by
  rw [union]
  induction right generalizing left with
  | nil => exact sorted
  | cons first rest ih => exact ih (pairwise_insert sorted)

/-- Sets are known by their names. -/
theorem ext {left right : List String} (leftSorted : left.Pairwise (· < ·))
    (rightSorted : right.Pairwise (· < ·)) (same : ∀ name, name ∈ left ↔ name ∈ right) :
    left = right := by
  have distinct {set : List String} (sorted : set.Pairwise (· < ·)) : set.Nodup :=
    sorted.imp String.ne_of_lt
  have moved := (List.perm_ext_iff_of_nodup (distinct leftSorted) (distinct rightSorted)).mpr same
  refine moved.eq_of_pairwise ?_ leftSorted rightSorted
  intro one two _ _ below above
  exact absurd above (String.lt_asymm below)

end ClientGen.NameSet
