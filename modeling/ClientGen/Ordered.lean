/-!
Lists of keyed entries in which every key stands once. Putting a key that is there already keeps
its place and replaces its value, so the order is that of first occurrence and the value that of
the last.
-/
namespace ClientGen.Ordered
variable [BEq κ]

/-- Put a value under a key: in the key's place if it has one, at the end if not. -/
def insert (key : κ) (value : α) : List (κ × α) → List (κ × α)
  | [] => [(key, value)]
  | entry :: rest =>
    if entry.1 == key then (key, value) :: rest else entry :: insert key value rest

/-- The entries of a list, put one after the other. -/
def ofList (entries : List (κ × α)) : List (κ × α) :=
  entries.foldl (fun kept entry => insert entry.1 entry.2 kept) []

def contains (key : κ) (entries : List (κ × α)) : Bool :=
  entries.any (·.1 == key)

def erase (key : κ) (entries : List (κ × α)) : List (κ × α) :=
  entries.filter (!·.1 == key)

variable [LawfulBEq κ]

theorem mem_of_lookup {key : κ} {value : α} {entries : List (κ × α)}
    (found : entries.lookup key = some value) : (key, value) ∈ entries := by
  obtain ⟨before, after, rfl, -⟩ := List.lookup_eq_some_iff.mp found
  exact List.mem_append_right before List.mem_cons_self

theorem lookup_insert_self (key : κ) (value : α) (entries : List (κ × α)) :
    (insert key value entries).lookup key = some value := by
  induction entries with
  | nil => simp [insert]
  | cons entry rest ih =>
    obtain ⟨other, old⟩ := entry
    by_cases same : other = key
    · simp [insert, same]
    · simp [insert, same, List.lookup_cons, beq_eq_false_iff_ne.2 (Ne.symm same), ih]

theorem lookup_insert_of_ne {key other : κ} (value : α) (entries : List (κ × α))
    (different : other ≠ key) : (insert key value entries).lookup other = entries.lookup other := by
  have missed := beq_eq_false_iff_ne.2 different
  induction entries with
  | nil => simp [insert, List.lookup_cons, missed]
  | cons entry rest ih =>
    obtain ⟨first, old⟩ := entry
    by_cases same : first = key
    · simp [insert, same, List.lookup_cons, missed]
    · simp [insert, same, List.lookup_cons, ih]

theorem lookup_erase_self (key : κ) (entries : List (κ × α)) :
    (erase key entries).lookup key = none := by
  induction entries with
  | nil => rfl
  | cons entry rest ih =>
    obtain ⟨other, old⟩ := entry
    by_cases same : other = key
    · simpa [erase, same] using ih
    · have missed := beq_eq_false_iff_ne.2 (Ne.symm same)
      simpa [erase, same, List.lookup_cons, missed] using ih

theorem lookup_erase_of_ne {key other : κ} (entries : List (κ × α)) (different : other ≠ key) :
    (erase key entries).lookup other = entries.lookup other := by
  induction entries with
  | nil => rfl
  | cons entry rest ih =>
    obtain ⟨first, old⟩ := entry
    by_cases same : first = key
    · have missed := beq_eq_false_iff_ne.2 different
      simpa [erase, same, List.lookup_cons, missed] using ih
    · by_cases hit : other = first
      · simp [erase, same, hit]
      · have missed := beq_eq_false_iff_ne.2 hit
        simpa [erase, same, List.lookup_cons, missed] using ih

end ClientGen.Ordered
