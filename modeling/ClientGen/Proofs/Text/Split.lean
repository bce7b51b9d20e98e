import ClientGen.Text.Split

/-!
Pieces between separators and runs of characters of one kind. Cutting a text at one of its
separators cuts its pieces into those before and those after, and no piece holds a separator.
-/
namespace ClientGen.Text

section Runs

variable {kind : Char → Bool} {run back : List Char} (each : ∀ c ∈ run, kind c = true)
  (ends : ∀ c, back.head? = some c → kind c = false)
include each ends

theorem takeWhile_run : (run ++ back).takeWhile kind = run := by
  have stops : back.takeWhile kind = [] := by
    cases back with
    | nil => rfl
    | cons c rest => rw [List.takeWhile_cons, ends c rfl]; rfl
  rw [List.takeWhile_append_of_pos each, stops, List.append_nil]

theorem dropWhile_run : (run ++ back).dropWhile kind = back := by
  have whole := List.takeWhile_append_dropWhile (p := kind) (l := run ++ back)
  rw [takeWhile_run each ends] at whole
  exact List.append_cancel_left whole

end Runs

section Pieces

variable (isSeparator : Char → Bool)

theorem split_ne_nil (text : List Char) : split isSeparator text ≠ [] := by
  cases text with
  | nil => exact List.cons_ne_nil _ _
  | cons c rest =>
    rw [split]
    split
    · exact List.cons_ne_nil _ _
    · split
      · exact List.cons_ne_nil _ _
      · exact List.cons_ne_nil _ _

theorem split_append (front back : List Char) (separates : isSeparator c = true) :
    split isSeparator (front ++ c :: back) = split isSeparator front ++ split isSeparator back := by
  induction front with
  | nil => simp [split, separates]
  | cons d rest ih =>
    rw [List.cons_append, split, split, ih]
    split
    · rfl
    · cases pieces : split isSeparator rest with
      | nil => exact absurd pieces (split_ne_nil isSeparator rest)
      | cons piece more => rfl

/-- A text without separators is one piece. -/
theorem split_free (text : List Char) (free : ∀ c ∈ text, isSeparator c = false) :
    split isSeparator text = [text] := by
  induction text with
  | nil => rfl
  | cons c rest ih =>
    rw [List.forall_mem_cons] at free
    rw [split, free.1, ih free.2]
    rfl

theorem separator_not_mem_split (text : List Char) :
    ∀ piece ∈ split isSeparator text, ∀ c ∈ piece, isSeparator c = false := by
  induction text with
  | nil =>
    intro piece member c inPiece
    rw [split, List.mem_singleton] at member
    subst member
    cases inPiece
  | cons d rest ih =>
    rw [split]
    split
    next separates =>
      refine List.forall_mem_cons.mpr ⟨?_, ih⟩
      intro c inPiece
      cases inPiece
    next joins =>
      have plain : isSeparator d = false := Bool.eq_false_iff.mpr joins
      cases cut : split isSeparator rest with
      | nil =>
        intro piece member c inPiece
        rw [List.mem_singleton] at member
        subst member
        rw [List.mem_singleton] at inPiece
        exact inPiece ▸ plain
      | cons first more =>
        rw [cut, List.forall_mem_cons] at ih
        exact List.forall_mem_cons.mpr ⟨List.forall_mem_cons.mpr ⟨plain, ih.1⟩, ih.2⟩

/-- The pieces of a text hold all of it but the separators. -/
theorem flatten_split (text : List Char) :
    (split isSeparator text).flatten = text.filter (!isSeparator ·) := by
  induction text with
  | nil => rfl
  | cons c rest ih =>
    rw [split]
    split
    next separates => simp [separates, ih]
    next joins =>
      cases cut : split isSeparator rest with
      | nil => exact absurd cut (split_ne_nil isSeparator rest)
      | cons piece more =>
        rw [cut, List.flatten_cons] at ih
        simp [joins, ih]

end Pieces

end ClientGen.Text
