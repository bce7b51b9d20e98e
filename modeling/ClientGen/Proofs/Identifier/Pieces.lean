import ClientGen.Identifier
import ClientGen.Proofs.Text.CaseMapping
import ClientGen.Proofs.Text.Split

/-!
Names as their pieces. Separators cut a name into pieces and are gone after that, so the forms of a
name come from its non-empty pieces alone: joining names by separators joins their Pascal forms, and
a Pascal form, which is a single piece with a capital in front, is its own Pascal form.
-/
namespace ClientGen.Identifier
open Text

theorem filled_of_mem_pieces (member : piece ∈ pieces name) : piece ≠ [] := by
  have filled := (List.mem_filter.mp member).2
  simpa using filled

private theorem separator_not_mem_pieces (member : piece ∈ pieces name) :
    ∀ c ∈ piece, isSeparator c = false :=
  separator_not_mem_split isSeparator name piece (List.mem_filter.mp member).1

/-- Pieces before and after a separator. -/
theorem pieces_append (front back : List Char) (separates : isSeparator c = true) :
    pieces (front ++ c :: back) = pieces front ++ pieces back := by
  rw [pieces, split_append isSeparator front back separates, List.filter_append]
  rfl

/-- Separators in front of a name are no pieces of it. -/
theorem pieces_separators_append (separate : ∀ c ∈ separators, isSeparator c = true)
    (name : List Char) : pieces (separators ++ name) = pieces name := by
  induction separators with
  | nil => rfl
  | cons c rest ih =>
    rw [List.forall_mem_cons] at separate
    have first : pieces (c :: (rest ++ name)) = pieces [] ++ pieces (rest ++ name) :=
      pieces_append [] (rest ++ name) separate.1
    rw [List.cons_append, first, ih separate.2]
    rfl

/-- Names joined by separators have the pieces of both. -/
theorem pieces_joined (filled : separators ≠ []) (separate : ∀ c ∈ separators, isSeparator c = true)
    (front back : List Char) :
    pieces (front ++ separators ++ back) = pieces front ++ pieces back := by
  cases separators with
  | nil => exact absurd rfl filled
  | cons c rest =>
    rw [List.forall_mem_cons] at separate
    rw [List.append_assoc, List.cons_append, pieces_append front (rest ++ back) separate.1,
      pieces_separators_append separate.2]

/-- A text without separators is its only piece. -/
theorem pieces_free (filled : text ≠ []) (free : ∀ c ∈ text, isSeparator c = false) :
    pieces text = [text] := by
  rw [pieces, split_free isSeparator text free]
  simpa using filled

section Canonical

private theorem isSeparator_of_isAlphanumeric (c : Char) (plain : isAlphanumeric c = true) :
    isSeparator c = false := by
  have apart : ∀ d, isAlphanumeric d = false → c ≠ d := by
    rintro d other rfl
    rw [plain] at other
    cases other
  simp [isSeparator, apart '-', apart '_', apart '/', apart ':', isAlphanumeric]

/-- A name in Pascal form already has no separators and starts with a capital. -/
theorem free_of_isCanonical (canonical : isCanonical name = true) :
    (∀ c ∈ name, isSeparator c = false) ∧ upperFirst name = name ∧ name ≠ [] := by
  cases name with
  | nil => cases canonical
  | cons first rest =>
    rw [isCanonical, Bool.and_eq_true, List.all_eq_true] at canonical
    obtain ⟨capital, others⟩ := canonical
    have plain : isAlphanumeric first = true := by
      change (first.isUpper || first.isLower || first.isDigit) = true
      rw [capital, Bool.true_or, Bool.true_or]
    refine ⟨List.forall_mem_cons.mpr ⟨isSeparator_of_isAlphanumeric first plain, ?_⟩, ?_, by simp⟩
    · exact fun c member => isSeparator_of_isAlphanumeric c (others c member)
    · rw [upperFirst, upperCase_of_isUpper capital]
      rfl

/-- A name that is in Pascal form already is taken as it is, which is what its pieces give. -/
theorem pascalChars_eq (name : List Char) :
    pascalChars name = (pieces name).flatMap upperFirst := by
  unfold pascalChars
  split
  next canonical =>
    obtain ⟨free, capital, filled⟩ := free_of_isCanonical canonical
    rw [pieces_free filled free, List.flatMap_singleton, capital]
  next => rfl

end Canonical

theorem head?_append_filled {front : List Char} (filled : front ≠ []) (rest : List Char) :
    (front ++ rest).head? = front.head? := by
  cases front with
  | nil => exact absurd rfl filled
  | cons c more => rfl

/-- What a Pascal form starts with. -/
theorem head?_pascalChars (head : (pascalChars name).head? = some c) :
    ∃ first, (upperCase first).head? = some c := by
  rw [pascalChars_eq] at head
  cases cut : pieces name with
  | nil =>
    rw [cut] at head
    cases head
  | cons piece more =>
    have filled := filled_of_mem_pieces (cut ▸ List.mem_cons_self : piece ∈ pieces name)
    rw [cut, List.flatMap_cons] at head
    cases piece with
    | nil => exact absurd rfl filled
    | cons first rest =>
      rw [upperFirst, List.append_assoc, head?_append_filled (upperCase_ne_nil first)] at head
      exact ⟨first, head⟩

theorem caseless_of_isSeparator (separates : isSeparator c = true) : c.toNat ∈ caselessCodes := by
  have either : ((c = '-' ∨ c = '_') ∨ c = '/') ∨ c = ':' := by simpa [isSeparator] using separates
  rcases either with ((rfl | rfl) | rfl) | rfl <;> decide

/-- A Pascal form holds no separator. -/
theorem separator_not_mem_pascalChars (member : c ∈ pascalChars name) : isSeparator c = false := by
  rw [pascalChars_eq] at member
  obtain ⟨piece, listed, inPiece⟩ := List.mem_flatMap.mp member
  have free := separator_not_mem_pieces listed
  cases piece with
  | nil => cases inPiece
  | cons first rest =>
    rcases List.mem_append.mp inPiece with raised | later
    · -- no upper case brings a separator in
      rw [Bool.eq_false_iff]
      intro separates
      have same := eq_of_mem_upperCase (caseless_of_isSeparator separates) raised
      rw [same, free first List.mem_cons_self] at separates
      cases separates
    · exact free c (List.mem_cons_of_mem _ later)

private theorem upperFirst_pascalChars (name : List Char) :
    upperFirst (pascalChars name) = pascalChars name := by
  cases form : pascalChars name with
  | nil => rfl
  | cons c rest =>
    have starts : (pascalChars name).head? = some c := by rw [form]; rfl
    obtain ⟨first, raised⟩ := head?_pascalChars starts
    rw [upperFirst, upperCase_of_head? raised]
    rfl

/-- A Pascal form is its own Pascal form. -/
theorem pascalChars_pascalChars (name : List Char) :
    pascalChars (pascalChars name) = pascalChars name := by
  by_cases empty : pascalChars name = []
  · rw [empty]
    rfl
  · rw [pascalChars_eq (pascalChars name),
      pieces_free empty fun c => separator_not_mem_pascalChars, List.flatMap_singleton,
      upperFirst_pascalChars]

/-- Joining names by separators joins their Pascal forms, which hold no separators and are their own
Pascal forms. The forms of a name come from its non-empty pieces alone, also where the name is in
Pascal form already and is taken as it is. -/
theorem pascal_joins_pieces (name separators other : String) :
    (separators ≠ "" → (∀ c ∈ separators.toList, c ∈ ['-', '_', '/', ':']) →
        pascal (name ++ separators ++ other) = pascal name ++ pascal other) ∧
      (∀ c ∈ (pascal name).toList, c ∉ ['-', '_', '/', ':']) ∧
      pascal (pascal name) = pascal name ∧
      pascal name = String.ofList ((pieces name.toList).flatMap upperFirst) ∧
      (pieces name.toList = pieces other.toList →
        pascal name = pascal other ∧ camel name = camel other) := by
  have separator : ∀ c, c ∈ ['-', '_', '/', ':'] ↔ isSeparator c = true := by
    simp [isSeparator, or_assoc]
  refine ⟨?_, ?_, ?_, congrArg String.ofList (pascalChars_eq _), ?_⟩
  · intro filled separate
    have listed : separators.toList ≠ [] := by simpa using filled
    have joined := pieces_joined listed (fun c member => (separator c).mp (separate c member))
      name.toList other.toList
    simp only [pascal, pascalChars_eq, String.toList_append, joined, List.flatMap_append,
      String.ofList_append]
  · intro c member
    rw [pascal, String.toList_ofList] at member
    rw [separator, separator_not_mem_pascalChars member]
    exact Bool.false_ne_true
  · rw [pascal, pascal, String.toList_ofList, pascalChars_pascalChars]
  · intro same
    have forms : pascalChars name.toList = pascalChars other.toList := by
      rw [pascalChars_eq, pascalChars_eq, same]
    exact ⟨congrArg String.ofList forms, congrArg (String.ofList <| lowerFirst ·) forms⟩

/-- Two spellings of a name with the same pieces, the first of which grows when it is capitalised,
joined by a run of separators. -/
theorem pascal_joins_pieces_spellings :
    (("/:" ≠ "" ∧ ∀ c ∈ "/:".toList, c ∈ ['-', '_', '/', ':']) ∧
        pieces "ß-id".toList = pieces "_ß::id".toList) ∧
      pascal ("ß-id" ++ "/:" ++ "_ß::id") = pascal "ß-id" ++ pascal "_ß::id" ∧
      (pascal "ß-id" = pascal "_ß::id" ∧ camel "ß-id" = camel "_ß::id") ∧
      pascal "ß-id" = "SSId" := by
  have filled : "/:" ≠ "" := by decide
  have separate : ∀ c ∈ "/:".toList, c ∈ ['-', '_', '/', ':'] := by
    intro c member
    have either : c = '/' ∨ c = ':' := by simpa using member
    rcases either with rfl | rfl <;> decide
  have same : pieces "ß-id".toList = pieces "_ß::id".toList := by decide
  have joins := pascal_joins_pieces "ß-id" "/:" "_ß::id"
  exact ⟨⟨⟨filled, separate⟩, same⟩, joins.1 filled separate, joins.2.2.2.2 same,
    by decide +kernel⟩

end ClientGen.Identifier
