import ClientGen.Proofs.Json.Strings
import ClientGen.Proofs.Json.Written

/-!
The tokens of JSON text under the readers that pass over them: blanks, numbers of any size and
strings with any code units. Each token as it may be written is passed over up to what follows it.
-/
namespace ClientGen.Json

/-- What follows where a value ends: nothing, a blank, a comma or a closing bracket. -/
def Ends (rest : List Char) : Prop :=
  ∀ c ∈ rest.head?, c ∈ [' ', '\n', '\t', '\r', ',', ']', '\x7d']

theorem ends_nil : Ends [] := by
  rintro c ⟨⟩

theorem Ends.blanks (blanks : Blanks) {rest : List Char} (ends : Ends rest) :
    Ends (blanks.chars ++ rest) := by
  obtain ⟨chars, blank⟩ := blanks
  cases chars with
  | nil => exact ends
  | cons c more =>
    have space := blank c List.mem_cons_self
    simp only [Cursor.isSpace, Bool.or_eq_true, beq_iff_eq] at space
    intro first head
    obtain rfl : c = first := by simpa using head
    rcases space with ((rfl | rfl) | rfl) | rfl <;> decide

section Spans

theorem span_append (keep : Char → Bool) (taken rest : List Char)
    (all : ∀ c ∈ taken, keep c = true) (stops : ∀ c ∈ rest.head?, keep c = false)
    (position : Position) : ∃ after,
      Cursor.span keep ⟨taken ++ rest, position⟩ = (taken, ⟨rest, after⟩) := by
  change ∃ after, Cursor.spanFrom keep (taken ++ rest) position = (taken, ⟨rest, after⟩)
  induction taken generalizing position with
  | nil =>
    refine ⟨position, ?_⟩
    cases rest with
    | nil => rfl
    | cons c more =>
      have stop : keep c = false := stops c rfl
      simp [Cursor.spanFrom, stop]
  | cons c more ih =>
    obtain ⟨first, others⟩ := List.forall_mem_cons.mp all
    obtain ⟨after, spanned⟩ := ih others (position.after c)
    exact ⟨after, by simp [Cursor.spanFrom, first, spanned]⟩

/-- Blanks are skipped up to what is no blank. -/
theorem skipSpace_blanks (blanks : Blanks) (rest : List Char)
    (solid : ∀ c ∈ rest.head?, Cursor.isSpace c = false) (position : Position) : ∃ after,
      Cursor.skipSpace ⟨blanks.chars ++ rest, position⟩ = ⟨rest, after⟩ := by
  obtain ⟨after, spanned⟩ :=
    span_append Cursor.isSpace blanks.chars rest blanks.blank solid position
  exact ⟨after, congrArg Prod.snd spanned⟩

/-- Blanks are skipped up to a character that is none. -/
theorem skipSpace_to (blanks : Blanks) {c : Char} (solid : Cursor.isSpace c = false)
    (rest : List Char) (position : Position) : ∃ after,
      Cursor.skipSpace ⟨blanks.chars ++ c :: rest, position⟩ = ⟨c :: rest, after⟩ := by
  refine skipSpace_blanks blanks (c :: rest) ?_ position
  rintro d ⟨⟩
  exact solid

theorem readDigits_append {digits : List Char} (all : ∀ c ∈ digits, c.isDigit = true)
    {rest : List Char} (stops : ∀ c ∈ rest.head?, c.isDigit = false) (position : Position) :
    ∃ after, readDigits ⟨digits ++ rest, position⟩ = (digits.map digitValue, ⟨rest, after⟩) := by
  obtain ⟨after, spanned⟩ := span_append Char.isDigit digits rest all stops position
  exact ⟨after, by rw [readDigits, spanned]⟩

end Spans

section Numbers

/-- No character that a number goes on with. -/
def NumberEnds (rest : List Char) : Prop :=
  ∀ c ∈ rest.head?, c.isDigit = false ∧ c ≠ '.' ∧ c ≠ 'e' ∧ c ≠ 'E'

theorem Ends.number {rest : List Char} (ends : Ends rest) : NumberEnds rest := by
  intro c head
  have listed := ends c head
  simp only [List.mem_cons, List.not_mem_nil, or_false] at listed
  rcases listed with rfl | rfl | rfl | rfl | rfl | rfl | rfl <;>
    exact ⟨rfl, by decide, by decide, by decide⟩

private theorem isDigit_false {rest : List Char} (ends : NumberEnds rest) :
    ∀ c ∈ rest.head?, c.isDigit = false := fun c head => (ends c head).1

private theorem skipWhole_text {front : List Char} (whole : WholeText front) {rest : List Char}
    (stops : ∀ c ∈ rest.head?, c.isDigit = false) (position : Position) :
    ∃ after, skipWhole ⟨front ++ rest, position⟩ = .ok ⟨rest, after⟩ := by
  cases whole with
  | zero =>
    refine ⟨position.after '0', ?_⟩
    have next : (Cursor.mk rest (position.after '0')).peek?.any Char.isDigit = false := by
      cases rest with
      | nil => rfl
      | cons c more => exact stops c rfl
    change (if (Cursor.mk rest (position.after '0')).peek?.any Char.isDigit then _ else _) = _
    rw [next]
    rfl
  | @digits first more leads follow =>
    have all : ∀ c ∈ first :: more, c.isDigit = true := List.forall_mem_cons.mpr ⟨leads.1, follow⟩
    obtain ⟨after, read⟩ := readDigits_append all stops position
    refine ⟨after, ?_⟩
    unfold skipWhole
    dsimp only [Cursor.peek?, List.cons_append, List.head?_cons] at read ⊢
    split
    next same => exact absurd (Option.some.inj same) leads.2
    next same =>
      cases same
      rw [if_pos leads.1, read]
    next none => cases none

theorem skipFraction_text {middle : List Char} (fraction : FractionText middle) {rest : List Char}
    (stops : ∀ c ∈ rest.head?, c.isDigit = false ∧ c ≠ '.') (position : Position) :
    ∃ after, skipFraction ⟨middle ++ rest, position⟩ = .ok ⟨rest, after⟩ := by
  cases fraction with
  | absent =>
    refine ⟨position, ?_⟩
    have next : (Cursor.mk rest position).peek? ≠ some '.' := by
      intro head
      exact (stops '.' head).2 rfl
    exact if_neg next
  | digits digits =>
    rename_i chars
    obtain ⟨after, read⟩ := readDigits_append digits.2 (fun c head => (stops c head).1)
      (position.after '.')
    refine ⟨after, ?_⟩
    have filled : chars.map digitValue ≠ [] := by simpa using digits.1
    have opened : skipFraction ⟨'.' :: chars ++ rest, position⟩ =
        if (readDigits ⟨chars ++ rest, position.after '.'⟩).1 = [] then
          (readDigits ⟨chars ++ rest, position.after '.'⟩).2.ahead .invalidNumber
        else .ok (readDigits ⟨chars ++ rest, position.after '.'⟩).2 := rfl
    rw [opened, read, if_neg filled]

private theorem skipExponent_text {sign digits : List Char}
    (signs : sign = [] ∨ sign = ['+'] ∨ sign = ['-']) (all : IsDigits digits) {rest : List Char}
    (stops : ∀ c ∈ rest.head?, c.isDigit = false) (position : Position) :
    ∃ after, skipExponent ⟨sign ++ digits ++ rest, position⟩ = .ok ⟨rest, after⟩ := by
  obtain ⟨first, more, rfl⟩ := List.exists_cons_of_ne_nil all.1
  have leads : first.isDigit = true := all.2 first List.mem_cons_self
  have signed : ∃ between, (readExponentSign ⟨sign ++ (first :: more) ++ rest, position⟩).2 =
      ⟨first :: more ++ rest, between⟩ := by
    rcases signs with rfl | rfl | rfl
    · refine ⟨position, ?_⟩
      unfold readExponentSign
      dsimp only [Cursor.peek?, List.nil_append, List.cons_append, List.head?_cons]
      split
      next same =>
        cases same
        exact absurd leads (by decide)
      next same =>
        cases same
        exact absurd leads (by decide)
      next => rfl
    · exact ⟨position.after '+', rfl⟩
    · exact ⟨position.after '-', rfl⟩
  obtain ⟨between, signed⟩ := signed
  obtain ⟨after, read⟩ := readDigits_append all.2 stops between
  refine ⟨after, ?_⟩
  have digit : (Cursor.mk (first :: more ++ rest) between).peek?.any Char.isDigit = true := leads
  rw [skipExponent, signed, if_pos digit, read]

theorem skipUnsigned_text {chars : List Char} (number : UnsignedText chars) {rest : List Char}
    (ends : NumberEnds rest) (position : Position) :
    ∃ after, skipUnsigned ⟨chars ++ rest, position⟩ = .ok ⟨rest, after⟩ := by
  obtain @⟨front, middle, back, whole, fraction, exponent⟩ := number
  have third : ∀ c ∈ (back ++ rest).head?, c.isDigit = false ∧ c ≠ '.' := by
    cases exponent with
    | absent => exact fun c head => ⟨(ends c head).1, (ends c head).2.1⟩
    | digits marks signs digits =>
      intro c head
      obtain rfl : _ = c := Option.some.inj head
      rcases marks with rfl | rfl <;> decide
  have second : ∀ c ∈ (middle ++ (back ++ rest)).head?, c.isDigit = false := by
    cases fraction with
    | absent => exact fun c head => (third c head).1
    | digits digits =>
      intro c head
      obtain rfl : '.' = c := Option.some.inj head
      rfl
  obtain ⟨one, wholeSkipped⟩ := skipWhole_text whole second position
  obtain ⟨two, fractionSkipped⟩ := skipFraction_text fraction third one
  have opened : skipUnsigned ⟨front ++ (middle ++ (back ++ rest)), position⟩ =
      if (Cursor.mk (back ++ rest) two).peek? = some 'e' ∨
          (Cursor.mk (back ++ rest) two).peek? = some 'E' then
        skipExponent (Cursor.mk (back ++ rest) two).next
      else .ok ⟨back ++ rest, two⟩ := by
    simp only [skipUnsigned, wholeSkipped, fractionSkipped, bind, Except.bind]
  rw [List.append_assoc, List.append_assoc, opened]
  cases exponent with
  | absent =>
    refine ⟨two, if_neg ?_⟩
    rintro (head | head)
    · exact (ends 'e' head).2.2.1 rfl
    · exact (ends 'E' head).2.2.2 rfl
  | @digits sign chars marker marks signs digits =>
    have marked : (Cursor.mk (marker :: (sign ++ chars) ++ rest) two).peek? = some 'e' ∨
        (Cursor.mk (marker :: (sign ++ chars) ++ rest) two).peek? = some 'E' :=
      marks.imp (congrArg some) (congrArg some)
    rw [if_pos marked]
    exact skipExponent_text signs digits (isDigit_false ends) (two.after marker)

end Numbers

section Strings

private theorem skipStringFrom_escape {marked rest : List Char} {position after : Position}
    (escape : skipEscape ⟨marked ++ rest, position.after '\\'⟩ = .ok ⟨rest, after⟩) (fuel : Nat) :
    skipStringFrom (fuel + 1) ⟨'\\' :: marked ++ rest, position⟩ =
      skipStringFrom fuel ⟨rest, after⟩ := by
  have opened : skipStringFrom (fuel + 1) ⟨'\\' :: marked ++ rest, position⟩ =
      skipEscape ⟨marked ++ rest, position.after '\\'⟩ >>= skipStringFrom fuel := rfl
  rw [opened, escape]
  rfl

/-- Every piece of a string is passed over in one step. -/
theorem skipStringFrom_piece (piece : Piece) (fuel : Nat) (rest : List Char)
    (position : Position) : ∃ after,
      skipStringFrom (fuel + 1) ⟨piece.chars ++ rest, position⟩ =
        skipStringFrom fuel ⟨rest, after⟩ := by
  cases piece with
  | plain c isPlain =>
    obtain ⟨quote, backslash, visible⟩ := isPlain
    refine ⟨position.after c, ?_⟩
    rw [Piece.chars, List.singleton_append, skipStringFrom.eq_def]
    dsimp only [Cursor.peek?, List.head?_cons, Cursor.next]
    split
    next none => cases none
    next same => exact absurd (Option.some.inj same) quote
    next same => exact absurd (Option.some.inj same) backslash
    next same =>
      cases same
      rw [if_neg (Nat.not_lt.mpr visible)]
  | escape letter meant known =>
    refine ⟨(position.after '\\').after letter, skipStringFrom_escape ?_ fuel⟩
    rw [List.singleton_append, skipEscape]
    dsimp only [Cursor.peek?, List.head?_cons]
    split
    next none => cases none
    next same =>
      cases same
      cases known
    next same =>
      cases same
      rw [known]
      rfl
  | unit x y z w code digits =>
    obtain ⟨after, read⟩ := readHex_digits digits rest ((position.after '\\').after 'u')
    refine ⟨after, skipStringFrom_escape ?_ fuel⟩
    change (readHex ⟨x :: y :: z :: w :: rest, (position.after '\\').after 'u'⟩ >>= fun found =>
      .ok found.2) = _
    rw [read]
    rfl

theorem Piece.chars_ne_nil (piece : Piece) : piece.chars ≠ [] := by
  cases piece <;> exact List.cons_ne_nil _ _

private theorem skipStringFrom_pieces (pieces : List Piece) (rest : List Char) {fuel : Nat}
    (enough : pieces.length < fuel) (position : Position) : ∃ after,
      skipStringFrom fuel ⟨pieces.flatMap Piece.chars ++ '"' :: rest, position⟩ =
        .ok ⟨rest, after⟩ := by
  induction pieces generalizing fuel position with
  | nil =>
    obtain ⟨fuel, rfl⟩ := Nat.exists_eq_succ_of_ne_zero (Nat.ne_of_gt enough)
    exact ⟨position.after '"', rfl⟩
  | cons piece more ih =>
    obtain ⟨fuel, rfl⟩ := Nat.exists_eq_succ_of_ne_zero (Nat.ne_of_gt (Nat.zero_lt_of_lt enough))
    obtain ⟨between, first⟩ := skipStringFrom_piece piece fuel
      (more.flatMap Piece.chars ++ '"' :: rest) position
    rw [List.flatMap_cons, List.append_assoc, first]
    exact ih (Nat.lt_of_succ_lt_succ enough) between

theorem skipString_pieces (pieces : List Piece) (rest : List Char) (position : Position) :
    ∃ after, skipString ⟨pieces.flatMap Piece.chars ++ '"' :: rest, position⟩ =
      .ok ⟨rest, after⟩ := by
  have shorter := length_le_flatMap Piece.chars_ne_nil pieces
  refine skipStringFrom_pieces pieces rest ?_ position
  rw [List.length_append]
  omega

end Strings

end ClientGen.Json
