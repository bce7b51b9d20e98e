import ClientGen.Proofs.Json.Tokens

/-!
Passing over JSON values. Every value as it may be written is passed over, however deep it nests,
how great its numbers are and what its escapes stand for. This takes fewer steps than twice the
length of the value, and reading goes on in the frame that was open before.
-/
namespace ClientGen.Json

section Heads

def startsValue (c : Char) : Bool := c.isDigit || ['n', 't', 'f', '"', '-', '[', '\x7b'].contains c

theorem UnsignedText.head (number : UnsignedText chars) :
    ∃ c more, chars = c :: more ∧ c.isDigit = true := by
  obtain ⟨whole, fraction, exponent⟩ := number
  cases whole with
  | zero => exact ⟨_, _, rfl, rfl⟩
  | digits leads follow => exact ⟨_, _, rfl, leads.1⟩

theorem ScalarText.head (scalar : ScalarText chars) :
    ∃ c more, chars = c :: more ∧ startsValue c = true := by
  cases scalar with
  | word known =>
    simp only [List.mem_cons, List.not_mem_nil, or_false] at known
    rcases known with rfl | rfl | rfl <;> exact ⟨_, _, rfl, rfl⟩
  | unsigned number =>
    obtain ⟨c, more, rfl, digit⟩ := number.head
    exact ⟨c, more, rfl, Bool.or_eq_true_iff.mpr (.inl digit)⟩
  | negative number => exact ⟨'-', _, rfl, rfl⟩
  | string pieces => exact ⟨'"', _, rfl, rfl⟩

theorem ValueText.head (value : ValueText chars) :
    ∃ c more, chars = c :: more ∧ startsValue c = true := by
  cases value with
  | scalar scalar => exact scalar.head
  | list inside items each => exact ⟨'[', _, rfl, rfl⟩
  | object inside members each => exact ⟨'\x7b', _, rfl, rfl⟩

private theorem ne_of_startsValue {c other : Char} (starts : startsValue c = true)
    (no : startsValue other = false) : c ≠ other := by
  rintro rfl
  rw [no] at starts
  cases starts

theorem isSpace_of_startsValue {c : Char} (starts : startsValue c = true) :
    Cursor.isSpace c = false := by
  refine Bool.eq_false_iff.mpr fun space => ?_
  simp only [Cursor.isSpace, Bool.or_eq_true, beq_iff_eq] at space
  rcases space with ((rfl | rfl) | rfl) | rfl <;> cases starts

end Heads

section Scalars

theorem readWord_append (word rest : List Char) (position : Position) :
    ∃ after, readWord word ⟨word ++ rest, position⟩ = .ok ⟨rest, after⟩ := by
  induction word generalizing position with
  | nil => exact ⟨position, rfl⟩
  | cons c more ih =>
    obtain ⟨after, read⟩ := ih (position.after c)
    have opened : readWord (c :: more) ⟨c :: more ++ rest, position⟩ =
        if c = c then readWord more ⟨more ++ rest, position.after c⟩
        else Cursor.ahead ⟨c :: more ++ rest, position⟩ .expectedWord := rfl
    exact ⟨after, by rw [opened, if_pos rfl, read]⟩

private theorem skipScalar?_digit {first : Char} (digit : first.isDigit = true) (rest : List Char)
    (position : Position) :
    skipScalar? ⟨first :: rest, position⟩ =
      return some (← skipUnsigned ⟨first :: rest, position⟩) := by
  unfold skipScalar?
  dsimp only [Cursor.peek?, List.head?_cons]
  split
  next none => cases none
  iterate 7
    next same =>
      cases same
      cases digit
  next same =>
    cases same
    rw [if_pos digit]

private theorem skipScalar?_text (scalar : ScalarText chars) {rest : List Char} (ends : Ends rest)
    (position : Position) :
    ∃ after, skipScalar? ⟨chars ++ rest, position⟩ = .ok (some ⟨rest, after⟩) := by
  have going {step : Except Fault Cursor} (passed : ∃ after, step = .ok ⟨rest, after⟩) :
      ∃ after, (step >>= fun c => .ok (some c)) = .ok (some ⟨rest, after⟩) := by
    obtain ⟨after, rfl⟩ := passed
    exact ⟨after, rfl⟩
  cases scalar with
  | word known =>
    simp only [List.mem_cons, List.not_mem_nil, or_false] at known
    rcases known with rfl | rfl | rfl
    · exact going (readWord_append ['u', 'l', 'l'] rest (position.after 'n'))
    · exact going (readWord_append ['r', 'u', 'e'] rest (position.after 't'))
    · exact going (readWord_append ['a', 'l', 's', 'e'] rest (position.after 'f'))
  | unsigned number =>
    have passed := skipUnsigned_text number ends.number position
    obtain ⟨first, more, rfl, digit⟩ := number.head
    rw [List.cons_append, skipScalar?_digit digit]
    exact going passed
  | negative number => exact going (skipUnsigned_text number ends.number (position.after '-'))
  | string pieces =>
    rw [quoted_append]
    exact going (skipString_pieces pieces rest (position.after '"'))

end Scalars

section Frames

/-- Reading goes on where a value has ended. -/
def resume (fuel : Nat) (frames : List Frame) (c : Cursor) : Except Fault Cursor :=
  if frames = [] then .ok c else skipFrom fuel (.inside true) frames c

/-- A text that is passed over as a value, in a number of steps. -/
def PassedIn (steps : Nat) (chars : List Char) : Prop :=
  ∀ fuel frames (blanks : Blanks) rest position, Ends rest → ∃ after,
    skipFrom (fuel + steps) .value frames ⟨blanks.chars ++ (chars ++ rest), position⟩ =
      resume fuel frames ⟨rest, after⟩

/-- A text that is passed over as an entry of a frame, in a number of steps. -/
def Frame.PassedIn (frame : Frame) (steps : Nat) (chars : List Char) : Prop :=
  ∀ fuel frames (blanks : Blanks) rest position, Ends rest → ∃ after,
    (enterFrame frame ⟨blanks.chars ++ (chars ++ rest), position⟩ >>=
      skipFrom (fuel + steps) .value (frame :: frames)) =
      skipFrom fuel (.inside true) (frame :: frames) ⟨rest, after⟩

private theorem skipName_label (blanks : Blanks) (label : List Piece) (between : Blanks)
    (rest : List Char) (position : Position) : ∃ after,
      skipName ⟨blanks.chars ++ (quoted label ++ (between.chars ++ ':' :: rest)), position⟩ =
        .ok ⟨rest, after⟩ := by
  obtain ⟨one, front⟩ := skipSpace_to blanks (c := '"') rfl
    (label.flatMap Piece.chars ++ '"' :: (between.chars ++ ':' :: rest)) position
  obtain ⟨two, passed⟩ := skipString_pieces label (between.chars ++ ':' :: rest) (one.after '"')
  obtain ⟨three, back⟩ := skipSpace_to between (c := ':') rfl rest two
  refine ⟨three.after ':', ?_⟩
  have named : skipString (Cursor.next ⟨'"' :: (label.flatMap Piece.chars ++ '"' ::
      (between.chars ++ ':' :: rest)), one⟩) = .ok ⟨between.chars ++ ':' :: rest, two⟩ := passed
  rw [quoted_append]
  simp only [skipName, front, Cursor.peek?, List.head?_cons, named, bind, Except.bind, back]
  rfl

private theorem passedIn_scalar (scalar : ScalarText chars) : PassedIn 1 chars := by
  intro fuel frames blanks rest position ends
  obtain ⟨c, more, rfl, starts⟩ := scalar.head
  obtain ⟨between, skipped⟩ :=
    skipSpace_to blanks (isSpace_of_startsValue starts) (more ++ rest) position
  obtain ⟨after, passed⟩ := skipScalar?_text scalar ends between
  refine ⟨after, ?_⟩
  rw [← List.cons_append] at skipped
  simp only [skipFrom, skipped, passed, bind, Except.bind, resume]

theorem skipFrom_close (fuel : Nat) (afterValue : Bool) (frame : Frame) (frames : List Frame)
    (blanks : Blanks) (rest : List Char) (position : Position) : ∃ after,
      skipFrom (fuel + 1) (.inside afterValue) (frame :: frames)
        ⟨blanks.chars ++ frame.closing :: rest, position⟩ = resume fuel frames ⟨rest, after⟩ := by
  have solid : Cursor.isSpace frame.closing = false := by cases frame <;> rfl
  have comma : ¬(frame.closing = ',' ∧ afterValue = true) := by
    rintro ⟨same, -⟩
    cases frame <;> cases same
  obtain ⟨between, skipped⟩ := skipSpace_to blanks solid rest position
  refine ⟨between.after frame.closing, ?_⟩
  rw [skipFrom, skipped]
  dsimp only [Cursor.peek?, List.head?_cons]
  rw [if_neg comma, if_pos rfl]
  rfl

private theorem skipFrom_comma (fuel : Nat) (frame : Frame) (frames : List Frame) (blanks : Blanks)
    (rest : List Char) (position : Position) : ∃ after,
      skipFrom (fuel + 1) (.inside true) (frame :: frames)
        ⟨blanks.chars ++ ',' :: rest, position⟩ =
        enterFrame frame ⟨rest, after⟩ >>= skipFrom fuel .value (frame :: frames) := by
  obtain ⟨between, skipped⟩ := skipSpace_to blanks (c := ',') rfl rest position
  refine ⟨between.after ',', ?_⟩
  rw [skipFrom, skipped]
  rfl

private theorem skipFrom_first (fuel : Nat) (frame : Frame) (frames : List Frame) (blanks : Blanks)
    {c : Char} (starts : startsValue c = true) (rest : List Char) (position : Position) : ∃ after,
      skipFrom (fuel + 1) (.inside false) (frame :: frames)
        ⟨blanks.chars ++ c :: rest, position⟩ =
        enterFrame frame ⟨c :: rest, after⟩ >>= skipFrom fuel .value (frame :: frames) := by
  have stays : c ≠ frame.closing := by
    cases frame <;> exact ne_of_startsValue starts rfl
  obtain ⟨between, skipped⟩ :=
    skipSpace_to blanks (isSpace_of_startsValue starts) rest position
  refine ⟨between, ?_⟩
  rw [skipFrom, skipped]
  dsimp only [Cursor.peek?, List.head?_cons]
  rw [if_neg (fun both => Bool.noConfusion both.2), if_neg stays]
  rfl

private theorem skipFrom_open (fuel : Nat) (frame : Frame) (frames : List Frame) (blanks : Blanks)
    (rest : List Char) (position : Position) : ∃ after,
      skipFrom (fuel + 1) .value frames ⟨blanks.chars ++ frame.opening :: rest, position⟩ =
        skipFrom fuel (.inside false) (frame :: frames) ⟨rest, after⟩ := by
  have solid : Cursor.isSpace frame.opening = false := by cases frame <;> rfl
  obtain ⟨between, skipped⟩ := skipSpace_to blanks solid rest position
  refine ⟨between.after frame.opening, ?_⟩
  rw [skipFrom, skipped]
  cases frame <;> rfl

theorem Padded.length_core_le (padded : Padded) : padded.core.length ≤ padded.chars.length := by
  simp only [Padded.chars, List.length_append]
  omega

theorem ends_following (frame : Frame) (blanks : Blanks) (entries : List Padded)
    (rest : List Char) : Ends (blanks.chars ++ (further entries ++ frame.closing :: rest)) := by
  refine Ends.blanks blanks ?_
  cases entries with
  | nil => cases frame <;> (rintro c ⟨⟩; decide)
  | cons next more =>
    rintro c ⟨⟩
    decide

/-- The entries that follow a first one are passed over, and the end of their frame. -/
theorem passed_following (frame : Frame) (entries : List Padded)
    (each : ∀ entry ∈ entries, ∃ steps, steps < 2 * entry.core.length ∧
      frame.PassedIn steps entry.core) :
    ∃ steps, steps ≤ 2 * (further entries).length + 1 ∧
      ∀ fuel frames (blanks : Blanks) rest position, ∃ after,
        skipFrom (fuel + steps) (.inside true) (frame :: frames)
          ⟨blanks.chars ++ (further entries ++ frame.closing :: rest), position⟩ =
            resume fuel frames ⟨rest, after⟩ := by
  induction entries with
  | nil =>
    refine ⟨1, Nat.le_refl 1, ?_⟩
    intro fuel frames blanks rest position
    exact skipFrom_close fuel true frame frames blanks rest position
  | cons entry more ih =>
    obtain ⟨⟨own, short, passed⟩, each⟩ := List.forall_mem_cons.mp each
    obtain ⟨others, bound, following⟩ := ih each
    refine ⟨others + own + 1, ?_, ?_⟩
    · have inner := entry.length_core_le
      rw [further_cons, List.length_cons, List.length_append]
      omega
    · intro fuel frames blanks rest position
      have text : further (entry :: more) ++ frame.closing :: rest =
          ',' :: (entry.front.chars ++ (entry.core ++ (entry.back.chars ++
            (further more ++ frame.closing :: rest)))) := by
        simp [further_cons, Padded.chars]
      have ends := ends_following frame entry.back more rest
      obtain ⟨one, comma⟩ := skipFrom_comma (fuel + others + own) frame frames blanks
        (entry.front.chars ++ (entry.core ++ (entry.back.chars ++
          (further more ++ frame.closing :: rest)))) position
      obtain ⟨two, entered⟩ := passed (fuel + others) frames entry.front _ one ends
      obtain ⟨after, closed⟩ := following fuel frames entry.back rest two
      exact ⟨after, by rw [text, ← Nat.add_assoc, ← Nat.add_assoc, comma, entered, closed]⟩

/-- All entries are passed over, and the brackets around them. -/
theorem passed_enclosed (frame : Frame) (inside : Blanks) (entries : List Padded)
    (each : ∀ entry ∈ entries, (∃ c more, entry.core = c :: more ∧ startsValue c = true) ∧
      ∃ steps, steps < 2 * entry.core.length ∧ frame.PassedIn steps entry.core) :
    ∃ steps, steps < 2 * (enclosed frame inside entries).length ∧
      PassedIn steps (enclosed frame inside entries) := by
  cases entries with
  | nil =>
    refine ⟨2, ?_, ?_⟩
    · simp [enclosed, separated]
    · intro fuel frames blanks rest position ends
      have text : enclosed frame inside [] ++ rest =
          frame.opening :: (inside.chars ++ frame.closing :: rest) :=
        enclosed_append frame inside [] rest
      obtain ⟨one, entered⟩ := skipFrom_open (fuel + 1) frame frames blanks
        (inside.chars ++ frame.closing :: rest) position
      obtain ⟨after, closed⟩ := skipFrom_close fuel false frame frames inside rest one
      exact ⟨after, by rw [text, entered, closed]⟩
  | cons entry more =>
    obtain ⟨⟨⟨c, others, core, starts⟩, own, short, passed⟩, each⟩ := List.forall_mem_cons.mp each
    obtain ⟨later, bound, following⟩ :=
      passed_following frame more fun entry listed => (each entry listed).2
    have text (rest : List Char) : enclosed frame inside (entry :: more) ++ rest =
        frame.opening :: ((inside.append entry.front).chars ++ c :: (others ++ (entry.back.chars ++
          (further more ++ frame.closing :: rest)))) := by
      simp [enclosed, separated, Padded.chars, core, Blanks.append]
    refine ⟨later + own + 1 + 1, ?_, ?_⟩
    · have length := congrArg List.length (text [])
      simp only [List.length_append, List.length_cons, List.length_nil, core] at length short
      omega
    · intro fuel frames blanks rest position ends
      obtain ⟨one, entered⟩ := skipFrom_open (fuel + later + own + 1) frame frames blanks
        ((inside.append entry.front).chars ++ c :: (others ++ (entry.back.chars ++
          (further more ++ frame.closing :: rest)))) position
      obtain ⟨two, first⟩ := skipFrom_first (fuel + later + own) frame frames
        (inside.append entry.front) starts (others ++ (entry.back.chars ++
          (further more ++ frame.closing :: rest))) one
      obtain ⟨three, own⟩ := passed (fuel + later) frames .none _ two
        (ends_following frame entry.back more rest)
      obtain ⟨after, closed⟩ := following fuel frames entry.back rest three
      rw [core] at own
      refine ⟨after, ?_⟩
      rw [text, ← Nat.add_assoc, ← Nat.add_assoc, ← Nat.add_assoc, entered, first]
      exact own.trans closed

end Frames

section Values

/-- Every value is passed over. -/
theorem passed_value (value : ValueText chars) :
    ∃ steps, steps < 2 * chars.length ∧ PassedIn steps chars := by
  induction value with
  | @scalar chars scalar =>
    obtain ⟨c, more, text, -⟩ := scalar.head
    refine ⟨1, ?_, passedIn_scalar scalar⟩
    rw [text, List.length_cons]
    omega
  | list inside items each ih =>
    refine passed_enclosed .list inside items fun item listed => ⟨(each item listed).head, ?_⟩
    obtain ⟨steps, short, passed⟩ := ih item listed
    exact ⟨steps, short, fun fuel frames => passed fuel (.list :: frames)⟩
  | object inside members each ih =>
    refine passed_enclosed .object inside _ fun entry listed => ?_
    obtain ⟨member, among, rfl⟩ := List.mem_map.mp listed
    obtain ⟨steps, short, passed⟩ := ih member among
    refine ⟨⟨'"', _, rfl, rfl⟩, steps, ?_, ?_⟩
    · simp only [Member.padded, Member.core, List.length_append, List.length_cons]
      omega
    · intro fuel frames blanks rest position ends
      obtain ⟨between, named⟩ := skipName_label blanks member.label member.after
        (member.front.chars ++ (member.value ++ rest)) position
      obtain ⟨after, done⟩ := passed fuel (.object :: frames) member.front rest between ends
      have text : member.core ++ rest = quoted member.label ++ (member.after.chars ++
          ':' :: (member.front.chars ++ (member.value ++ rest))) := by
        simp [Member.core]
      refine ⟨after, ?_⟩
      rw [Member.padded, text, enterFrame, named]
      exact done

theorem skipValue_value (value : ValueText chars) (blanks : Blanks) {rest : List Char}
    (ends : Ends rest) (position : Position) : ∃ after,
      skipValue ⟨blanks.chars ++ (chars ++ rest), position⟩ = .ok ⟨rest, after⟩ := by
  obtain ⟨steps, short, passed⟩ := passed_value value
  have enough : steps ≤ 2 * (blanks.chars ++ (chars ++ rest)).length + 2 := by
    simp only [List.length_append]
    omega
  obtain ⟨left, fuel⟩ := Nat.exists_eq_add_of_le' enough
  obtain ⟨after, done⟩ := passed left [] blanks rest position ends
  refine ⟨after, ?_⟩
  rw [skipValue, fuel, done]
  rfl

end Values

end ClientGen.Json
