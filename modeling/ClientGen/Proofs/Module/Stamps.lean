import ClientGen.Module.Timestamp

/-!
Texts without their stamp lines. Lines are independent of each other, so leaving out the stamps of a
text leaves them out of its parts, and a text without a stamp stays as it is. A stamp in the middle
of a text shows in its characters: as the end of a line in front of the mark.
-/
namespace ClientGen.Module

/-- The end of a line and the start of a stamp line behind it. -/
def stampBreak : List Char := '\n' :: stampMark.toList

private theorem flatten_lines (text : List Char) : (lines text).flatten = text := by
  induction text with
  | nil => rfl
  | cons c rest ih =>
    rw [lines]
    split
    · rw [List.flatten_cons, ih, List.singleton_append]
    · split
      next empty =>
        rw [empty, List.flatten_nil] at ih
        rw [← ih]
        rfl
      next line more cut =>
        rw [cut, List.flatten_cons] at ih
        rw [List.flatten_cons, List.cons_append, ih]

/-- The lines of a text up to the end of one, and the lines after it. -/
theorem lines_append (front rest : List Char) :
    lines (front ++ '\n' :: rest) = lines (front ++ ['\n']) ++ lines rest := by
  induction front with
  | nil => simp [lines]
  | cons c more ih =>
    rw [List.cons_append, List.cons_append, lines, lines, ih]
    split
    · rfl
    · cases cut : lines (more ++ ['\n']) with
      | nil =>
        have whole := flatten_lines (more ++ ['\n'])
        rw [cut] at whole
        simp at whole
      | cons line others => rfl

theorem stripStampsChars_append (front rest : List Char) :
    stripStampsChars (front ++ '\n' :: rest) =
      stripStampsChars (front ++ ['\n']) ++ stripStampsChars rest := by
  rw [stripStampsChars, lines_append, List.filter_append, List.flatten_append]
  rfl

/-- A line on its own. -/
theorem lines_line (line : List Char) (single : '\n' ∉ line) :
    lines (line ++ ['\n']) = [line ++ ['\n']] := by
  induction line with
  | nil => rfl
  | cons c more ih =>
    rw [List.mem_cons, not_or] at single
    rw [List.cons_append, lines, if_neg (Ne.symm single.1), ih single.2]

theorem stripStampsChars_line (line rest : List Char) (single : '\n' ∉ line) :
    stripStampsChars (line ++ '\n' :: rest) =
      (if isStamp (line ++ ['\n']) then [] else line ++ ['\n']) ++ stripStampsChars rest := by
  rw [stripStampsChars_append]
  congr 1
  rw [stripStampsChars, lines_line line single]
  cases marked : isStamp (line ++ ['\n']) with
  | false => simp [marked]
  | true => simp [marked]

/-- A line that is a stamp leaves nothing. -/
theorem stripStampsChars_stamp (rest after : List Char) (single : '\n' ∉ rest) :
    stripStampsChars (stampMark.toList ++ rest ++ '\n' :: after) = stripStampsChars after := by
  have marked : isStamp (stampMark.toList ++ rest ++ ['\n']) = true := by
    rw [isStamp, List.isPrefixOf_iff_prefix, List.append_assoc]
    exact List.prefix_append _ _
  have inLine : '\n' ∉ stampMark.toList ++ rest := by
    rw [List.mem_append, not_or]
    exact ⟨by decide, single⟩
  rw [stripStampsChars_line _ _ inLine, if_pos marked, List.nil_append]

/-- Equal texts are equal behind their first lines. -/
theorem rest_eq_of_lines (single : '\n' ∉ one) (otherSingle : '\n' ∉ two)
    (same : one ++ '\n' :: rest = two ++ '\n' :: otherRest) : rest = otherRest := by
  induction one generalizing two with
  | nil =>
    cases two with
    | nil => exact (List.cons.inj same).2
    | cons d more => exact absurd ((List.cons.inj same).1 ▸ List.mem_cons_self) otherSingle
  | cons c others ih =>
    rw [List.mem_cons, not_or] at single
    cases two with
    | nil => exact absurd (List.cons.inj same).1.symm single.1
    | cons d more =>
      rw [List.mem_cons, not_or] at otherSingle
      exact ih single.2 otherSingle.2 (List.cons.inj same).2

/-- A last line that nothing ends. -/
theorem lines_last (line : List Char) (single : '\n' ∉ line) (filled : line ≠ []) :
    lines line = [line] := by
  induction line with
  | nil => exact absurd rfl filled
  | cons c more ih =>
    rw [List.mem_cons, not_or] at single
    rw [lines, if_neg (Ne.symm single.1)]
    cases more with
    | nil => rfl
    | cons d others => rw [ih single.2 (List.cons_ne_nil d others)]

private theorem stripStampsChars_last_stamp (rest : List Char) (single : '\n' ∉ rest) :
    stripStampsChars (stampMark.toList ++ rest) = [] := by
  have marked : isStamp (stampMark.toList ++ rest) = true := by
    rw [isStamp, List.isPrefixOf_iff_prefix]
    exact List.prefix_append _ _
  have inLine : '\n' ∉ stampMark.toList ++ rest := by
    rw [List.mem_append, not_or]
    exact ⟨by decide, single⟩
  have filled : stampMark.toList ++ rest ≠ [] := by simp [stampMark]
  rw [stripStampsChars, lines_last _ inLine filled, List.filter_cons_of_neg (by simp [marked])]
  rfl

/-- What else stands in a stamp line does not matter. -/
theorem stripStampsChars_mark (one two rest : List Char) (single : '\n' ∉ one)
    (otherSingle : '\n' ∉ two) :
    stripStampsChars (stampMark.toList ++ (one ++ rest)) =
      stripStampsChars (stampMark.toList ++ (two ++ rest)) := by
  by_cases ended : '\n' ∈ rest
  · obtain ⟨line, after, rfl, inLine⟩ := List.eq_append_cons_of_mem ended
    have stamp : ∀ start, '\n' ∉ start →
        stripStampsChars (stampMark.toList ++ (start ++ (line ++ '\n' :: after))) =
          stripStampsChars after := by
      intro start free
      have joined : '\n' ∉ start ++ line := by
        rw [List.mem_append, not_or]
        exact ⟨free, inLine⟩
      rw [← List.append_assoc start, ← List.append_assoc]
      exact stripStampsChars_stamp _ after joined
    rw [stamp one single, stamp two otherSingle]
  · have stamp : ∀ start, '\n' ∉ start →
        stripStampsChars (stampMark.toList ++ (start ++ rest)) = [] := by
      intro start free
      apply stripStampsChars_last_stamp
      rw [List.mem_append, not_or]
      exact ⟨free, ended⟩
    rw [stamp one single, stamp two otherSingle]

private theorem prefix_of_lines (cut : lines text = line :: more) : line <+: text := by
  have whole := flatten_lines text
  rw [cut, List.flatten_cons] at whole
  exact ⟨_, whole⟩

private theorem isStamp_eq_false (short : ¬stampMark.toList <+: text) (starts : line <+: text) :
    isStamp line = false := by
  rw [Bool.eq_false_iff]
  intro marked
  exact short ((List.isPrefixOf_iff_prefix.mp marked).trans starts)

/-- Where no stamp breaks into a text, only its first line can be one. -/
private theorem tail_lines_unstamped (text : List Char) (unstamped : ¬stampBreak <:+: text) :
    ∀ line ∈ (lines text).tail, isStamp line = false := by
  induction text with
  | nil =>
    intro line member
    cases member
  | cons c rest ih =>
    have below : ¬stampBreak <:+: rest := fun found => unstamped (List.infix_cons found)
    rw [lines]
    split
    next newline =>
      have short : ¬stampMark.toList <+: rest := by
        intro starts
        apply unstamped
        rw [newline]
        exact ((List.prefix_cons_inj '\n').mpr starts).isInfix
      intro line member
      rw [List.tail_cons] at member
      cases cut : lines rest with
      | nil =>
        rw [cut] at member
        cases member
      | cons first more =>
        rw [cut] at member
        rcases List.mem_cons.mp member with rfl | later
        · exact isStamp_eq_false short (prefix_of_lines cut)
        · exact ih below line (by rw [cut]; exact later)
    next inLine =>
      cases cut : lines rest with
      | nil =>
        intro line member
        cases member
      | cons first more =>
        intro line member
        exact ih below line (by rw [cut]; exact member)

/-- A text in which no line is a stamp stays as it is. -/
theorem stripStampsChars_eq (text : List Char) (first : ¬stampMark.toList <+: text)
    (unstamped : ¬stampBreak <:+: text) : stripStampsChars text = text := by
  have others := tail_lines_unstamped text unstamped
  have all : ∀ line ∈ lines text, (!isStamp line) = true := by
    intro line member
    rw [Bool.not_eq_true']
    cases cut : lines text with
    | nil =>
      rw [cut] at member
      cases member
    | cons start more =>
      rw [cut] at member others
      rcases List.mem_cons.mp member with rfl | later
      · exact isStamp_eq_false first (prefix_of_lines cut)
      · exact others line later
  rw [stripStampsChars, List.filter_eq_self.mpr all, flatten_lines]

/-- No digit is the end of a line. -/
private theorem newline_not_mem_digits (n : Nat) : '\n' ∉ Nat.toDigits 10 n := by
  intro member
  have digit := Nat.isDigit_of_mem_toDigits (by decide) (by decide) member
  cases digit

private theorem newline_not_mem_padded (width n : Nat) : '\n' ∉ paddedChars width n := by
  intro member
  rcases List.mem_append.mp member with zero | digit
  · have same := List.eq_of_mem_replicate zero
    cases same
  · exact newline_not_mem_digits n digit

/-- A stamp is one line, whatever the time. -/
theorem newline_not_mem_stampChars (seconds : Int) : '\n' ∉ stampChars seconds := by
  have year : ∀ year, '\n' ∉ yearChars year := by
    intro year
    unfold yearChars
    split
    · exact newline_not_mem_padded _ _
    · rw [List.mem_cons, not_or]
      refine ⟨?_, newline_not_mem_padded _ _⟩
      split <;> decide
  simp only [stampChars, List.mem_append, List.mem_cons, List.not_mem_nil, or_false, not_or]
  simp [year, newline_not_mem_padded]

theorem stampLine_toList (seconds : Int) :
    (stampLine seconds).toList = stampMark.toList ++ stampChars seconds ++ ['\n'] := by
  rw [stampLine, String.toList_append, String.toList_append, String.toList_ofList]
  rfl

end ClientGen.Module
