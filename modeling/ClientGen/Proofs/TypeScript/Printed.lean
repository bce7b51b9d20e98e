import ClientGen.TypeScript.Literal

/-!
Printed values and literals. Whatever the text of a string or of a property name is, what is printed
for it holds no control character, so it stands on one line; and a printed value never starts with a
slash.
-/
namespace ClientGen
open Json Decimal

namespace Decimal

/-- Whether a character can stand in a printed number. -/
def isNumeric (c : Char) : Bool := c.isDigit || ['-', '+', 'e', '.'].contains c

private theorem all_numeric_digits (n : Nat) : (Nat.toDigits 10 n).all isNumeric = true := by
  rw [List.all_eq_true]
  intro c member
  rw [isNumeric, Nat.isDigit_of_mem_toDigits (by decide) (by decide) member, Bool.true_or]

private theorem all_numeric_zeros (count : Nat) : (zeros count).all isNumeric = true := by
  rw [List.all_eq_true]
  intro c member
  rw [List.eq_of_mem_replicate member]
  rfl

private theorem all_take_drop {digits : List Char} (count : Nat) (each : digits.all isNumeric = true) :
    (digits.take count).all isNumeric = true ∧ (digits.drop count).all isNumeric = true := by
  rw [List.all_eq_true] at each
  rw [List.all_eq_true, List.all_eq_true]
  exact ⟨fun c member => each c (List.mem_of_mem_take member),
    fun c member => each c (List.mem_of_mem_drop member)⟩

private theorem all_numeric_positionalText {digits : List Char} (exponent : Int)
    (each : digits.all isNumeric = true) :
    (positionalText digits exponent).all isNumeric = true := by
  have point : isNumeric '.' = true := rfl
  have zero : isNumeric '0' = true := rfl
  unfold positionalText
  split
  · rw [List.all_append, List.all_append, each, all_numeric_zeros]
    rfl
  · dsimp only
    split
    · obtain ⟨front, back⟩ := all_take_drop (digits.length - exponent.natAbs) each
      rw [List.all_append, List.all_cons, front, point, back]
      rfl
    · rw [List.all_append, List.all_cons, List.all_cons, zero, point, all_numeric_zeros, each]
      rfl

private theorem all_numeric_scientificText {digits : List Char} (leading : Int)
    (each : digits.all isNumeric = true) : (scientificText digits leading).all isNumeric = true := by
  have sign : isNumeric (if leading < 0 then '-' else '+') = true := by
    split
    · rfl
    · rfl
  unfold scientificText
  dsimp only
  rw [List.all_append, List.all_cons, List.all_cons, sign, all_numeric_digits, Bool.and_eq_true]
  refine ⟨?_, rfl⟩
  match digits with
  | [] => rfl
  | [d] => exact each
  | d :: e :: rest =>
    rw [List.all_cons, Bool.and_eq_true] at each
    rw [List.all_cons, List.all_cons, each.1, each.2]
    rfl

private theorem all_numeric_text (layout : Layout) (negative : Bool) (x : Binary64) :
    (x.text layout negative).all isNumeric = true := by
  have sign : (if negative then ['-'] else []).all isNumeric = true := by
    cases negative with
    | false => rfl
    | true => rfl
  unfold Binary64.text
  dsimp only
  split
  · rw [List.all_append, sign]
    rfl
  · rw [List.all_append, sign, Bool.true_and]
    split
    · exact all_numeric_positionalText _ (all_numeric_digits _)
    · exact all_numeric_scientificText _ (all_numeric_digits _)

end Decimal

/-- Whether a character is no control character. -/
def isPrinted (c : Char) : Bool := decide (0x20 ≤ c.toNat)

theorem newline_not_mem_printed {text : List Char} (printed : text.all isPrinted = true) : '\n' ∉ text := by
  intro member
  have visible := List.all_eq_true.mp printed '\n' member
  cases visible

namespace Json

theorem all_numeric_number (layout : Layout) (n : Number) :
    (n.chars layout).all isNumeric = true := by
  cases n with
  | natural n => exact all_numeric_digits n
  | negative n =>
    rw [Number.chars, List.all_cons, all_numeric_digits]
    rfl
  | double isNegative magnitude => exact all_numeric_text layout isNegative magnitude

private theorem isPrinted_of_isNumeric (numeric : isNumeric c = true) : isPrinted c = true := by
  rw [isNumeric, Bool.or_eq_true] at numeric
  rcases numeric with digit | mark
  · rw [Char.isDigit, Bool.and_eq_true, decide_eq_true_eq, decide_eq_true_eq] at digit
    have low : 0x30 ≤ c.toNat := digit.1
    exact decide_eq_true (by omega)
  · have each : ['-', '+', 'e', '.'].all isPrinted = true := rfl
    exact List.all_eq_true.mp each c (List.contains_iff_mem.mp mark)

private theorem all_printed_number (layout : Layout) (n : Number) :
    (n.chars layout).all isPrinted = true := by
  rw [List.all_eq_true]
  intro c member
  exact isPrinted_of_isNumeric (List.all_eq_true.mp (all_numeric_number layout n) c member)

private theorem isPrinted_hexDigit : ∀ n < 16, isPrinted (hexDigit n) = true := by decide

private theorem all_printed_escapedChar (c : Char) : (escapedChar c).all isPrinted = true := by
  unfold escapedChar
  split
  next special =>
    rcases special with rfl | rfl
    · rfl
    · rfl
  iterate 5
    split
    · rfl
  split
  next control =>
    have high := isPrinted_hexDigit (c.toNat / 16) (by omega)
    have low := isPrinted_hexDigit (c.toNat % 16) (by omega)
    rw [controlEscape, List.all_cons, List.all_cons, List.all_cons, List.all_cons, List.all_cons,
      List.all_cons, high, low]
    rfl
  next visible =>
    rw [List.all_cons, isPrinted, decide_eq_true (Nat.le_of_not_lt visible)]
    rfl

theorem all_printed_stringChars (text : List Char) : (stringChars text).all isPrinted = true := by
  rw [stringChars, List.cons_append, List.all_cons, List.all_append, List.all_flatMap]
  have inside : text.all (fun c => (escapedChar c).all isPrinted) = true :=
    List.all_eq_true.mpr fun c _ => all_printed_escapedChar c
  rw [inside]
  rfl

end Json

section Values

private theorem all_printed_pairs {one two : List Char} (first : one.all isPrinted = true)
    (second : two.all isPrinted = true) : (one ++ two).all isPrinted = true := by
  rw [List.all_append, first, second]
  rfl

mutual
/-- A printed value holds no control character. -/
theorem all_printed_value : (value : Value) → value.chars.all isPrinted = true
  | .null => rfl
  | .boolean true => rfl
  | .boolean false => rfl
  | .number n => all_printed_number .data n
  | .string s => all_printed_stringChars s.toList
  | .array items => all_printed_items items
  | .object members => all_printed_members members
private theorem all_printed_items : (items : List Value) → (itemsChars items).all isPrinted = true
  | [] => rfl
  | item :: rest => all_printed_pairs (all_printed_value item) (all_printed_moreItems rest)
private theorem all_printed_moreItems :
    (items : List Value) → (moreItemsChars items).all isPrinted = true
  | [] => rfl
  | item :: rest => all_printed_pairs (all_printed_value item) (all_printed_moreItems rest)
private theorem all_printed_members :
    (members : List (String × Value)) → (membersChars members).all isPrinted = true
  | [] => rfl
  | member :: rest => all_printed_pairs (all_printed_member member) (all_printed_moreMembers rest)
private theorem all_printed_moreMembers :
    (members : List (String × Value)) → (moreMembersChars members).all isPrinted = true
  | [] => rfl
  | member :: rest => all_printed_pairs (all_printed_member member) (all_printed_moreMembers rest)
private theorem all_printed_member :
    (member : String × Value) → (memberChars member).all isPrinted = true
  | (name, value) => all_printed_pairs (all_printed_stringChars name.toList) (all_printed_value value)
end

end Values

/-- A printed number does not start with a slash, as no character of it is one. -/
theorem slash_not_mem_number (layout : Layout) (n : Number) : '/' ∉ n.chars layout := by
  intro member
  have numeric := List.all_eq_true.mp (all_numeric_number layout n) '/' member
  cases numeric

/-- A printed value does not start with a slash. -/
theorem head?_value (value : Value) : value.chars.head? ≠ some '/' := by
  cases value with
  | null => decide
  | boolean b => cases b <;> decide
  | number n =>
    intro starts
    exact slash_not_mem_number .data n (List.mem_of_head? starts)
  | string s => simp [Value.chars, stringChars]
  | array items => simp [Value.chars]
  | object members => simp [Value.chars]

namespace Identifier

theorem isContinuation_of_isPlainChars (plain : isPlainChars name = true)
    (member : c ∈ name) : isContinuation c = true := by
  cases name with
  | nil => cases member
  | cons first more =>
    rw [isPlainChars, Bool.and_eq_true, List.all_eq_true] at plain
    rcases List.mem_cons.mp member with rfl | later
    · have starts := plain.1
      simp only [isStart, Bool.or_eq_true, beq_iff_eq] at starts
      simp only [isContinuation, isAlphanumeric, Bool.or_eq_true, beq_iff_eq]
      rcases starts with (letter | underscore) | dollar
      · exact .inl (.inl (.inl letter))
      · exact .inl (.inr underscore)
      · exact .inr dollar
    · exact plain.2 c later

theorem not_mem_plain (stops : isContinuation c = false) (plain : isPlainChars name = true) :
    c ∉ name := by
  intro member
  rw [isContinuation_of_isPlainChars plain member] at stops
  cases stops

end Identifier

namespace TypeScript

private theorem all_printed_literalChar (c : Char) : (literalChar c).all isPrinted = true := by
  unfold literalChar
  split
  · decide
  · split
    · decide
    · exact all_printed_escapedChar c

/-- A string literal holds no control character, whatever its text is. -/
theorem all_printed_stringLiteral (text : List Char) :
    (stringLiteralChars text).all isPrinted = true := by
  have inside : text.all (fun c => (literalChar c).all isPrinted) = true :=
    List.all_eq_true.mpr fun c _ => all_printed_literalChar c
  rw [stringLiteralChars, List.cons_append, List.all_cons, List.all_append, List.all_flatMap,
    inside]
  rfl

/-- A property name stands on one line. -/
theorem newline_not_mem_propertyKey (name : List Char) : '\n' ∉ propertyKeyChars name := by
  unfold propertyKeyChars
  split
  next plain => exact Identifier.not_mem_plain (by decide) plain
  next => exact newline_not_mem_printed (all_printed_stringLiteral name)

theorem head?_propertyKey (name : List Char) : (propertyKeyChars name).head? ≠ some '/' := by
  unfold propertyKeyChars
  split
  next plain =>
    intro starts
    exact Identifier.not_mem_plain (by decide) plain (List.mem_of_head? starts)
  next => simp [stringLiteralChars]

/-- Access to a property stands on one line. -/
theorem newline_not_mem_propertyAccess (object name : List Char) (single : '\n' ∉ object) :
    '\n' ∉ propertyAccessChars object name := by
  have literal := newline_not_mem_printed (all_printed_stringLiteral name)
  unfold propertyAccessChars
  split
  next plain =>
    have inName := Identifier.not_mem_plain (c := '\n') (by decide) plain
    simp [single, inName]
  next => simp [single, literal]

end TypeScript

end ClientGen
