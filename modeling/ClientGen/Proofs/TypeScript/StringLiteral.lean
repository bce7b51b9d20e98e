import ClientGen.Proofs.Json.Strings
import ClientGen.Proofs.Text.LineTerminators
import ClientGen.Proofs.TypeScript.Template

/-!
What string literals stand for. A literal in double quotes is read character by character, with the
escapes of the language by one character and by four hexadecimal digits. The literal that is written
for a text stands for this text, whatever characters it holds, in a script as in JSON, and it ends
where it is meant to end.
-/
namespace ClientGen.TypeScript

/-- The value of a hexadecimal digit in lower case. -/
def hexValue? (c : Char) : Option Nat := (List.range 16).find? (Json.hexDigit · == c)

/-- The character of four hexadecimal digits. Halves of surrogate pairs are not read. -/
def codeUnit? (a b c d : Char) : Option Char := do
  let front := (← hexValue? a) * 16 + (← hexValue? b)
  let code := (front * 16 + (← hexValue? c)) * 16 + (← hexValue? d)
  if code.isValidChar then some (Char.ofNat code) else none

/-- The text of a string literal after its opening quote. -/
def readQuoted : List Char → Option (List Char)
  | [] => none
  | c :: rest =>
    if c = '"' then if rest = [] then some [] else none
    else if c = '\\' then
      match rest with
      | 'u' :: x :: y :: z :: w :: more => return (← codeUnit? x y z w) :: (← readQuoted more)
      | escape :: more => return (← escapeValue? escape) :: (← readQuoted more)
      | [] => none
    else if isPlainQuoted c then (c :: ·) <$> readQuoted rest else none

def literalText? : List Char → Option (List Char)
  | '"' :: rest => readQuoted rest
  | _ => none

private theorem readQuoted_plain {c : Char} (plain : isPlainQuoted c = true) (rest : List Char) :
    readQuoted (c :: rest) = (c :: ·) <$> readQuoted rest := by
  have quote : c ≠ '"' := by rintro rfl; cases plain
  have backslash : c ≠ '\\' := by rintro rfl; cases plain
  rw [readQuoted.eq_def]
  dsimp only
  rw [if_neg quote, if_neg backslash, if_pos plain]

private theorem readQuoted_escape {c value : Char} (known : escapeValue? c = some value)
    (rest : List Char) : readQuoted ('\\' :: c :: rest) = (value :: ·) <$> readQuoted rest := by
  have hex : c ≠ 'u' := by rintro rfl; cases known
  rw [readQuoted.eq_def]
  dsimp only
  rw [if_neg (by decide), if_pos rfl]
  split
  next same =>
    cases same
    exact absurd rfl hex
  next escape more _ same =>
    cases same
    rw [known]
    cases readQuoted rest <;> rfl
  next same => cases same

private theorem readQuoted_codeUnit {x y z w value : Char} (known : codeUnit? x y z w = some value)
    (rest : List Char) :
    readQuoted ('\\' :: 'u' :: x :: y :: z :: w :: rest) = (value :: ·) <$> readQuoted rest := by
  rw [readQuoted, known]
  cases readQuoted rest <;> rfl

private theorem codeUnit?_controlEscape {code : Nat} (control : code < 32) :
    codeUnit? '0' '0' (Json.hexDigit (code / 16)) (Json.hexDigit (code % 16)) =
      some (Char.ofNat code) := by
  revert control
  revert code
  decide +kernel

/-- Each character of a text is read from what is written for it. -/
theorem readQuoted_escapedChar (c : Char) (rest : List Char) :
    readQuoted (Json.escapedChar c ++ rest) = (c :: ·) <$> readQuoted rest := by
  unfold Json.escapedChar
  split
  next special =>
    rcases special with rfl | rfl <;> exact readQuoted_escape rfl rest
  next special =>
  split
  next same => exact same ▸ readQuoted_escape rfl rest
  split
  next same => exact same ▸ readQuoted_escape rfl rest
  split
  next same => exact same ▸ readQuoted_escape rfl rest
  next feed =>
  split
  next same => exact same ▸ readQuoted_escape rfl rest
  next carriage =>
  split
  next same => exact same ▸ readQuoted_escape rfl rest
  split
  next control =>
    have known := codeUnit?_controlEscape control
    rw [Char.ofNat_toNat] at known
    exact readQuoted_codeUnit known rest
  next printed =>
    rw [not_or] at special
    exact readQuoted_plain (by simp [isPlainQuoted, special, feed, carriage]) rest

/-- A text in quotes stands for the text whose characters it writes. -/
theorem literalText?_quoted {written : Char → List Char}
    (each : ∀ c rest, readQuoted (written c ++ rest) = (c :: ·) <$> readQuoted rest)
    (text : List Char) : literalText? ('"' :: text.flatMap written ++ ['"']) = some text := by
  have read : readQuoted (text.flatMap written ++ ['"']) = some text := by
    induction text with
    | nil => rfl
    | cons c rest ih =>
      rw [List.flatMap_cons, List.append_assoc, each, ih]
      rfl
  exact read

/-- The literal of a text stands for the text. -/
theorem literalText?_stringChars (text : List Char) :
    literalText? (Json.stringChars text) = some text :=
  literalText?_quoted readQuoted_escapedChar text

private theorem readQuoted_literalChar (c : Char) (rest : List Char) :
    readQuoted (literalChar c ++ rest) = (c :: ·) <$> readQuoted rest := by
  unfold literalChar
  split
  next same => exact same ▸ readQuoted_codeUnit (by decide) rest
  split
  next same => exact same ▸ readQuoted_codeUnit (by decide) rest
  exact readQuoted_escapedChar c rest

/-- A reader of JSON reads each character from what a string literal writes for it. -/
theorem readsAs_literalChar (c : Char) : Json.ReadsAs (literalChar c) c := by
  unfold literalChar
  split
  next same => exact same ▸ Json.readsAs_codeUnit (by decide) (by decide)
  split
  next same => exact same ▸ Json.readsAs_codeUnit (by decide) (by decide)
  exact Json.readsAs_escapedChar c

section Ends

/-- The positions of the quotes that no backslash takes, where the first character of the text has
a given position. -/
def bareQuotes (taken : Bool) (index : Nat) : List Char → List Nat
  | [] => []
  | c :: rest =>
    if taken then bareQuotes false (index + 1) rest
    else if c = '"' then index :: bareQuotes false (index + 1) rest
    else bareQuotes (c == '\\') (index + 1) rest

theorem bareQuotes_plain {text : List Char} (plain : text.all isPlainQuoted = true) (index : Nat)
    (rest : List Char) :
    bareQuotes false index (text ++ rest) = bareQuotes false (index + text.length) rest := by
  induction text generalizing index with
  | nil => rfl
  | cons c more ih =>
    rw [List.all_cons, Bool.and_eq_true] at plain
    have first : bareQuotes false index (c :: (more ++ rest)) =
        bareQuotes false (index + 1) (more ++ rest) := by
      have each := plain.1
      simp only [isPlainQuoted, Bool.and_eq_true, bne_iff_ne] at each
      obtain ⟨⟨⟨quote, backslash⟩, -⟩, -⟩ := each
      simp [bareQuotes, quote, beq_eq_false_iff_ne.mpr backslash]
    rw [List.cons_append, first, ih plain.2, List.length_cons, Nat.add_assoc, Nat.add_comm 1]

private theorem bareQuotes_literalChar (c : Char) (index : Nat) (rest : List Char) :
    bareQuotes false index (literalChar c ++ rest) =
      bareQuotes false (index + (literalChar c).length) rest := by
  rcases literalChar_cases c with ⟨bare, plain⟩ | ⟨marker, more, taken, plain⟩
  · rw [bare]
    exact bareQuotes_plain (by simpa using plain) index rest
  · have length : index + ('\\' :: marker :: more).length = index + 2 + more.length := by
      rw [List.length_cons, List.length_cons]
      omega
    rw [taken, length]
    exact bareQuotes_plain plain (index + 2) rest

private theorem bareQuotes_flatMap (text : List Char) (index : Nat) (rest : List Char) :
    bareQuotes false index (text.flatMap literalChar ++ rest) =
      bareQuotes false (index + (text.flatMap literalChar).length) rest := by
  induction text generalizing index with
  | nil => rfl
  | cons c more ih =>
    rw [List.flatMap_cons, List.append_assoc, bareQuotes_literalChar, ih, List.length_append,
      Nat.add_assoc]

/-- No quote of a string literal but the first and the last one is bare. -/
theorem bareQuotes_stringLiteral (text rest : List Char) :
    bareQuotes false 0 (stringLiteralChars text ++ rest) =
      0 :: ((stringLiteralChars text).length - 1) ::
        bareQuotes false (stringLiteralChars text).length rest := by
  have length : (stringLiteralChars text).length = 1 + (text.flatMap literalChar).length + 1 := by
    simp [stringLiteralChars, Nat.add_comm]
  have opened : bareQuotes false 0 (stringLiteralChars text ++ rest) =
      0 :: bareQuotes false 1 (text.flatMap literalChar ++ '"' :: rest) := by
    simp [stringLiteralChars, bareQuotes]
  have closed (index : Nat) :
      bareQuotes false index ('"' :: rest) = index :: bareQuotes false (index + 1) rest := rfl
  rw [opened, bareQuotes_flatMap, closed, length]
  rfl

end Ends

/-- A text that is one string literal on one line and stands for another text, to a reader of
scripts as to one of JSON. -/
structure IsLiteralOf (literal text : String) : Prop where
  /-- It is opened by its first character and ended by its last one. -/
  complete : bareQuotes false 0 literal.toList = [0, literal.length - 1]
  /-- It holds no control character of ASCII and no end of a line. -/
  visible : ∀ c ∈ literal.toList, 0x20 ≤ c.toNat ∧ c ∉ Text.terminatorChars
  script : literalText? literal.toList = some text.toList
  json : Json.parse literal = .ok (.string text)

private theorem parse_stringLiteral (text : String) :
    Json.parse (stringLiteral text) = .ok (.string text) := by
  have read := Json.parse_quoted readsAs_literalChar text.toList
  rw [String.ofList_toList] at read
  rw [stringLiteral, stringLiteralChars, read]

theorem literalText?_stringLiteral (text : List Char) :
    literalText? (stringLiteralChars text) = some text :=
  literalText?_quoted readQuoted_literalChar text

theorem isLiteralOf_stringLiteral (text : String) : IsLiteralOf (stringLiteral text) text := by
  have chars : (stringLiteral text).toList = stringLiteralChars text.toList := String.toList_ofList
  have ends := bareQuotes_stringLiteral text.toList []
  rw [List.append_nil] at ends
  refine ⟨?_, ?_, ?_, parse_stringLiteral text⟩
  · rw [← String.length_toList, chars, ends]
    rfl
  · rw [chars]
    intro c member
    have printed := List.all_eq_true.mp (all_printed_stringLiteral text.toList) c member
    have calm := List.filter_eq_nil_iff.mp (Text.lineTerminators_stringLiteral text.toList) c member
    exact ⟨of_decide_eq_true printed, mt List.contains_iff_mem.mpr calm⟩
  · rw [chars, literalText?_stringLiteral]

end ClientGen.TypeScript
