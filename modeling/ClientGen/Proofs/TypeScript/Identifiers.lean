import ClientGen.Proofs.Text.CaseMapping
import ClientGen.Proofs.TypeScript.IdentifierTable
import ClientGen.Text.Ranges

/-!
Identifiers of the generated language. The case mappings keep apart what may stand in an identifier
and what may not, character by character; only the combining iota, which may continue an identifier
and not start one, has an upper case that may start one.
-/
namespace ClientGen.TypeScript
open Text

def startsIdentifier (c : Char) : Bool := inRanges identifierStarts c.toNat

/-- Whether a character may continue an identifier. -/
def continuesIdentifier (c : Char) : Bool := inRanges identifierParts c.toNat

/-- Whether characters, none of them written as an escape, form the name of an identifier. -/
def isIdentifierName : List Char → Bool
  | [] => false
  | c :: rest => startsIdentifier c && rest.all continuesIdentifier

/-- The names that the language keeps for itself in modules. -/
def reservedNames : List String := [
  "arguments", "await", "break", "case", "catch", "class", "const", "continue", "debugger",
  "default", "delete", "do", "else", "enum", "eval", "export", "extends", "false", "finally",
  "for", "function", "if", "implements", "import", "in", "instanceof", "interface", "let", "new",
  "null", "package", "private", "protected", "public", "return", "static", "super", "switch",
  "this", "throw", "true", "try", "typeof", "var", "void", "while", "with", "yield"]

/-- A name that a module can declare. -/
def IsIdentifier (name : String) : Prop :=
  isIdentifierName name.toList = true ∧ name ∉ reservedNames

instance (name : String) : Decidable (IsIdentifier name) := inferInstanceAs (Decidable (_ ∧ _))

/-- Whether the upper case of a character may start an identifier. -/
def startsRaised (c : Char) : Bool := startsIdentifier c || c == '\u0345'

section Tables

/-- The code points of closed ranges as the number whose bits are set at them. -/
def rangesMask (ranges : List (Nat × Nat)) : Nat :=
  ranges.foldr (fun range bits => (Nat.pow 2 (range.2 + 1 - range.1) - 1) <<< range.1 ||| bits) 0

private theorem testBit_rangesMask (ranges : List (Nat × Nat)) (code : Nat) :
    (rangesMask ranges).testBit code = inRanges ranges code := by
  induction ranges with
  | nil => simp [rangesMask, inRanges]
  | cons range rest ih =>
    have bits : rangesMask (range :: rest) =
      (2 ^ (range.2 + 1 - range.1) - 1) <<< range.1 ||| rangesMask rest := rfl
    have inFirst : ((2 ^ (range.2 + 1 - range.1) - 1) <<< range.1).testBit code =
        (decide (range.1 ≤ code) && decide (code ≤ range.2)) := by
      rw [Nat.testBit_shiftLeft, Nat.testBit_two_pow_sub_one, Bool.eq_iff_iff]
      simp only [Bool.and_eq_true, decide_eq_true_eq]
      omega
    rw [bits, Nat.testBit_or, ih, inFirst]
    rfl

private theorem startsIdentifier_eq :
    startsIdentifier = fun c => (rangesMask identifierStarts).testBit c.toNat := by
  funext c
  exact (testBit_rangesMask identifierStarts c.toNat).symm

private theorem continuesIdentifier_eq :
    continuesIdentifier = fun c => (rangesMask identifierParts).testBit c.toNat := by
  funext c
  exact (testBit_rangesMask identifierParts c.toNat).symm

private theorem continues_of_starts (starts : startsIdentifier c = true) :
    continuesIdentifier c = true := by
  have covered : rangesMask identifierStarts &&& rangesMask identifierParts =
      rangesMask identifierStarts := by
    decide +kernel
  rw [startsIdentifier, ← testBit_rangesMask, ← covered, Nat.testBit_and,
    Bool.and_eq_true] at starts
  rw [continuesIdentifier, ← testBit_rangesMask]
  exact starts.2

/-- Characters that can stand in an identifier where one character can: anywhere behind its start,
and at its start under a condition on that character. -/
private def Corresponds (starts continues : Char → Bool) (startable : Char → Bool) (c : Char)
    (changed : List Char) : Prop :=
  changed.all continues = continues c ∧
    changed.head?.map starts = some (startable c)

private instance : Decidable (Corresponds starts continues startable c changed) :=
  inferInstanceAs (Decidable (_ ∧ _))

/-- The upper case of a character continues an identifier where the character does, and starts one
where the character does or is the combining iota. -/
theorem upperCase_corresponds (c : Char) :
    (upperCase c).all continuesIdentifier = continuesIdentifier c ∧
      (upperCase c).head?.map startsIdentifier = some (startsRaised c) := by
  have iota : 0x0345 ∈ mappedCodes upperShifts upperExpansions := by decide +kernel
  refine mapCase_follows (R := Corresponds startsIdentifier continuesIdentifier startsRaised)
    upper_ordered ?_ ?_ ?_ c
  · intro c unnamed
    have other : c ≠ '\u0345' := by
      rintro rfl
      exact unnamed iota
    simp [Corresponds, startsRaised, other]
  · unfold startsRaised
    rw [startsIdentifier_eq, continuesIdentifier_eq]
    decide +kernel
  · unfold startsRaised
    rw [startsIdentifier_eq, continuesIdentifier_eq]
    decide +kernel

/-- The lower case of a character stands in an identifier wherever the character does. -/
theorem lowerCase_corresponds (c : Char) :
    (lowerCase c).all continuesIdentifier = continuesIdentifier c ∧
      (lowerCase c).head?.map startsIdentifier = some (startsIdentifier c) := by
  refine mapCase_follows (R := Corresponds startsIdentifier continuesIdentifier startsIdentifier)
    lower_ordered ?_ ?_ ?_ c
  · exact fun c _ => by simp [Corresponds]
  · rw [startsIdentifier_eq, continuesIdentifier_eq]
    decide +kernel
  · rw [startsIdentifier_eq, continuesIdentifier_eq]
    decide +kernel

end Tables

theorem isIdentifierName_iff (name : List Char) :
    isIdentifierName name = true ↔
      name.head?.map startsIdentifier = some true ∧ name.all continuesIdentifier = true := by
  cases name with
  | nil => simp [isIdentifierName]
  | cons c rest =>
    have continues : startsIdentifier c = true → continuesIdentifier c = true :=
      continues_of_starts
    simp only [isIdentifierName, Bool.and_eq_true, List.head?_cons, Option.map_some,
      Option.some.injEq, List.all_cons]
    exact ⟨fun ⟨start, others⟩ => ⟨start, continues start, others⟩,
      fun ⟨start, _, others⟩ => ⟨start, others⟩⟩

/-- In front of an identifier there may be nothing, or what could itself be one. -/
theorem isIdentifierName_append (front : List Char) (suffix : isIdentifierName back = true) :
    isIdentifierName (front ++ back) = true ↔
      front.head?.map startsIdentifier ≠ some false ∧ front.all continuesIdentifier = true := by
  rw [isIdentifierName_iff] at suffix
  rw [isIdentifierName_iff, List.all_append, suffix.2, Bool.and_true]
  cases front with
  | nil => simpa using suffix.1
  | cons c rest => simp

theorem all_upperFirst (text : List Char) :
    (upperFirst text).all continuesIdentifier = text.all continuesIdentifier := by
  cases text with
  | nil => rfl
  | cons c rest =>
    rw [upperFirst, List.all_append, List.all_cons, (upperCase_corresponds c).1]

theorem head?_upperFirst (text : List Char) :
    (upperFirst text).head?.map startsIdentifier = text.head?.map startsRaised := by
  cases text with
  | nil => rfl
  | cons c rest =>
    have first := (upperCase_corresponds c).2
    cases raised : upperCase c with
    | nil => simp [raised] at first
    | cons d more => simpa [upperFirst, raised] using first

private theorem all_lowerFirst (text : List Char) :
    (lowerFirst text).all continuesIdentifier = text.all continuesIdentifier := by
  cases text with
  | nil => rfl
  | cons c rest =>
    rw [lowerFirst, List.all_append, List.all_cons, (lowerCase_corresponds c).1]

theorem head?_lowerFirst (text : List Char) :
    (lowerFirst text).head?.map startsIdentifier = text.head?.map startsIdentifier := by
  cases text with
  | nil => rfl
  | cons c rest =>
    have first := (lowerCase_corresponds c).2
    cases lowered : lowerCase c with
    | nil => simp [lowered] at first
    | cons d more => simpa [lowerFirst, lowered] using first

/-- Putting its first letter into lower case makes or breaks no identifier. -/
theorem isIdentifierName_lowerFirst (text : List Char) :
    isIdentifierName (lowerFirst text) = isIdentifierName text := by
  rw [Bool.eq_iff_iff, isIdentifierName_iff, isIdentifierName_iff, head?_lowerFirst,
    all_lowerFirst]

end ClientGen.TypeScript
