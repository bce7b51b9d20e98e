import ClientGen.Proofs.Text.Split
import ClientGen.Proofs.TypeScript.Identifiers
import ClientGen.Proofs.TypeScript.StringLiteral

/-!
Names of properties as the generated language reads them. A property of an object literal or type is
named by an identifier, which stands for itself, or by a string literal, which stands for its text;
an access names it by an identifier behind a dot or by a string literal in brackets. Whichever way a
name is written, it is read as itself, so distinct names stay apart.

One key is read as its name and still names no property: in an object literal, `__proto__` in front of
a colon, bare or quoted, sets the prototype of the object. In an object type it is a name like others.
-/
namespace ClientGen.TypeScript
open Identifier

/-- A name at the start of a text, and what follows it. -/
abbrev NameReading := Option (List Char × List Char)

/-- An identifier at the start of a text. Those with escapes are not read. -/
def readIdentifier? (text : List Char) : NameReading :=
  let name := text.takeWhile continuesIdentifier
  let rest := text.dropWhile continuesIdentifier
  if isIdentifierName name = true ∧ rest.head? ≠ some '\\' then some (name, rest) else none

/-- The text of a string literal at the start of a text. It ends at the first bare quote behind the
one that opens it. -/
def readLiteral? (text : List Char) : NameReading :=
  match bareQuotes false 0 text with
  | 0 :: last :: _ =>
    (literalText? (text.take (last + 1))).map fun name => (name, text.drop (last + 1))
  | _ => none

/-- The name at the start of a property of an object literal or type. -/
def readKey? (text : List Char) : NameReading :=
  if text.head? = some '"' then readLiteral? text else readIdentifier? text

def declaredName? (text : List Char) : Option String :=
  (readKey? text).map fun reading => String.ofList reading.1

/-- The property of its own that an object gets from a key and a value in the literal that makes it.
The key `__proto__` gives it none. -/
def ownProperty? (text : List Char) : Option String :=
  match readKey? text with
  | some (name, ':' :: _) => if name = "__proto__".toList then none else some (String.ofList name)
  | _ => none

/-- The name that an access reads, behind its object. -/
def readMember? : List Char → NameReading
  | '.' :: rest => readIdentifier? rest
  | '[' :: rest =>
    match readLiteral? rest with
    | some (name, ']' :: more) => some (name, more)
    | _ => none
  | _ => none

def readAccess? (object text : List Char) : NameReading :=
  if object.isPrefixOf text then readMember? (text.drop object.length) else none

/-- A text that carries on no identifier in front of it. -/
def EndsName (text : List Char) : Prop :=
  ∀ c, text.head? = some c → continuesIdentifier c = false ∧ c ≠ '\\'

section Plain

/-- Plain identifiers are written in ASCII. -/
theorem ascii_of_isContinuation (continues : isContinuation c = true) : c.toNat < 128 := by
  have letter : c.isAlpha = (c.isUpper || c.isLower) := rfl
  simp only [isContinuation, isAlphanumeric, letter, Bool.or_eq_true, beq_iff_eq] at continues
  rcases continues with (((upper | lower) | digit) | rfl) | rfl
  · have bounds : c.val ≥ 'A'.val ∧ c.val ≤ 'Z'.val := of_decide_eq_true upper
    exact Nat.lt_of_le_of_lt (UInt32.le_iff_toNat_le.mp bounds.2) (by decide)
  · have bounds : c.val ≤ 'z'.val := of_decide_eq_true (Bool.and_eq_true_iff.mp lower).2
    exact Nat.lt_of_le_of_lt (UInt32.le_iff_toNat_le.mp bounds) (by decide)
  · have bounds : c.val ≤ '9'.val := of_decide_eq_true (Bool.and_eq_true_iff.mp digit).2
    exact Nat.lt_of_le_of_lt (UInt32.le_iff_toNat_le.mp bounds) (by decide)
  · decide
  · decide

private theorem ascii_identifiers : ∀ code < 128,
    (isStart (Char.ofNat code) = true → startsIdentifier (Char.ofNat code) = true) ∧
      (isContinuation (Char.ofNat code) = true → continuesIdentifier (Char.ofNat code) = true) := by
  decide +kernel

theorem isIdentifierName_of_isPlainChars {name : List Char} (plain : isPlainChars name = true) :
    isIdentifierName name = true := by
  have each : ∀ c ∈ name, (isStart c = true → startsIdentifier c = true) ∧
      (isContinuation c = true → continuesIdentifier c = true) := by
    intro c member
    have ascii := ascii_identifiers c.toNat
      (ascii_of_isContinuation (isContinuation_of_isPlainChars plain member))
    rwa [Char.ofNat_toNat] at ascii
  cases name with
  | nil => cases plain
  | cons c rest =>
    rw [List.forall_mem_cons] at each
    rw [isPlainChars, Bool.and_eq_true, List.all_eq_true] at plain
    rw [isIdentifierName, Bool.and_eq_true, List.all_eq_true]
    exact ⟨each.1.1 plain.1, fun d member => (each.2 d member).2 (plain.2 d member)⟩

end Plain

section Reading

variable {name : List Char}

theorem endsName_nil : EndsName [] := fun _ none => by cases none

theorem endsName_cons {c : Char} (stops : continuesIdentifier c = false) (other : c ≠ '\\')
    (rest : List Char) : EndsName (c :: rest) :=
  fun _ first => Option.some.inj first ▸ ⟨stops, other⟩

private theorem readIdentifier?_plain (plain : isPlainChars name = true) (ends : EndsName rest) :
    readIdentifier? (name ++ rest) = some (name, rest) := by
  have identifier := isIdentifierName_of_isPlainChars plain
  have continues := List.all_eq_true.mp ((isIdentifierName_iff name).mp identifier).2
  have stops : ∀ c, rest.head? = some c → continuesIdentifier c = false :=
    fun c first => (ends c first).1
  have unescaped : rest.head? ≠ some '\\' := fun first => (ends '\\' first).2 rfl
  simp only [readIdentifier?, Text.takeWhile_run continues stops,
    Text.dropWhile_run continues stops]
  rw [if_pos ⟨identifier, unescaped⟩]

private theorem readLiteral?_stringLiteral (text rest : List Char) :
    readLiteral? (stringLiteralChars text ++ rest) = some (text, rest) := by
  have quotes := bareQuotes_stringLiteral text rest
  have length : (stringLiteralChars text).length - 1 + 1 = (stringLiteralChars text).length := rfl
  simp only [readLiteral?, quotes]
  rw [length, List.take_left, List.drop_left, literalText?_stringLiteral]
  rfl

/-- A name is read from what is written for it in an object literal or type. -/
theorem readKey?_propertyKey (name : List Char) (ends : EndsName rest) :
    readKey? (propertyKeyChars name ++ rest) = some (name, rest) := by
  unfold propertyKeyChars
  split
  next plain =>
    have unquoted : (name ++ rest).head? ≠ some '"' := by
      cases name with
      | nil => cases plain
      | cons c more =>
        intro quote
        exact not_mem_plain (by decide) plain (List.mem_of_head? quote)
    rw [readKey?, if_neg unquoted, readIdentifier?_plain plain ends]
  next => exact readLiteral?_stringLiteral name rest

/-- A name is read from an access to it. -/
theorem readAccess?_propertyAccess (object name : List Char) (ends : EndsName rest) :
    readAccess? object (propertyAccessChars object name ++ rest) = some (name, rest) := by
  have behind (back : List Char) : readAccess? object (object ++ back) = readMember? back := by
    have front : object.isPrefixOf (object ++ back) = true :=
      List.isPrefixOf_iff_prefix.mpr (List.prefix_append _ _)
    rw [readAccess?, if_pos front, List.drop_left]
  unfold propertyAccessChars
  split
  next plain =>
    rw [List.append_assoc, behind, List.cons_append]
    exact readIdentifier?_plain plain ends
  next =>
    have read := readLiteral?_stringLiteral name (']' :: rest)
    rw [List.append_assoc, List.append_assoc, behind, List.cons_append, List.singleton_append,
      readMember?, read]
    rfl

/-- What stands in front of the object of an access belongs to the object. -/
theorem append_propertyAccess (front object name : List Char) :
    front ++ propertyAccessChars object name = propertyAccessChars (front ++ object) name := by
  unfold propertyAccessChars
  split <;> simp

end Reading

/-- Distinct names are written apart in an object literal or type. -/
theorem propertyKey_injective {one two : String} (same : propertyKey one = propertyKey two) :
    one = two := by
  have first := readKey?_propertyKey one.toList endsName_nil
  have second := readKey?_propertyKey two.toList endsName_nil
  rw [String.ofList_injective same, second] at first
  exact String.toList_inj.mp (by simpa using first.symm)

/-- So are accesses to them. -/
theorem propertyAccess_injective {object one two : String}
    (same : propertyAccess object one = propertyAccess object two) : one = two := by
  have first := readAccess?_propertyAccess object.toList one.toList endsName_nil
  have second := readAccess?_propertyAccess object.toList two.toList endsName_nil
  rw [String.ofList_injective same, second] at first
  exact String.toList_inj.mp (by simpa using first.symm)

end ClientGen.TypeScript
