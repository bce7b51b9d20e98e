import ClientGen.Json.Printer
import ClientGen.Json.Reader

/-!
Strings of JSON text read back. A character can be written in several ways, since any one may be
written as an escape. Whatever is written for each character of a string, the text is read as the
string as soon as each character is read from what stands for it.
-/
namespace ClientGen.Json

/-- A way to write a character inside a string, from which it is read. -/
structure ReadsAs (written : List Char) (c : Char) : Prop where
  /-- Reading a character uses up some text, so the fuel of the reader lasts for the whole. -/
  filled : written ≠ []
  read : ∀ fuel before rest position, ∃ after,
    readStringFrom (fuel + 1) before ⟨written ++ rest, position⟩ =
      readStringFrom fuel (c :: before) ⟨rest, after⟩

theorem readsAs_plain {c : Char} (quote : c ≠ '"') (backslash : c ≠ '\\')
    (visible : 0x20 ≤ c.toNat) : ReadsAs [c] c where
  filled := List.cons_ne_nil _ _
  read fuel before rest position := by
    refine ⟨position.after c, ?_⟩
    rw [List.singleton_append, readStringFrom.eq_def]
    dsimp only [Cursor.peek?, List.head?_cons, Cursor.next]
    split
    next none => cases none
    next same => exact absurd (Option.some.inj same) quote
    next same => exact absurd (Option.some.inj same) backslash
    next same =>
      cases same
      rw [if_neg (Nat.not_lt.mpr visible)]

theorem readsAs_escape {marked : List Char} {c : Char}
    (escape : ∀ rest position, ∃ after,
      readEscape ⟨marked ++ rest, position⟩ = .ok (c, ⟨rest, after⟩)) :
    ReadsAs ('\\' :: marked) c where
  filled := List.cons_ne_nil _ _
  read fuel before rest position := by
    obtain ⟨after, read⟩ := escape rest (position.after '\\')
    have opened : readStringFrom (fuel + 1) before ⟨'\\' :: marked ++ rest, position⟩ =
        readEscape ⟨marked ++ rest, position.after '\\'⟩ >>= fun found =>
          readStringFrom fuel (found.1 :: before) found.2 := rfl
    refine ⟨after, ?_⟩
    rw [opened, read]
    rfl

theorem readsAs_simpleEscape {marker c : Char} (known : simpleEscape? marker = some c) :
    ReadsAs ['\\', marker] c := by
  refine readsAs_escape fun rest position => ⟨position.after marker, ?_⟩
  rw [List.singleton_append, readEscape]
  dsimp only [Cursor.peek?, List.head?_cons]
  split
  next none => cases none
  next same =>
    cases same
    cases known
  next same =>
    cases same
    rw [known]
    rfl

theorem readHex_digits {x y z w : Char} (number : Text.numberIn? 16 [x, y, z, w] = some code)
    (rest : List Char) (position : Position) : ∃ after,
      readHex ⟨x :: y :: z :: w :: rest, position⟩ = .ok (code, ⟨rest, after⟩) := by
  have single : ∀ c ∈ [x, y, z, w], c.utf8Size = 1 :=
    fun c listed => Text.utf8Size_of_digitIn? (Text.isSome_of_numberIn? number c listed)
  have four : Cursor.hasBytes 4 (x :: y :: z :: w :: rest) = true := by
    obtain ⟨first, single⟩ := List.forall_mem_cons.mp single
    obtain ⟨second, single⟩ := List.forall_mem_cons.mp single
    obtain ⟨third, single⟩ := List.forall_mem_cons.mp single
    have fourth := List.forall_mem_singleton.mp single
    simp [Cursor.hasBytes, first, second, third, fourth]
  have digits : (x :: y :: z :: w :: rest).take 4 = [x, y, z, w] := rfl
  rw [readHex, four, digits, number]
  exact ⟨_, rfl⟩

/-- Four digits give a character if they are no half of a surrogate pair. -/
theorem readsAs_unit {x y z w : Char} (digits : Text.numberIn? 16 [x, y, z, w] = some code)
    (alone : code < 0xD800 ∨ 0xDFFF < code) :
    ReadsAs ['\\', 'u', x, y, z, w] (Char.ofNat code) := by
  refine readsAs_escape fun rest position => ?_
  obtain ⟨after, number⟩ := readHex_digits digits rest (position.after 'u')
  have opened : readEscape ⟨['u', x, y, z, w] ++ rest, position⟩ =
      readUnicodeEscape ⟨x :: y :: z :: w :: rest, position.after 'u'⟩ := rfl
  rw [opened, readUnicodeEscape, number]
  dsimp only [bind, Except.bind]
  rw [if_neg (by omega), if_pos (by omega)]
  exact ⟨_, rfl⟩

theorem readsAs_codeUnit {x y z w c : Char}
    (code : Text.numberIn? 16 [x, y, z, w] = some c.toNat) (low : c.toNat < 0xD800) :
    ReadsAs ['\\', 'u', x, y, z, w] c := by
  have read := readsAs_unit code (.inl low)
  rwa [Char.ofNat_toNat] at read

private theorem controlEscape_digits {code : Nat} (control : code < 0x20) :
    Text.numberIn? 16 ['0', '0', hexDigit (code / 16), hexDigit (code % 16)] = some code := by
  revert control
  revert code
  decide +kernel

/-- Each character is read from what is printed for it. -/
theorem readsAs_escapedChar (c : Char) : ReadsAs (escapedChar c) c := by
  unfold escapedChar
  split
  next special =>
    rcases special with rfl | rfl <;> exact readsAs_simpleEscape rfl
  next special =>
  iterate 5
    split
    next same => exact same ▸ readsAs_simpleEscape rfl
  split
  next control =>
    exact readsAs_codeUnit (controlEscape_digits control) (by omega)
  next visible =>
    rw [not_or] at special
    exact readsAs_plain special.1 special.2 (Nat.le_of_not_lt visible)

private theorem readValue_quote (depth : Nat) (rest : List Char) (position : Position) :
    readValue depth ⟨'"' :: rest, position⟩ =
      readString ⟨rest, position.after '"'⟩ >>= fun found => .ok (.string found.1, found.2) := by
  have scalar : readValue depth ⟨'"' :: rest, position⟩ = readScalar ⟨'"' :: rest, position⟩ := by
    rw [readValue.eq_def]
    cases depth <;> rfl
  rw [scalar]
  rfl

theorem length_le_flatMap {written : α → List β} (filled : ∀ a, written a ≠ []) (list : List α) :
    list.length ≤ (list.flatMap written).length := by
  induction list with
  | nil => exact Nat.le_refl 0
  | cons a more ih =>
    have some := List.length_pos_iff.mpr (filled a)
    rw [List.length_cons, List.flatMap_cons, List.length_append]
    omega

section Reading

variable {written : Char → List Char} (each : ∀ c, ReadsAs (written c) c)
include each

/-- A reader with fuel for all characters reads them up to the closing quote. -/
theorem readStringFrom_written (text before rest : List Char) (fuel : Nat) (position : Position)
    (enough : text.length < fuel) : ∃ after,
      readStringFrom fuel before ⟨text.flatMap written ++ '"' :: rest, position⟩ =
        .ok (String.ofList (before.reverse ++ text), ⟨rest, after⟩) := by
  induction text generalizing before fuel position with
  | nil =>
    obtain ⟨fuel, rfl⟩ := Nat.exists_eq_succ_of_ne_zero (Nat.ne_of_gt enough)
    rw [List.append_nil]
    exact ⟨position.after '"', rfl⟩
  | cons c more ih =>
    obtain ⟨fuel, rfl⟩ := Nat.exists_eq_succ_of_ne_zero (Nat.ne_of_gt (Nat.zero_lt_of_lt enough))
    obtain ⟨between, first⟩ :=
      (each c).read fuel before (more.flatMap written ++ '"' :: rest) position
    obtain ⟨after, others⟩ := ih (c :: before) fuel between (Nat.lt_of_succ_lt_succ enough)
    rw [List.reverse_cons, List.append_assoc, List.singleton_append] at others
    rw [List.flatMap_cons, List.append_assoc, first]
    exact ⟨after, others⟩

/-- A text in quotes is read as the string whose characters it writes. -/
theorem parse_quoted (text : List Char) :
    parse (String.ofList ('"' :: text.flatMap written ++ ['"'])) =
      .ok (.string (String.ofList text)) := by
  have enough : text.length < (text.flatMap written ++ ['"']).length + 1 := by
    have shorter := length_le_flatMap (fun c => (each c).filled) text
    rw [List.length_append]
    omega
  obtain ⟨after, inside⟩ :=
    readStringFrom_written each text [] [] _ (Position.after ⟨1, 0⟩ '"') enough
  rw [parse, Cursor.ofText, String.toList_ofList, List.cons_append, readValue_quote, readString,
    inside]
  rfl

end Reading

/-- The text of a string is read as the string. -/
theorem parse_text_string (s : String) : parse (Value.string s).text = .ok (.string s) := by
  have read := parse_quoted readsAs_escapedChar s.toList
  rw [String.ofList_toList] at read
  exact read

end ClientGen.Json
