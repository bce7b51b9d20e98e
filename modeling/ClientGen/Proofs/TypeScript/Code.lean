import ClientGen.Proofs.TypeScript.Template

/-!
Code as a reader of statements sees it, one character at a time: every opening bracket waits for its
own closing one, a string literal is read up to the quote that ends it, and a semicolon outside all
brackets ends a statement. Code that such a reader passes over and leaves as it came is closed: it
can stand wherever an expression or a type can, and all around it reads as before.
-/
namespace ClientGen.TypeScript
open Identifier

/-- Where in code a reader is: among the brackets that it waits for, the innermost one first, or
inside a string literal that began there. -/
inductive CodePlace where
  | code (awaited : List Char)
  | quoted (awaited : List Char)
  | escape (awaited : List Char)
  deriving DecidableEq, Repr

/-- Outside all brackets and literals. -/
abbrev CodePlace.start : CodePlace := .code []

/-- The bracket that closes what a character opens. -/
def closer? (c : Char) : Option Char :=
  if c = '(' then some ')'
  else if c = '[' then some ']'
  else if c = '\x7b' then some '\x7d'
  else none

/-- Whether a character closes a bracket. -/
def isCloser (c : Char) : Bool := c == ')' || c == ']' || c == '\x7d'

/-- The place after one more character. A bracket that is not the awaited one is refused, and so are
the end of a statement, the end of a line in a string literal and all that may open a template, a
string in single quotes, a comment or a regular expression. -/
def CodePlace.step : CodePlace → Char → Option CodePlace
  | .code awaited, c =>
    if c = '"' then some (.quoted awaited)
    else if refusedInCode c then none
    else if c = ';' ∧ awaited = [] then none
    else if isCloser c then
      match awaited with
      | [] => none
      | innermost :: others => if c = innermost then some (.code others) else none
    else
      match closer? c with
      | some closer => some (.code (closer :: awaited))
      | none => some (.code awaited)
  | .quoted awaited, c =>
    if c = '"' then some (.code awaited)
    else if c = '\\' then some (.escape awaited)
    else if c = '\n' ∨ c = '\r' then none
    else some (.quoted awaited)
  | .escape awaited, _ => some (.quoted awaited)

/-- The place after a text, if the reader does not refuse it. -/
def scan (place : CodePlace) (text : List Char) : Option CodePlace :=
  text.foldlM CodePlace.step place

/-- The statements of a text and what follows the last of them, as far as the reader comes without
a refusal. -/
def statements (place : CodePlace) : List Char → Option (List (List Char))
  | [] => if place = .start then some [[]] else none
  | c :: rest =>
    if place = .start ∧ c = ';' then ([] :: ·) <$> statements .start rest
    else (place.step c).bind fun next =>
      (statements next rest).map (List.modifyHead (c :: ·))

/-- Code that a reader passes over as a whole, whatever brackets it stands in. -/
def Closed (text : List Char) : Prop :=
  ∀ awaited, scan (.code awaited) text = some (.code awaited)

@[simp] theorem scan_nil (place : CodePlace) : scan place [] = some place := rfl

theorem scan_cons (place : CodePlace) (c : Char) (rest : List Char) :
    scan place (c :: rest) = (place.step c).bind (scan · rest) := rfl

/-- A text with one character in front. -/
theorem scan_first (first : place.step c = some next) (later : scan next rest = some last) :
    scan place (c :: rest) = some last := by
  rw [scan_cons, first]
  exact later

theorem scan_append (place : CodePlace) (one two : List Char) :
    scan place (one ++ two) = (scan place one).bind (scan · two) :=
  List.foldlM_append

theorem scan_trans (first : scan place one = some next) (second : scan next two = some last) :
    scan place (one ++ two) = some last := by
  rw [scan_append, first]
  exact second

variable {texts : List (List Char)}

/-- Texts that each leave a reader where it is. -/
theorem scan_flatten (each : ∀ text ∈ texts, scan place text = some place) :
    scan place texts.flatten = some place := by
  induction texts with
  | nil => rfl
  | cons text rest ih =>
    rw [List.forall_mem_cons] at each
    exact scan_trans each.1 (ih each.2)

theorem scan_intercalate (separator : scan place between = some place)
    (each : ∀ text ∈ texts, scan place text = some place) :
    scan place (List.intercalate between texts) = some place := by
  induction texts with
  | nil => rfl
  | cons text rest ih =>
    rw [List.forall_mem_cons] at each
    cases rest with
    | nil => simpa using each.1
    | cons next others =>
      rw [List.intercalate_cons_cons]
      exact scan_trans (scan_trans each.1 separator) (ih each.2)

/-- A text whose characters are each written as something that leaves a reader where it is. -/
theorem scan_flatMap {written : Char → List Char}
    (each : ∀ c, scan place (written c) = some place) (text : List Char) :
    scan place (text.flatMap written) = some place := by
  rw [List.flatMap_def]
  exact scan_flatten (List.forall_mem_map.mpr fun c _ => each c)

/-- A text in front of, code within and a text behind the brackets that the first one opens. -/
theorem scan_within (opening : scan place front = some inside)
    (code : scan inside text = some inside) (closing : scan inside back = some last) :
    scan place (front ++ text ++ back) = some last :=
  scan_trans (scan_trans opening code) closing

/-- The characters that mean something to a reader of code. -/
def marks : List Char := ['"', '\x60', '\'', '/', ';', '(', ')', '[', ']', '\x7b', '\x7d']

private theorem closed_unmarked (unmarked : ∀ c ∈ text, c ∉ marks) : Closed text := by
  intro awaited
  induction text with
  | nil => rfl
  | cons c rest ih =>
    rw [List.forall_mem_cons] at unmarked
    have stays : CodePlace.step (.code awaited) c = some (.code awaited) := by
      simp_all [marks, CodePlace.step, refusedInCode, isCloser, closer?]
    rw [scan_cons, stays]
    exact ih unmarked.2

/-- Characters of a kind that has no mark. -/
theorem closed_all {kind : Char → Bool} (each : text.all kind = true)
    (unmarked : marks.any kind = false) : Closed text := by
  apply closed_unmarked
  intro c member mark
  exact List.any_eq_false.mp unmarked c mark (List.all_eq_true.mp each c member)

theorem closed_append (first : Closed one) (second : Closed two) : Closed (one ++ two) :=
  fun awaited => scan_trans (first awaited) (second awaited)

private theorem scan_plainQuoted (awaited : List Char) (plain : text.all isPlainQuoted = true) :
    scan (.quoted awaited) text = some (.quoted awaited) := by
  induction text with
  | nil => rfl
  | cons c rest ih =>
    rw [List.all_cons, Bool.and_eq_true] at plain
    have stays : CodePlace.step (.quoted awaited) c = some (.quoted awaited) := by
      simp_all [isPlainQuoted, CodePlace.step]
    rw [scan_cons, stays]
    exact ih plain.2

/-- A backslash takes the next character with it. -/
theorem scan_escaped (awaited : List Char) (marker : Char) (plain : more.all isPlainQuoted = true) :
    scan (.quoted awaited) ('\\' :: marker :: more) = some (.quoted awaited) := by
  have taken : scan (.quoted awaited) ['\\', marker] = some (.quoted awaited) := rfl
  exact scan_trans taken (scan_plainQuoted awaited plain)

/-- A character that stands for itself or is a backslash that takes one more. -/
theorem scan_quotedChar (awaited : List Char)
    (cases : (text = [c] ∧ isPlainQuoted c = true) ∨
      ∃ marker more, text = '\\' :: marker :: more ∧ more.all isPlainQuoted = true) :
    scan (.quoted awaited) text = some (.quoted awaited) := by
  rcases cases with ⟨rfl, plain⟩ | ⟨marker, more, rfl, plain⟩
  · exact scan_plainQuoted awaited (by simpa using plain)
  · exact scan_escaped awaited marker plain

/-- What a reader passes over belongs to the statement that goes on behind it. -/
theorem statements_scan (passed : scan place text = some next) (rest : List Char) :
    statements place (text ++ rest) =
      (statements next rest).map (List.modifyHead (text ++ ·)) := by
  induction text generalizing place with
  | nil =>
    cases passed
    have same : List.modifyHead (([] : List Char) ++ ·) = id := by
      funext parts
      cases parts <;> rfl
    rw [same, Option.map_id]
    rfl
  | cons c more ih =>
    rw [scan_cons] at passed
    obtain ⟨between, stepped, passed⟩ := Option.bind_eq_some_iff.mp passed
    have goesOn : ¬(place = .start ∧ c = ';') := by
      rintro ⟨rfl, rfl⟩
      cases stepped
    rw [List.cons_append, statements, if_neg goesOn, stepped, Option.bind_some, ih passed,
      Option.map_map]
    congr 1
    funext parts
    cases parts <;> rfl

/-- Closed code behind the front of a statement does not end it: the next semicolon does. -/
theorem Closed.statements_declaration (closed : Closed text) (front rest : List Char)
    (opening : scan .start front = some .start) :
    statements .start (front ++ text ++ ';' :: rest) =
      (statements .start rest).map ((front ++ text) :: ·) := by
  rw [statements_scan (scan_trans opening (closed []))]
  simp [statements, Function.comp_def]

/-- A string literal is closed, whatever its text is. -/
theorem closed_stringLiteral (text : List Char) : Closed (stringLiteralChars text) := by
  intro awaited
  have inside := scan_flatMap (fun c => scan_quotedChar awaited (literalChar_cases c)) text
  exact scan_trans (scan_first rfl inside) rfl

private theorem closed_jsonString (text : List Char) : Closed (Json.stringChars text) := by
  intro awaited
  have inside := scan_flatMap (fun c => scan_quotedChar awaited (escapedChar_cases c)) text
  exact scan_trans (scan_first rfl inside) rfl

theorem closed_number (layout : Decimal.Layout) (n : Json.Number) : Closed (n.chars layout) :=
  closed_all (Json.all_numeric_number layout n) rfl

/-- A property name is bare or a string literal. -/
theorem closed_propertyKey (name : List Char) : Closed (propertyKeyChars name) := by
  unfold propertyKeyChars
  split
  next plain =>
    refine closed_all (List.all_eq_true.mpr ?_) (by decide : marks.any isContinuation = false)
    exact fun _ member => isContinuation_of_isPlainChars plain member
  next => exact closed_stringLiteral name

mutual
/-- The text of a value is closed, however deep its arrays and objects are nested. -/
theorem closed_value : (value : Json.Value) → Closed value.chars
  | .null => fun _ => rfl
  | .boolean true => fun _ => rfl
  | .boolean false => fun _ => rfl
  | .number n => closed_number .data n
  | .string s => closed_jsonString s.toList
  | .array items => scan_items items
  | .object members => scan_members members
private theorem scan_items (items : List Json.Value) (awaited : List Char) :
    scan (.code awaited) ('[' :: Json.itemsChars items) = some (.code awaited) := by
  cases items with
  | nil => rfl
  | cons item rest =>
    exact scan_first rfl
      (scan_trans (closed_value item (']' :: awaited)) (scan_moreItems rest awaited))
private theorem scan_moreItems (items : List Json.Value) (awaited : List Char) :
    scan (.code (']' :: awaited)) (Json.moreItemsChars items) = some (.code awaited) := by
  cases items with
  | nil => rfl
  | cons item rest =>
    exact scan_first rfl
      (scan_trans (closed_value item (']' :: awaited)) (scan_moreItems rest awaited))
private theorem scan_members (members : List (String × Json.Value)) (awaited : List Char) :
    scan (.code awaited) ('\x7b' :: Json.membersChars members) = some (.code awaited) := by
  cases members with
  | nil => rfl
  | cons member rest =>
    exact scan_first rfl
      (scan_trans (scan_member member _) (scan_moreMembers rest awaited))
private theorem scan_moreMembers (members : List (String × Json.Value)) (awaited : List Char) :
    scan (.code ('\x7d' :: awaited)) (Json.moreMembersChars members) = some (.code awaited) := by
  cases members with
  | nil => rfl
  | cons member rest =>
    exact scan_first rfl
      (scan_trans (scan_member member _) (scan_moreMembers rest awaited))
private theorem scan_member : (member : String × Json.Value) → Closed (Json.memberChars member)
  | (name, value) => closed_append (closed_jsonString name.toList)
    fun awaited => scan_first rfl (closed_value value awaited)
end

end ClientGen.TypeScript
