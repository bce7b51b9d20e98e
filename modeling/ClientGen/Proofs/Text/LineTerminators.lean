import ClientGen.Proofs.Identifier
import ClientGen.Proofs.TypeScript.Printed

/-!
Line terminators in texts. Scripts end a line at four characters. A string literal of generated code
holds none of them, a printed JSON value holds the two that JSON leaves alone, wherever one of its
strings does, and a Pascal form holds those of the name, in their order.
-/
namespace ClientGen
open Json

namespace Text

/-- The characters at which scripts end a line. -/
def terminatorChars : List Char := ['\n', '\r', '\u2028', '\u2029']

/-- The line terminators of a text, in order. -/
def lineTerminators (text : List Char) : List Char := text.filter terminatorChars.contains

/-- The two line terminators that a JSON text may hold within a string. -/
def isSeparator (c : Char) : Bool := c == '\u2028' || c == '\u2029'

@[simp] theorem lineTerminators_nil : lineTerminators [] = [] := rfl

@[simp] theorem lineTerminators_append (one two : List Char) :
    lineTerminators (one ++ two) = lineTerminators one ++ lineTerminators two :=
  List.filter_append one two

theorem lineTerminators_cons (c : Char) (text : List Char) :
    lineTerminators (c :: text) = lineTerminators [c] ++ lineTerminators text :=
  lineTerminators_append [c] text

theorem lineTerminators_flatMap (f : α → List Char) (items : List α) :
    lineTerminators (items.flatMap f) = items.flatMap fun item => lineTerminators (f item) :=
  List.filter_flatMap

/-- Texts joined by a separator without line terminators. -/
theorem lineTerminators_intercalate {between : List Char} (free : lineTerminators between = [])
    (texts : List (List Char)) :
    lineTerminators (List.intercalate between texts) = texts.flatMap lineTerminators := by
  induction texts with
  | nil => rfl
  | cons first rest ih =>
    cases rest with
    | nil => simp
    | cons second more =>
      rw [List.intercalate_cons_cons, lineTerminators_append, lineTerminators_append, ih, free]
      simp

/-- A text of characters that are no line terminators. -/
theorem lineTerminators_of_all {isCalm : Char → Bool}
    (stops : terminatorChars.all (!isCalm ·) = true) (text : List Char)
    (all : text.all isCalm = true) : lineTerminators text = [] := by
  refine List.filter_eq_nil_iff.mpr fun c member ends => ?_
  have wild := List.all_eq_true.mp stops c (List.contains_iff_mem.mp ends)
  rw [List.all_eq_true.mp all c member] at wild
  cases wild

section Names

private theorem upperCase_of_terminator (ends : c ∈ terminatorChars) : upperCase c = [c] := by
  have all : terminatorChars.all (fun c => upperCase c == [c]) = true := by decide +kernel
  exact eq_of_beq (List.all_eq_true.mp all c ends)

private theorem caseless_of_terminator (ends : c ∈ terminatorChars) : c.toNat ∈ caselessCodes := by
  have all : terminatorChars.all (fun c => caselessCodes.contains c.toNat) = true := by decide
  exact List.contains_iff_mem.mp (List.all_eq_true.mp all c ends)

private theorem lineTerminators_upperCase (c : Char) :
    lineTerminators (upperCase c) = lineTerminators [c] := by
  by_cases ends : c ∈ terminatorChars
  · rw [upperCase_of_terminator ends]
  · have own : lineTerminators [c] = [] := by simpa [lineTerminators] using ends
    rw [own]
    refine List.filter_eq_nil_iff.mpr fun d member found => ends ?_
    have listed : d ∈ terminatorChars := List.contains_iff_mem.mp found
    rw [← eq_of_mem_upperCase (caseless_of_terminator listed) member]
    exact listed

private theorem lineTerminators_upperFirst (text : List Char) :
    lineTerminators (upperFirst text) = lineTerminators text := by
  cases text with
  | nil => rfl
  | cons c rest => rw [upperFirst, lineTerminators_append, lineTerminators_upperCase,
      lineTerminators_cons c rest]

/-- A Pascal form keeps the line terminators of the name. -/
theorem lineTerminators_pascalChars (name : List Char) :
    lineTerminators (Identifier.pascalChars name) = lineTerminators name := by
  have joined : ∀ parts : List (List Char),
      (parts.filter (!·.isEmpty)).flatMap lineTerminators = lineTerminators parts.flatten := by
    intro parts
    induction parts with
    | nil => rfl
    | cons part rest ih =>
      rw [List.flatten_cons, lineTerminators_append, ← ih]
      cases part with
      | nil => rfl
      | cons c more => rfl
  have kept : terminatorChars.all (!Identifier.isSeparator ·) = true := by decide
  rw [Identifier.pascalChars_eq, lineTerminators_flatMap, funext lineTerminators_upperFirst,
    Identifier.pieces, joined, flatten_split, lineTerminators, List.filter_filter]
  refine List.filter_congr fun c _ => ?_
  cases ends : terminatorChars.contains c with
  | false => rfl
  | true =>
    rw [List.all_eq_true.mp kept c (List.contains_iff_mem.mp ends)]
    rfl

end Names

section Printed

theorem lineTerminators_number (layout : Decimal.Layout) (n : Number) :
    lineTerminators (n.chars layout) = [] :=
  lineTerminators_of_all (by decide) _ (all_numeric_number layout n)

/-- Of characters that are printed, only the two separators are line terminators. -/
theorem lineTerminators_of_printed {text : List Char} (printed : text.all isPrinted = true) :
    lineTerminators text = text.filter isSeparator := by
  have tell : terminatorChars.all (fun c => !isPrinted c || isSeparator c) = true := by decide
  refine List.filter_congr fun c member => Bool.eq_iff_iff.mpr ⟨fun ends => ?_, fun separates => ?_⟩
  · have either := List.all_eq_true.mp tell c (List.contains_iff_mem.mp ends)
    rwa [List.all_eq_true.mp printed c member] at either
  · have either : c = '\u2028' ∨ c = '\u2029' := by simpa [isSeparator] using separates
    rcases either with rfl | rfl
    · rfl
    · rfl

private theorem separator_not_hexDigit : ∀ n < 16, isSeparator (hexDigit n) = false := by decide

private theorem separator_not_control (control : c.toNat < 0x20) : isSeparator c = false := by
  rw [isSeparator, Bool.or_eq_false_iff, beq_eq_false_iff_ne, beq_eq_false_iff_ne]
  constructor
  · rintro rfl
    exact absurd control (by decide)
  · rintro rfl
    exact absurd control (by decide)

/-- JSON leaves the two separators alone and escapes no character by one of them. -/
theorem filter_escapedChar (c : Char) :
    (escapedChar c).filter isSeparator = [c].filter isSeparator := by
  unfold escapedChar
  split
  next special =>
    rcases special with rfl | rfl
    · rfl
    · rfl
  iterate 5
    split
    next same => exact same ▸ rfl
  split
  next control =>
    have apart := separator_not_control control
    have high := separator_not_hexDigit (c.toNat / 16) (by omega)
    have low := separator_not_hexDigit (c.toNat % 16) (by omega)
    have fixed : ['\\', 'u', '0', '0'].filter isSeparator = [] := by decide
    have spelled : controlEscape c.toNat =
        ['\\', 'u', '0', '0'] ++ [hexDigit (c.toNat / 16), hexDigit (c.toNat % 16)] := rfl
    rw [spelled, List.filter_append, fixed]
    simp [apart, high, low]
  next => rfl

private theorem lineTerminators_stringChars (text : List Char) :
    lineTerminators (stringChars text) = text.filter isSeparator := by
  have inside : (text.flatMap escapedChar).filter isSeparator = text.filter isSeparator := by
    rw [List.filter_flatMap, funext filter_escapedChar, ← List.filter_flatMap]
    simp
  rw [lineTerminators_of_printed (all_printed_stringChars text), stringChars, List.cons_append,
    List.filter_cons_of_neg (by decide), List.filter_append, inside]
  simp [isSeparator]

mutual
/-- The strings and the names of members in a value, at any depth. -/
def texts : Value → List String
  | .string s => [s]
  | .array items => itemsTexts items
  | .object members => membersTexts members
  | .null | .boolean _ | .number _ => []
def itemsTexts : List Value → List String
  | [] => []
  | item :: rest => texts item ++ itemsTexts rest
def membersTexts : List (String × Value) → List String
  | [] => []
  | member :: rest => memberTexts member ++ membersTexts rest
def memberTexts : String × Value → List String
  | (name, value) => name :: texts value
end

def separators (texts : List String) : List Char :=
  texts.flatMap fun text => text.toList.filter isSeparator

@[simp] theorem separators_cons (text : String) (rest : List String) :
    separators (text :: rest) = text.toList.filter isSeparator ++ separators rest :=
  List.flatMap_cons

@[simp] theorem separators_append (one two : List String) :
    separators (one ++ two) = separators one ++ separators two :=
  List.flatMap_append

mutual
/-- A printed value holds the separators in its texts and no other line terminators. -/
theorem lineTerminators_value :
    (value : Value) → lineTerminators value.chars = separators (texts value)
  | .null => rfl
  | .boolean true => rfl
  | .boolean false => rfl
  | .number n => lineTerminators_number .data n
  | .string s => by simp [Value.chars, lineTerminators_stringChars, separators, texts]
  | .array items => lineTerminators_items items
  | .object members => lineTerminators_members members
private theorem lineTerminators_items : (items : List Value) →
    lineTerminators (itemsChars items) = separators (itemsTexts items)
  | [] => rfl
  | item :: rest => by
    rw [itemsChars, lineTerminators_append, lineTerminators_value item,
      lineTerminators_moreItems rest, itemsTexts, separators_append]
private theorem lineTerminators_moreItems : (items : List Value) →
    lineTerminators (moreItemsChars items) = separators (itemsTexts items)
  | [] => rfl
  | item :: rest => by
    rw [moreItemsChars, lineTerminators_append, lineTerminators_cons, lineTerminators_value item,
      lineTerminators_moreItems rest, itemsTexts, separators_append]
    rfl
private theorem lineTerminators_members : (members : List (String × Value)) →
    lineTerminators (membersChars members) = separators (membersTexts members)
  | [] => rfl
  | member :: rest => by
    rw [membersChars, lineTerminators_append, lineTerminators_member member,
      lineTerminators_moreMembers rest, membersTexts, separators_append]
private theorem lineTerminators_moreMembers : (members : List (String × Value)) →
    lineTerminators (moreMembersChars members) = separators (membersTexts members)
  | [] => rfl
  | member :: rest => by
    rw [moreMembersChars, lineTerminators_append, lineTerminators_cons,
      lineTerminators_member member, lineTerminators_moreMembers rest, membersTexts,
      separators_append]
    rfl
private theorem lineTerminators_member : (member : String × Value) →
    lineTerminators (memberChars member) = separators (memberTexts member)
  | (name, value) => by
    rw [memberChars, lineTerminators_append, lineTerminators_cons, lineTerminators_stringChars,
      lineTerminators_value value, memberTexts, separators_cons]
    rfl
end

/-- A string literal of generated code holds no line terminator, whatever its text is. -/
theorem lineTerminators_stringLiteral (text : List Char) :
    lineTerminators (TypeScript.stringLiteralChars text) = [] := by
  have each : ∀ c, (TypeScript.literalChar c).filter isSeparator = [] := by
    intro c
    unfold TypeScript.literalChar
    split
    next => rfl
    next one =>
      split
      next => rfl
      next two => simp [filter_escapedChar, isSeparator, one, two]
  rw [lineTerminators_of_printed (TypeScript.all_printed_stringLiteral text),
    TypeScript.stringLiteralChars, List.cons_append, List.filter_cons_of_neg (by decide),
    List.filter_append, List.filter_flatMap, funext each]
  simp [isSeparator]

/-- Nor does a property name. -/
theorem lineTerminators_propertyKey (name : List Char) :
    lineTerminators (TypeScript.propertyKeyChars name) = [] := by
  unfold TypeScript.propertyKeyChars
  split
  next plain =>
    have stops : terminatorChars.all (!Identifier.isContinuation ·) = true := by decide
    exact lineTerminators_of_all stops name (List.all_eq_true.mpr fun c =>
      Identifier.isContinuation_of_isPlainChars plain)
  next => exact lineTerminators_stringLiteral name

end Printed
end Text
end ClientGen
