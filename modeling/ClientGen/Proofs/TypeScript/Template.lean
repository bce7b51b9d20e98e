import ClientGen.Proofs.TypeScript.Printed

/-!
Template literals as the generated language reads them. A literal is cut into chunks of text and
substitutions, one character at a time: a backslash takes the next character with it, a dollar
sign in front of a brace opens a substitution, and the first other backquote ends the literal.
Code inside a substitution is read up to its own closing brace, past nested braces and string
literals.
-/
namespace ClientGen.TypeScript

/-- A part of a template literal, as it is written. -/
inductive TemplatePart where
  | chunk (raw : List Char)
  | substitution (code : List Char)
  deriving DecidableEq, Repr

/-- Where in a template literal a reader is. Inside a substitution it counts the open braces. -/
inductive TemplatePlace where
  | text
  | escape
  | opening
  | code (depth : Nat)
  | quoted (depth : Nat)
  | quotedEscape (depth : Nat)
  deriving DecidableEq, Repr

/-- The parts of a template literal and the text after it. -/
abbrev TemplateReading := Option (List TemplatePart × List Char)

/-- Text in front of the first part. -/
def prepend (text : List Char) : List TemplatePart → List TemplatePart
  | .chunk raw :: more => .chunk (text ++ raw) :: more
  | .substitution code :: more => .substitution (text ++ code) :: more
  | [] => []

/-- A reading whose first part began with some text before. -/
def TemplateReading.after (text : List Char) (reading : TemplateReading) : TemplateReading :=
  reading.map fun (parts, rest) => (prepend text parts, rest)

/-- A reading with one more part in front. -/
def TemplateReading.behind (part : TemplatePart) (reading : TemplateReading) : TemplateReading :=
  reading.map fun (parts, rest) => (part :: parts, rest)

/-- Characters that may open something other than plain code: a nested template, a string in
single quotes, a comment or a regular expression. They are refused inside a substitution. -/
def refusedInCode (c : Char) : Bool := c == '\x60' || c == '\'' || c == '/'

def readParts : TemplatePlace → List Char → TemplateReading
  | _, [] => none
  | .text, c :: rest =>
    if c = '\x60' then some ([.chunk []], rest)
    else if c = '\\' then (readParts .escape rest).after [c]
    else if c = '$' ∧ rest.head? = some '\x7b' then (readParts .opening rest).behind (.chunk [])
    else (readParts .text rest).after [c]
  | .escape, c :: rest => (readParts .text rest).after [c]
  | .opening, _ :: rest => readParts (.code 0) rest
  | .code depth, c :: rest =>
    if c = '\x7d' then
      if depth = 0 then (readParts .text rest).behind (.substitution [])
      else (readParts (.code (depth - 1)) rest).after [c]
    else if c = '\x7b' then (readParts (.code (depth + 1)) rest).after [c]
    else if c = '"' then (readParts (.quoted depth) rest).after [c]
    else if refusedInCode c then none
    else (readParts (.code depth) rest).after [c]
  | .quoted depth, c :: rest =>
    if c = '"' then (readParts (.code depth) rest).after [c]
    else if c = '\\' then (readParts (.quotedEscape depth) rest).after [c]
    else if c = '\n' ∨ c = '\r' then none
    else (readParts (.quoted depth) rest).after [c]
  | .quotedEscape depth, c :: rest => (readParts (.quoted depth) rest).after [c]

def readTemplate : List Char → TemplateReading
  | '\x60' :: rest => readParts .text rest
  | _ => none

/-- The code of the substitutions, in order. -/
def substitutions : List TemplatePart → List (List Char)
  | [] => []
  | .chunk _ :: more => substitutions more
  | .substitution code :: more => code :: substitutions more

/-- Ends of lines as the language reads them in a template literal: a carriage return, with or
without a line feed behind it, counts as a line feed. -/
def lineEnds : List Char → List Char
  | [] => []
  | c :: rest =>
    if c = '\r' then if rest.head? = some '\n' then lineEnds rest else '\n' :: lineEnds rest
    else c :: lineEnds rest

/-- The character that a one-character escape stands for. Escapes by number and escaped ends of
lines are not read. -/
def escapeValue? (c : Char) : Option Char :=
  if c = 'n' then some '\n'
  else if c = 't' then some '\t'
  else if c = 'r' then some '\r'
  else if c = 'b' then some '\x08'
  else if c = 'f' then some '\x0c'
  else if c = 'v' then some '\x0b'
  else if c.isDigit ∨ c ∈ ['x', 'u', '\n', '\r', '\u2028', '\u2029'] then none
  else some c

/-- The text of a chunk whose ends of lines are read already. -/
def unescape : List Char → Option (List Char)
  | [] => some []
  | '\\' :: c :: rest => return (← escapeValue? c) :: (← unescape rest)
  | c :: rest => if c = '\\' then none else (c :: ·) <$> unescape rest

/-- The text that a chunk stands for. -/
def cook (raw : List Char) : Option (List Char) := unescape (lineEnds raw)

/-- The text of a template literal whose substitutions have given texts, one for each. -/
def fill : List (List Char) → List TemplatePart → Option (List Char)
  | [], [] => some []
  | values, .chunk raw :: more => return (← cook raw) ++ (← fill values more)
  | value :: values, .substitution _ :: more => (value ++ ·) <$> fill values more
  | _, _ => none

private theorem prepend_prepend (one two : List Char) (parts : List TemplatePart) :
    prepend one (prepend two parts) = prepend (one ++ two) parts := by
  cases parts with
  | nil => rfl
  | cons first more => cases first <;> simp [prepend]

theorem after_nil (reading : TemplateReading) : reading.after [] = reading := by
  cases reading with
  | none => rfl
  | some found =>
    obtain ⟨parts, rest⟩ := found
    cases parts with
    | nil => rfl
    | cons first more => cases first <;> rfl

theorem after_after (one two : List Char) (reading : TemplateReading) :
    (reading.after two).after one = reading.after (one ++ two) := by
  cases reading with
  | none => rfl
  | some found => simp [TemplateReading.after, prepend_prepend]

/-- Characters that a reader passes over one by one without leaving its place. -/
theorem readParts_passing (place : TemplatePlace) (text rest : List Char)
    (passes : ∀ c ∈ text, ∀ more, readParts place (c :: more) = (readParts place more).after [c]) :
    readParts place (text ++ rest) = (readParts place rest).after text := by
  induction text with
  | nil => exact (after_nil _).symm
  | cons c more ih =>
    have others := ih fun d member => passes d (List.mem_cons_of_mem _ member)
    rw [List.cons_append, passes c List.mem_cons_self, others, after_after]
    rfl

/-- Code that a reader inside a substitution passes over as a whole, at any depth of braces. -/
def PassedInCode (code : List Char) : Prop :=
  ∀ depth rest, readParts (.code depth) (code ++ rest) = (readParts (.code depth) rest).after code

theorem passedInCode_append (first : PassedInCode one) (second : PassedInCode two) :
    PassedInCode (one ++ two) := by
  intro depth rest
  rw [List.append_assoc, first, second, after_after]

/-- A character of code at which no brace, quote or comment can begin. -/
def isPlainCode (c : Char) : Bool :=
  c != '\x7d' && c != '\x7b' && c != '"' && !refusedInCode c

theorem passedInCode_plain (plain : code.all isPlainCode = true) : PassedInCode code := by
  intro depth rest
  apply readParts_passing
  intro c member more
  have each := List.all_eq_true.mp plain c member
  simp only [isPlainCode, Bool.and_eq_true, bne_iff_ne, Bool.not_eq_true'] at each
  obtain ⟨⟨⟨closing, opening⟩, quote⟩, allowed⟩ := each
  simp [readParts, closing, opening, quote, allowed]

/-- A character that stands for itself in a string literal. -/
def isPlainQuoted (c : Char) : Bool := c != '"' && c != '\\' && c != '\n' && c != '\r'

private theorem readParts_plainQuoted (text rest : List Char) (depth : Nat)
    (plain : text.all isPlainQuoted = true) :
    readParts (.quoted depth) (text ++ rest) = (readParts (.quoted depth) rest).after text := by
  apply readParts_passing
  intro c member more
  have each := List.all_eq_true.mp plain c member
  simp only [isPlainQuoted, Bool.and_eq_true, bne_iff_ne] at each
  obtain ⟨⟨⟨quote, backslash⟩, feed⟩, carriage⟩ := each
  simp [readParts, quote, backslash, feed, carriage]

private theorem hexDigit_plain (n : Nat) (small : n < 16) :
    isPlainQuoted (Json.hexDigit n) = true := by
  revert small
  revert n
  decide

/-- A character of a JSON string stands for itself or is a backslash that takes one more. -/
theorem escapedChar_cases (c : Char) :
    (Json.escapedChar c = [c] ∧ isPlainQuoted c = true) ∨
      ∃ marker more, Json.escapedChar c = '\\' :: marker :: more ∧
        more.all isPlainQuoted = true := by
  unfold Json.escapedChar
  split
  · exact .inr ⟨c, _, rfl, rfl⟩
  next special =>
  split
  · exact .inr ⟨'b', _, rfl, rfl⟩
  split
  · exact .inr ⟨'f', _, rfl, rfl⟩
  split
  · exact .inr ⟨'n', _, rfl, rfl⟩
  next feed =>
  split
  · exact .inr ⟨'r', _, rfl, rfl⟩
  next carriage =>
  split
  · exact .inr ⟨'t', _, rfl, rfl⟩
  split
  next control =>
    refine .inr ⟨'u', _, rfl, List.all_eq_true.mpr ?_⟩
    intro d member
    simp only [List.mem_cons, List.not_mem_nil, or_false] at member
    rcases member with rfl | rfl | rfl | rfl
    · decide
    · decide
    · exact hexDigit_plain _ (by omega)
    · exact hexDigit_plain _ (by omega)
  · rw [not_or] at special
    exact .inl ⟨rfl, by simp [isPlainQuoted, special, feed, carriage]⟩

/-- So does a character of a string literal. -/
theorem literalChar_cases (c : Char) :
    (literalChar c = [c] ∧ isPlainQuoted c = true) ∨
      ∃ marker more, literalChar c = '\\' :: marker :: more ∧
        more.all isPlainQuoted = true := by
  unfold literalChar
  split
  · exact .inr ⟨'u', _, rfl, by decide⟩
  split
  · exact .inr ⟨'u', _, rfl, by decide⟩
  exact escapedChar_cases c

/-- A string literal is passed over as a whole, whatever its text is. -/
theorem passedInCode_stringLiteral (text : List Char) :
    PassedInCode (stringLiteralChars text) := by
  intro depth rest
  have inside : readParts (.quoted depth) (text.flatMap literalChar ++ '"' :: rest) =
      (readParts (.code depth) rest).after (text.flatMap literalChar ++ ['"']) := by
    induction text with
    | nil => simp [readParts]
    | cons c more ih =>
      rw [List.flatMap_cons, List.append_assoc, List.append_assoc]
      rcases literalChar_cases c with ⟨bare, plain⟩ | ⟨marker, digits, taken, plain⟩
      · rw [bare, readParts_plainQuoted [c] _ depth (by simpa using plain), ih, after_after]
      · have escape : readParts (.quoted depth)
            ('\\' :: marker :: (digits ++ (more.flatMap literalChar ++ '"' :: rest))) =
            (readParts (.quoted depth)
              (digits ++ (more.flatMap literalChar ++ '"' :: rest))).after ['\\', marker] := by
          simp [readParts, after_after]
        rw [taken, List.cons_append, List.cons_append, escape,
          readParts_plainQuoted digits _ depth plain, ih, after_after, after_after]
        rfl
  have opened : readParts (.code depth) ('"' :: (text.flatMap literalChar ++ '"' :: rest)) =
      (readParts (.quoted depth) (text.flatMap literalChar ++ '"' :: rest)).after ['"'] := by
    simp [readParts]
  rw [stringLiteralChars, List.cons_append, List.cons_append, List.append_assoc,
    List.singleton_append, opened, inside, after_after]
  rfl

theorem isPlainCode_of_isContinuation (c : Char) (continues : Identifier.isContinuation c = true) :
    isPlainCode c = true := by
  have apart : ∀ d, Identifier.isContinuation d = false → c ≠ d := by
    rintro d stops rfl
    rw [continues] at stops
    cases stops
  simp [isPlainCode, refusedInCode, apart '\x7d', apart '\x7b', apart '"', apart '\x60',
    apart '\'', apart '/', Identifier.isContinuation, Identifier.isAlphanumeric]

theorem passedInCode_propertyAccess (object name : List Char)
    (plain : object.all isPlainCode = true) :
    PassedInCode (propertyAccessChars object name) := by
  unfold propertyAccessChars
  split
  next bare =>
    refine passedInCode_append (passedInCode_plain plain)
      (passedInCode_plain (List.all_eq_true.mpr ?_))
    intro c member
    rcases List.mem_cons.mp member with rfl | inName
    · rfl
    · exact isPlainCode_of_isContinuation c (Identifier.isContinuation_of_isPlainChars bare inName)
  next quoted =>
    have opened : PassedInCode ['['] := passedInCode_plain (by decide)
    have closed : PassedInCode [']'] := passedInCode_plain (by decide)
    have key := passedInCode_append opened (passedInCode_append (passedInCode_stringLiteral name) closed)
    have whole := passedInCode_append (passedInCode_plain plain) key
    simpa using whole

/-- Ends of lines are read apart on both sides of a place that no line feed follows. -/
theorem lineEnds_append (text rest : List Char) (apart : rest.head? ≠ some '\n') :
    lineEnds (text ++ rest) = lineEnds text ++ lineEnds rest := by
  induction text with
  | nil => rfl
  | cons c more ih =>
    have head : (more ++ rest).head? = some '\n' ↔ more.head? = some '\n' := by
      cases more with
      | nil => simpa using apart
      | cons d others => simp
    rw [List.cons_append, lineEnds, lineEnds, ih]
    by_cases carriage : c = '\r'
    · by_cases feed : more.head? = some '\n'
      · rw [if_pos carriage, if_pos (head.mpr feed), if_pos carriage, if_pos feed]
      · rw [if_pos carriage, if_neg (mt head.mp feed), if_pos carriage, if_neg feed,
          List.cons_append]
    · rw [if_neg carriage, if_neg carriage, List.cons_append]

theorem lineEnds_plain_append (text rest : List Char) (plain : ∀ c ∈ text, c ≠ '\r') :
    lineEnds (text ++ rest) = text ++ lineEnds rest := by
  induction text with
  | nil => rfl
  | cons c more ih =>
    rw [List.cons_append, lineEnds, if_neg (plain c List.mem_cons_self),
      ih (fun d member => plain d (List.mem_cons_of_mem _ member)), List.cons_append]

end ClientGen.TypeScript
