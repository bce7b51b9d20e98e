import ClientGen.Operation.Compile
import ClientGen.Proofs.PathTemplate.Segments
import ClientGen.Proofs.TypeScript.Template

/-!
The URL of an operation denotes its path. Read as the generated language reads it, the text is one
template literal: it substitutes the base URL and then every path parameter, in order, and its
chunks stand for the literal text of the path. No text of a path can end the literal early or
become code.
-/
namespace ClientGen.PathTemplate
open Text TypeScript

private theorem escaped_cases (c : Char) (next : Option Char) :
    (escaped c next = ['\\', c] ∧ (c = '\\' ∨ c = '\x60' ∨ (c = '$' ∧ next = some '\x7b'))) ∨
      (escaped c next = [c] ∧ c ≠ '\\' ∧ c ≠ '\x60' ∧ ¬(c = '$' ∧ next = some '\x7b')) := by
  unfold escaped
  split
  next special => exact .inl ⟨rfl, special⟩
  next plain =>
    rw [not_or, not_or] at plain
    exact .inr ⟨rfl, plain.1, plain.2.1, plain.2.2⟩

/-- Escaping puts no brace in front that was not there. -/
theorem brace_of_head?_escapeLiteral (text rest : List Char) (apart : rest.head? ≠ some '\x7b')
    (brace : (escapeLiteral text ++ rest).head? = some '\x7b') : text.head? = some '\x7b' := by
  cases text with
  | nil => exact absurd brace apart
  | cons c more =>
    rw [escapeLiteral_cons] at brace
    rcases escaped_cases c more.head? with ⟨taken, special⟩ | ⟨bare, plain⟩
    · rw [taken] at brace
      simp at brace
    · rw [bare] at brace
      simpa using brace

/-- A reader of a template literal stays in its text over escaped text. -/
theorem readParts_escapeLiteral (text rest : List Char) (apart : rest.head? ≠ some '\x7b') :
    readParts .text (escapeLiteral text ++ rest) =
      (readParts .text rest).after (escapeLiteral text) := by
  induction text with
  | nil => exact (after_nil _).symm
  | cons c more ih =>
    have first : readParts .text (escaped c more.head? ++ (escapeLiteral more ++ rest)) =
        (readParts .text (escapeLiteral more ++ rest)).after (escaped c more.head?) := by
      rcases escaped_cases c more.head? with ⟨taken, special⟩ | ⟨bare, backslash, quote, opening⟩
      · rw [taken]
        simp [readParts, after_after]
      · have closed : ¬(c = '$' ∧ (escapeLiteral more ++ rest).head? = some '\x7b') := by
          rintro ⟨dollar, brace⟩
          exact opening ⟨dollar, brace_of_head?_escapeLiteral more rest apart brace⟩
        rw [bare, List.singleton_append, readParts, if_neg quote, if_neg backslash, if_neg closed]
    rw [escapeLiteral_cons, List.append_assoc, first, ih, after_after]

/-- A substitution is read as one part, with an empty chunk in front. -/
theorem readParts_substitution (rest : List Char) (passed : PassedInCode code) :
    readParts .text (substitution code ++ rest) =
      ((readParts .text rest).behind (.substitution code)).behind (.chunk []) := by
  have closed : (readParts (.code 0) ('\x7d' :: rest)).after code =
      (readParts .text rest).behind (.substitution code) := by
    cases read : readParts .text rest <;>
      simp [readParts, read, TemplateReading.behind, TemplateReading.after, prepend]
  have whole : substitution code ++ rest = '$' :: '\x7b' :: (code ++ '\x7d' :: rest) := by
    simp [substitution]
  rw [whole, readParts, if_neg (by decide), if_neg (by decide), if_pos ⟨rfl, rfl⟩, readParts,
    passed, closed]

private theorem passedInCode_parameterExpression (variableName name : List Char)
    (plain : variableName.all isPlainCode = true) :
    PassedInCode (parameterExpression variableName name) := by
  have call : PassedInCode "encodeURIComponent(String(".toList := passedInCode_plain (by decide)
  have closed : PassedInCode "))".toList := passedInCode_plain (by decide)
  have access := passedInCode_propertyAccess variableName name plain
  exact passedInCode_append (passedInCode_append call access) closed

def templateParts (variableName : List Char) : List Segment → List TemplatePart
  | [] => [.chunk []]
  | .literal text :: rest => prepend (escapeLiteral text) (templateParts variableName rest)
  | .parameter name :: rest =>
    .chunk [] :: .substitution (parameterExpression variableName name) ::
      templateParts variableName rest

/-- A reader finds the parts that segments were written as, and stops at the closing backquote. -/
theorem readParts_template (variableName : List Char)
    (plain : variableName.all isPlainCode = true) (cut : WellCut parts) :
    readParts .text (parts.flatMap (Segment.template variableName) ++ ['\x60']) =
      some (templateParts variableName parts, []) := by
  induction cut with
  | nil => rfl
  | literal filled apart cut ih =>
    rename_i text rest
    have head : (rest.flatMap (Segment.template variableName) ++ ['\x60']).head? ≠ some '\x7b' := by
      cases cut with
      | nil => simp
      | literal => exact absurd rfl (apart _ _)
      | parameter => simp [Segment.template, substitution]
    rw [List.flatMap_cons, List.append_assoc, Segment.template, readParts_escapeLiteral _ _ head, ih]
    rfl
  | parameter filled word cut ih =>
    rename_i name rest
    have passed := passedInCode_parameterExpression variableName name plain
    rw [List.flatMap_cons, List.append_assoc, Segment.template, readParts_substitution _ passed, ih]
    rfl

private theorem templateParts_open (variableName : List Char)
    (apart : ∀ text more, parts ≠ .literal text :: more) :
    ∃ more, templateParts variableName parts = .chunk [] :: more := by
  cases parts with
  | nil => exact ⟨_, rfl⟩
  | cons first rest =>
    cases first with
    | literal text => exact absurd rfl (apart text rest)
    | parameter name => exact ⟨_, rfl⟩

theorem substitutions_templateParts (variableName : List Char) (cut : WellCut parts) :
    substitutions (templateParts variableName parts) =
      (parts.filterMap Segment.parameter?).map (parameterExpression variableName) := by
  induction cut with
  | nil => rfl
  | literal filled apart cut ih =>
    obtain ⟨more, starts⟩ := templateParts_open variableName apart
    rw [templateParts, starts, List.filterMap_cons_none rfl, ← ih, starts]
    rfl
  | parameter filled word cut ih =>
    exact congrArg (parameterExpression variableName _ :: ·) ih

private theorem head?_lineEnds (text : List Char) :
    (lineEnds text).head? = some '\x7b' ↔ text.head? = some '\x7b' := by
  cases text with
  | nil => rfl
  | cons c rest =>
    rw [lineEnds]
    split
    next carriage =>
      subst carriage
      cases rest with
      | nil => decide
      | cons d more =>
        by_cases feed : d = '\n'
        · simp [feed, lineEnds]
        · simp [feed]
    next other => rfl

private theorem head?_escapeLiteral (text : List Char) :
    (escapeLiteral text).head? = some '\n' ↔ text.head? = some '\n' := by
  cases text with
  | nil => rfl
  | cons c rest =>
    rw [escapeLiteral_cons]
    rcases escaped_cases c rest.head? with ⟨taken, rfl | rfl | ⟨rfl, -⟩⟩ | ⟨bare, plain⟩
    · simp [taken]
    · simp [taken]
    · simp [taken]
    · simp [bare]

/-- Escaping leaves the ends of lines alone, and reading them leaves the escapes alone. -/
theorem lineEnds_escapeLiteral (text : List Char) :
    lineEnds (escapeLiteral text) = escapeLiteral (lineEnds text) := by
  induction text with
  | nil => rfl
  | cons c rest ih =>
    by_cases carriage : c = '\r'
    · subst carriage
      have bare : escapeLiteral ('\r' :: rest) = '\r' :: escapeLiteral rest := by
        rw [escapeLiteral, if_neg (by simp)]
      rw [bare, lineEnds, lineEnds, if_pos rfl, if_pos rfl, ih]
      by_cases feed : rest.head? = some '\n'
      · rw [if_pos feed, if_pos ((head?_escapeLiteral rest).mpr feed)]
      · rw [if_neg feed, if_neg (mt (head?_escapeLiteral rest).mp feed), escapeLiteral,
          if_neg (by simp)]
    · have same : escaped c (lineEnds rest).head? = escaped c rest.head? := by
        simp only [escaped, head?_lineEnds]
      rw [escapeLiteral_cons, lineEnds, if_neg carriage, escapeLiteral_cons, same, ← ih]
      rcases escaped_cases c rest.head? with ⟨taken, special⟩ | ⟨bare, plain⟩
      · rw [taken]
        simp [lineEnds, carriage]
      · rw [bare]
        simp [lineEnds, carriage]

theorem unescape_escapeLiteral (text : List Char) : unescape (escapeLiteral text) = some text := by
  induction text with
  | nil => rfl
  | cons c rest ih =>
    rw [escapeLiteral_cons]
    rcases escaped_cases c rest.head? with ⟨taken, special⟩ | ⟨bare, backslash, quote, opening⟩
    · have meant : escapeValue? c = some c := by
        rcases special with rfl | rfl | ⟨rfl, -⟩
        · rfl
        · rfl
        · rfl
      rw [taken]
      simp [unescape, meant, ih]
    · rw [bare]
      simp [unescape, backslash, ih]

theorem cook_escapeLiteral (text : List Char) : cook (escapeLiteral text) = some (lineEnds text) := by
  rw [cook, lineEnds_escapeLiteral, unescape_escapeLiteral]

private theorem fill_chunk (values : List (List Char)) (more : List TemplatePart)
    (filled : fill values (.chunk [] :: more) = some rest) (text : List Char) :
    fill values (prepend (escapeLiteral text) (.chunk [] :: more)) =
      some (lineEnds text ++ rest) := by
  have chunk : ∀ raw, fill values (.chunk raw :: more) =
      (cook raw).bind fun front => (fill values more).bind fun back => some (front ++ back) := by
    intro raw
    cases values <;> rfl
  have same : fill values more = some rest := by
    rw [chunk, show cook [] = some [] from rfl] at filled
    simpa using filled
  rw [prepend, List.append_nil, chunk, cook_escapeLiteral, same]
  rfl

/-- With the parameters put back, the parts stand for the text of the segments. -/
theorem fill_templateParts (variableName : List Char) (cut : WellCut parts) :
    fill ((parts.filterMap Segment.parameter?).map (':' :: ·)) (templateParts variableName parts) =
      some (lineEnds (parts.flatMap Segment.source)) := by
  induction cut with
  | nil => rfl
  | literal filled apart cut ih =>
    rename_i text rest
    obtain ⟨more, starts⟩ := templateParts_open variableName apart
    have head : (rest.flatMap Segment.source).head? ≠ some '\n' := by
      cases cut with
      | nil => simp
      | literal => exact absurd rfl (apart _ _)
      | parameter => simp [Segment.source]
    rw [starts] at ih
    rw [templateParts, starts, List.filterMap_cons_none rfl, List.flatMap_cons, Segment.source,
      lineEnds_append _ _ head]
    exact fill_chunk _ more ih text
  | parameter filled word cut ih =>
    rename_i name rest
    have plain : ∀ c ∈ ':' :: name, c ≠ '\r' := by
      intro c member
      rcases List.mem_cons.mp member with rfl | inName
      · decide
      · rintro rfl
        exact absurd (word _ inName) (by decide +kernel)
    have source : lineEnds ((Segment.parameter name :: rest).flatMap Segment.source) =
        ':' :: name ++ lineEnds (rest.flatMap Segment.source) := by
      rw [List.flatMap_cons, Segment.source]
      exact lineEnds_plain_append _ _ plain
    have values : ((Segment.parameter name :: rest).filterMap Segment.parameter?).map (':' :: ·) =
        (':' :: name) :: (rest.filterMap Segment.parameter?).map (':' :: ·) := rfl
    rw [templateParts, source, values, fill, fill, ih]
    rfl

/-- The URL of an operation is one template literal. It substitutes the base URL and then the
parameters of the path, each once and in order; with the parameters put back it is the path, but
for the language's own reading of ends of lines. -/
theorem url_denotes_path (op : Operation) :
    ∃ parts, readTemplate op.compile.result.url.toList = some (parts, []) ∧
      substitutions parts = "config.baseUrl".toList :: (parameters op.path).map (fun name =>
        ("encodeURIComponent(String(" ++ propertyAccess "input" name ++ "))").toList) ∧
      fill ([] :: (parameters op.path).map (':' :: ·.toList)) parts =
        some (lineEnds op.path.toList) := by
  have cut := wellCut_segments op.path.toList
  have base : PassedInCode "config.baseUrl".toList := passedInCode_plain (by decide)
  have reads := readParts_template "input".toList (by decide) cut
  have fills := fill_templateParts "input".toList cut
  rw [source_segments] at fills
  refine ⟨.chunk [] :: .substitution "config.baseUrl".toList ::
    templateParts "input".toList (segments op.path.toList), ?_, ?_, ?_⟩
  · have opened : op.compile.result.url.toList = '\x60' :: (substitution "config.baseUrl".toList ++
        ((segments op.path.toList).flatMap (Segment.template "input".toList) ++ ['\x60'])) := by
      simp [Operation.compile, CompiledOperation.url, url, urlChars, templateChars]
    rw [opened, readTemplate, readParts_substitution _ base, reads]
    rfl
  · have expressions : ∀ name, parameterExpression "input".toList name =
        ("encodeURIComponent(String(" ++ propertyAccess "input" (String.ofList name) ++
          "))").toList := by
      intro name
      unfold parameterExpression
      simp only [String.toList_append, propertyAccess, String.toList_ofList]
    rw [substitutions, substitutions, substitutions_templateParts _ cut, parameters, List.map_map]
    exact congrArg (_ :: ·) (List.map_congr_left fun name _ => expressions name)
  · have values : (parameters op.path).map (':' :: ·.toList) =
        ((segments op.path.toList).filterMap Segment.parameter?).map (':' :: ·) := by
      rw [parameters, List.map_map]
      exact List.map_congr_left fun name _ => congrArg (':' :: ·) String.toList_ofList
    rw [values, fill, fill, fills]
    rfl

end ClientGen.PathTemplate
