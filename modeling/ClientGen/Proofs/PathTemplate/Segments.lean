import ClientGen.PathTemplate

/-!
How a path is cut. The segments of a path put together again are the path; parameters are runs of
word characters and literal segments stand apart. The body of a template literal can be read off
the path one character or one parameter at a time.
-/
namespace ClientGen.PathTemplate
open Text

theorem segments_parameter (rest : List Char) (named : rest.takeWhile isWord ≠ []) :
    segments (':' :: rest) = .parameter (rest.takeWhile isWord) :: segments (rest.dropWhile isWord) := by
  rw [segments]
  simp [named]

theorem segments_literal (c : Char) (rest : List Char)
    (plain : ¬(c = ':' ∧ rest.takeWhile isWord ≠ [])) :
    segments (c :: rest) = consLiteral c (segments rest) := by
  rw [segments]
  exact if_neg plain

/-- Nothing of a path is lost, repeated or moved by cutting it. -/
theorem source_segments (path : List Char) : (segments path).flatMap Segment.source = path := by
  induction path using segments.induct with
  | case1 => simp [segments]
  | case2 c rest name isParameter ih =>
    obtain ⟨rfl, named⟩ := isParameter
    rw [segments_parameter rest named, List.flatMap_cons, ih, Segment.source, List.cons_append,
      List.takeWhile_append_dropWhile]
  | case3 c rest name plain ih =>
    rw [segments_literal c rest plain]
    cases cut : segments rest with
    | nil => simpa [cut, consLiteral, Segment.source] using ih
    | cons first more =>
      cases first with
      | literal text => simpa [cut, consLiteral, Segment.source] using ih
      | parameter other => simpa [cut, consLiteral, Segment.source] using ih

/-- Segments as cutting a path gives them. -/
inductive WellCut : List Segment → Prop
  | nil : WellCut []
  | literal (filled : text ≠ []) (apart : ∀ other more, rest ≠ .literal other :: more)
      (cut : WellCut rest) : WellCut (.literal text :: rest)
  | parameter (filled : name ≠ []) (word : ∀ c ∈ name, isWord c = true) (cut : WellCut rest) :
      WellCut (.parameter name :: rest)

private theorem wellCut_consLiteral (c : Char) (cut : WellCut rest) :
    WellCut (consLiteral c rest) := by
  cases cut with
  | nil => exact .literal (by simp) (by simp) .nil
  | literal filled apart cut => exact .literal (by simp) apart cut
  | parameter filled word cut => exact .literal (by simp) (by simp) (.parameter filled word cut)

theorem wellCut_segments (path : List Char) : WellCut (segments path) := by
  induction path using segments.induct with
  | case1 =>
    rw [segments]
    exact .nil
  | case2 c rest name isParameter ih =>
    obtain ⟨rfl, named⟩ := isParameter
    rw [segments_parameter rest named]
    exact .parameter named (List.all_eq_true.mp List.all_takeWhile) ih
  | case3 c rest name plain ih =>
    rw [segments_literal c rest plain]
    exact wellCut_consLiteral c ih

/-- A literal segment in front starts as the path does. -/
theorem head?_of_segments_literal (path : List Char) (cut : segments path = .literal text :: more) :
    text.head? = path.head? := by
  have whole := source_segments path
  have wellCut := wellCut_segments path
  rw [cut] at whole wellCut
  cases wellCut with
  | literal filled _ _ =>
    rw [← whole, List.flatMap_cons, Segment.source]
    cases text with
    | nil => exact absurd rfl filled
    | cons c rest => rfl

/-- How a literal character is written in front of the next one. -/
def escaped (c : Char) (next : Option Char) : List Char :=
  if c = '\\' ∨ c = '\x60' ∨ (c = '$' ∧ next = some '\x7b') then ['\\', c] else [c]

theorem escapeLiteral_cons (c : Char) (rest : List Char) :
    escapeLiteral (c :: rest) = escaped c rest.head? ++ escapeLiteral rest := by
  rw [escapeLiteral, escaped]
  split <;> rfl

theorem templateChars_parameter (rest variableName : List Char)
    (named : rest.takeWhile isWord ≠ []) :
    templateChars (':' :: rest) variableName =
      substitution (parameterExpression variableName (rest.takeWhile isWord)) ++
        templateChars (rest.dropWhile isWord) variableName := by
  rw [templateChars, segments_parameter rest named, List.flatMap_cons]
  rfl

theorem templateChars_literal (c : Char) (rest variableName : List Char)
    (plain : ¬(c = ':' ∧ rest.takeWhile isWord ≠ [])) :
    templateChars (c :: rest) variableName =
      escaped c rest.head? ++ templateChars rest variableName := by
  rw [templateChars, templateChars, segments_literal c rest plain]
  have whole := source_segments rest
  cases cut : segments rest with
  | nil =>
    rw [cut] at whole
    simp [consLiteral, Segment.template, escapeLiteral, escaped, ← whole]
  | cons first more =>
    cases first with
    | literal text =>
      have head := head?_of_segments_literal rest cut
      simp [consLiteral, Segment.template, escapeLiteral_cons, head]
    | parameter name =>
      -- The next character opens a parameter, so nothing is escaped on its account.
      rw [cut, List.flatMap_cons, Segment.source] at whole
      simp [consLiteral, Segment.template, escapeLiteral, escaped, ← whole]

end ClientGen.PathTemplate
