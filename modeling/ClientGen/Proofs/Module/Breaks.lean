import ClientGen.Proofs.Module.Stamps
import ClientGen.Proofs.PathTemplate.Segments
import ClientGen.Proofs.TypeScript.Printed

/-!
Where a stamp can break into generated code. Code is put together from pieces; a piece in which no
line starts with a slash can be put in front of any code without making a stamp line. Paths are the
one kind of text that keeps its line feeds, and a URL holds a break exactly where its path does.
-/
namespace ClientGen.Module
open Text PathTemplate

/-- Code that no stamp breaks into, neither inside nor when a line ends in front of it. -/
def Whole (code : List Char) : Prop := ¬stampBreak <:+: code ∧ code.head? ≠ some '/'

def KeepsWhole (code : List Char) : Prop := ∀ after, Whole after → Whole (code ++ after)

theorem keepsWhole_nil : KeepsWhole [] := fun _ whole => whole

theorem keepsWhole_append (first : KeepsWhole one) (second : KeepsWhole two) :
    KeepsWhole (one ++ two) := by
  intro after whole
  rw [List.append_assoc]
  exact first _ (second _ whole)

theorem keepsWhole_flatten (each : ∀ code ∈ codes, KeepsWhole code) :
    KeepsWhole (List.flatten codes) := by
  induction codes with
  | nil => exact keepsWhole_nil
  | cons code rest ih =>
    rw [List.forall_mem_cons] at each
    rw [List.flatten_cons]
    exact keepsWhole_append each.1 (ih each.2)

theorem keepsWhole_intercalate (separator : KeepsWhole between)
    (each : ∀ code ∈ codes, KeepsWhole code) : KeepsWhole (List.intercalate between codes) := by
  apply keepsWhole_flatten
  induction codes with
  | nil =>
    intro code member
    cases member
  | cons code rest ih =>
    rw [List.forall_mem_cons] at each
    cases rest with
    | nil => simpa using each.1
    | cons next others =>
      rw [List.intersperse_cons_cons, List.forall_mem_cons, List.forall_mem_cons]
      exact ⟨each.1, separator, ih each.2⟩

/-- Whether no line after the first starts with a slash. -/
def calm : List Char → Bool
  | [] => true
  | c :: rest => !(c == '\n' && rest.head? == some '/') && calm rest

/-- Code whose lines do not start with a slash. -/
theorem keepsWhole_calm (isCalm : calm code = true) (start : code.head? ≠ some '/') :
    KeepsWhole code := by
  have inside : ∀ after, Whole after → ¬stampBreak <:+: code ++ after := by
    clear start
    intro after whole
    induction code with
    | nil => exact whole.1
    | cons c rest ih =>
      rw [calm, Bool.and_eq_true] at isCalm
      rw [List.cons_append, List.infix_cons_iff, not_or]
      refine ⟨?_, ih isCalm.2⟩
      intro starts
      obtain ⟨newline, mark⟩ := List.cons_prefix_cons.mp starts
      subst newline
      cases rest with
      | nil =>
        obtain ⟨more, rfl⟩ := mark
        exact whole.2 rfl
      | cons d others =>
        obtain ⟨slash, -⟩ := List.cons_prefix_cons.mp mark
        subst slash
        cases isCalm.1
  intro after whole
  refine ⟨inside after whole, ?_⟩
  cases code with
  | nil => exact whole.2
  | cons c rest => exact start

theorem keepsWhole_of_no_slash (free : '/' ∉ code) : KeepsWhole code := by
  apply keepsWhole_calm
  · induction code with
    | nil => rfl
    | cons c rest ih =>
      rw [List.mem_cons, not_or] at free
      have head : rest.head? ≠ some '/' := by
        intro starts
        exact free.2 (List.mem_of_head? starts)
      simp [calm, head, ih free.2]
  · intro starts
    exact free (List.mem_of_head? starts)

private theorem keepsWhole_of_one_line (single : '\n' ∉ code) (start : code.head? ≠ some '/') :
    KeepsWhole code := by
  refine keepsWhole_calm ?_ start
  clear start
  induction code with
  | nil => rfl
  | cons c rest ih =>
    rw [List.mem_cons, not_or] at single
    simp [calm, Ne.symm single.1, ih single.2]

section Paths

/-- Text that starts with a character cannot start in front of the first place of it. -/
private theorem infix_of_free (free : c ∉ front) (found : c :: word <:+: front ++ rest) :
    c :: word <:+: rest := by
  induction front with
  | nil => exact found
  | cons d more ih =>
    rw [List.mem_cons, not_or] at free
    rw [List.cons_append, List.infix_cons_iff] at found
    rcases found with starts | later
    · exact absurd (List.cons_prefix_cons.mp starts).1 free.1
    · exact ih free.2 later

/-- Text without some character lies on one side of it. -/
private theorem prefix_of_free (free : c ∉ word) (found : word <+: front ++ c :: rest) :
    word <+: front := by
  induction word generalizing front with
  | nil => exact List.nil_prefix
  | cons d more ih =>
    rw [List.mem_cons, not_or] at free
    cases front with
    | nil => exact absurd (List.cons_prefix_cons.mp found).1.symm free.1
    | cons e others =>
      obtain ⟨same, later⟩ := List.cons_prefix_cons.mp found
      exact List.cons_prefix_cons.mpr ⟨same, ih free.2 later⟩

private theorem infix_sides (free : c ∉ word) (found : word <:+: front ++ c :: rest) :
    word <:+: front ∨ word <:+: c :: rest := by
  induction front with
  | nil => exact .inr found
  | cons d more ih =>
    rw [List.cons_append, List.infix_cons_iff] at found
    rcases found with starts | later
    · exact .inl (prefix_of_free free starts).isInfix
    · exact (ih later).imp_left List.infix_cons

/-- The body of a URL starts with a text that needs no escape only where its path does. -/
theorem prefix_of_prefix_template (word : List Char) (dollar : '$' ∉ word) (backslash : '\\' ∉ word)
    (path variableName : List Char) (starts : word <+: templateChars path variableName) :
    word <+: path := by
  induction word generalizing path with
  | nil => exact List.nil_prefix
  | cons c more ih =>
    rw [List.mem_cons, not_or] at dollar backslash
    cases path with
    | nil =>
      rw [templateChars, segments] at starts
      cases List.prefix_nil.mp starts
    | cons d rest =>
      by_cases parameter : d = ':' ∧ rest.takeWhile isWord ≠ []
      · obtain ⟨rfl, named⟩ := parameter
        rw [templateChars_parameter rest variableName named] at starts
        exact absurd (List.cons_prefix_cons.mp starts).1.symm dollar.1
      · rw [templateChars_literal d rest variableName parameter, escaped] at starts
        split at starts
        · exact absurd (List.cons_prefix_cons.mp starts).1.symm backslash.1
        · obtain ⟨same, later⟩ := List.cons_prefix_cons.mp starts
          exact List.cons_prefix_cons.mpr ⟨same, ih dollar.2 backslash.2 rest later⟩

private theorem newline_not_mem_substitution (name : List Char) :
    '\n' ∉ substitution (parameterExpression "input".toList name) := by
  have access := TypeScript.newline_not_mem_propertyAccess "input".toList name (by decide)
  have call : '\n' ∉ "encodeURIComponent(String(".toList := by decide
  have closed : '\n' ∉ "))".toList := by decide
  unfold substitution parameterExpression
  simp only [List.mem_append, List.mem_cons, List.not_mem_nil, not_or]
  exact ⟨⟨by decide, by decide, ⟨call, access⟩, closed⟩, by decide, not_false⟩

/-- A stamp breaks into the body of a URL only where it breaks into the path. -/
theorem stampBreak_of_template (path : List Char)
    (found : stampBreak <:+: templateChars path "input".toList) : stampBreak <:+: path := by
  induction path using segments.induct with
  | case1 =>
    rw [templateChars, segments] at found
    cases List.infix_nil.mp found
  | case2 c rest name isParameter ih =>
    obtain ⟨rfl, named⟩ := isParameter
    rw [templateChars_parameter rest _ named] at found
    have later := ih (infix_of_free (newline_not_mem_substitution _) found)
    have tail : rest.dropWhile isWord <:+ ':' :: rest :=
      (List.dropWhile_suffix _).trans (List.suffix_cons _ _)
    exact later.trans tail.isInfix
  | case3 c rest name plain ih =>
    rw [templateChars_literal c rest _ plain] at found
    by_cases newline : c = '\n'
    · subst newline
      have bare : escaped '\n' rest.head? = ['\n'] := by simp [escaped]
      rw [bare, List.singleton_append, List.infix_cons_iff] at found
      rcases found with starts | later
      · obtain ⟨-, mark⟩ := List.cons_prefix_cons.mp starts
        have inPath := prefix_of_prefix_template _ (by decide) (by decide) rest _ mark
        exact ((List.prefix_cons_inj '\n').mpr inPath).isInfix
      · exact List.infix_cons (ih later)
    · have free : '\n' ∉ escaped c rest.head? := by
        unfold escaped
        split
        · simp [Ne.symm newline]
        · simp [Ne.symm newline]
      exact List.infix_cons (ih (infix_of_free free found))

/-- The URL of a path that no stamp breaks into can stand in front of any whole code. -/
theorem keepsWhole_url (path : List Char) (unbroken : ¬stampBreak <:+: path) :
    KeepsWhole (urlChars path) := by
  intro after whole
  refine ⟨?_, by simp [urlChars]⟩
  intro found
  have base : '\n' ∉ '\x60' :: substitution "config.baseUrl".toList := by decide
  rw [urlChars, List.append_assoc, List.append_assoc] at found
  rcases infix_sides (by decide) (infix_of_free base found) with inPath | behind
  · exact unbroken (stampBreak_of_template path inPath)
  · rcases List.infix_cons_iff.mp behind with starts | later
    · cases (List.cons_prefix_cons.mp starts).1
    · exact whole.1 later

end Paths

section Compiled
open TypeScript

theorem keepsWhole_value (value : Json.Value) : KeepsWhole value.chars :=
  keepsWhole_of_one_line (newline_not_mem_printed (all_printed_value value)) (head?_value value)

theorem keepsWhole_number (n : Json.Number) : KeepsWhole (n.chars .data) :=
  keepsWhole_of_no_slash (slash_not_mem_number .data n)

theorem keepsWhole_stringLiteral (text : List Char) : KeepsWhole (stringLiteralChars text) :=
  keepsWhole_of_one_line (newline_not_mem_printed (all_printed_stringLiteral text))
    (by simp [stringLiteralChars])

theorem keepsWhole_propertyKey (name : List Char) : KeepsWhole (propertyKeyChars name) :=
  keepsWhole_of_one_line (newline_not_mem_propertyKey name) (head?_propertyKey name)

end Compiled

end ClientGen.Module
