import ClientGen.Proofs.PathTemplate.Segments
import ClientGen.Proofs.Text.Split

/-!
The parameters of a path, told from the path alone. They are the maximal runs of word characters
that a colon leads, each where it stands, from the left to the right; all else is literal. A path is
cut once, so its parameters and the body of its template literal agree on where they are.
-/
namespace ClientGen.PathTemplate
open Text

/-- A maximal run of word characters in a path, behind a colon at a position. A colon is no word
character, so the run cannot begin before it. -/
structure LedByColon (path : List Char) (position : Nat) (name : List Char) : Prop where
  filled : name ≠ []
  words : ∀ c ∈ name, isWord c = true
  stands : ∃ front back, front.length = position ∧ path = front ++ ':' :: (name ++ back) ∧
    ∀ c, back.head? = some c → isWord c = false

/-- Segments with the positions at which they start, the first at a given one. -/
def placed : Nat → List Segment → List (Nat × Segment)
  | _, [] => []
  | start, segment :: rest => (start, segment) :: placed (start + segment.source.length) rest

/-- Segments that make up a path, each at the position where those before it end. -/
structure Tiles (cut : List (Nat × Segment)) (path : List Char) : Prop where
  whole : cut.flatMap (·.2.source) = path
  inTurn : ∀ before place after, cut = before ++ place :: after →
    place.1 = (before.flatMap (·.2.source)).length

private theorem isWord_colon : isWord ':' = false := by decide +kernel

private theorem not_isWord_of_head?_dropWhile (text : List Char) :
    ∀ c, (text.dropWhile isWord).head? = some c → isWord c = false := by
  intro c head
  have stops := List.head?_dropWhile_not isWord text
  rw [head] at stops
  simpa using stops

section Runs

/-- A run stands behind the first character, or it stands in what follows. -/
theorem ledByColon_cons (c : Char) (rest : List Char) (position : Nat) (name : List Char) :
    LedByColon (c :: rest) position name ↔
      (position = 0 ∧ c = ':' ∧ rest.takeWhile isWord = name ∧ name ≠ []) ∨
        ∃ later, position = later + 1 ∧ LedByColon rest later name := by
  constructor
  · rintro ⟨filled, words, front, back, rfl, same, ends⟩
    cases front with
    | nil =>
      obtain ⟨rfl, rfl⟩ := List.cons.inj same
      exact .inl ⟨rfl, rfl, takeWhile_run words ends, filled⟩
    | cons first others =>
      obtain ⟨rfl, rfl⟩ := List.cons.inj same
      exact .inr ⟨others.length, rfl, filled, words, others, back, rfl, rfl, ends⟩
  · rintro (⟨rfl, rfl, rfl, filled⟩ | ⟨later, rfl, filled, words, front, back, rfl, rfl, ends⟩)
    · have whole := List.takeWhile_append_dropWhile (p := isWord) (l := rest)
      refine ⟨filled, List.all_eq_true.mp List.all_takeWhile, [], rest.dropWhile isWord, rfl, ?_,
        not_isWord_of_head?_dropWhile rest⟩
      rw [whole]
      rfl
    · exact ⟨filled, words, c :: front, back, rfl, rfl, ends⟩

/-- No run is led from within word characters. -/
theorem ledByColon_words_append (words : ∀ c ∈ front, isWord c = true) (rest : List Char)
    (position : Nat) (name : List Char) :
    LedByColon (front ++ rest) position name ↔
      ∃ later, position = front.length + later ∧ LedByColon rest later name := by
  induction front generalizing position with
  | nil => simp
  | cons c more ih =>
    rw [List.forall_mem_cons] at words
    have noColon : c ≠ ':' := by
      rintro rfl
      rw [isWord_colon] at words
      cases words.1
    rw [List.cons_append, ledByColon_cons]
    simp only [noColon, false_and, and_false, false_or, ih words.2]
    constructor
    · rintro ⟨_, rfl, later, rfl, led⟩
      exact ⟨later, by rw [List.length_cons]; omega, led⟩
    · rintro ⟨later, rfl, led⟩
      exact ⟨more.length + later, by rw [List.length_cons]; omega, later, rfl, led⟩

/-- A run has a word character behind its colon and no colon in it. -/
theorem LedByColon.apart_from_lone_colon (led : LedByColon path start name)
    (colon : path[position]? = some ':')
    (lone : ∀ c, path[position + 1]? = some c → isWord c = false) :
    position < start ∨ start + name.length < position := by
  obtain ⟨filled, words, front, back, rfl, rfl, -⟩ := led
  rcases Nat.lt_or_ge position front.length with before | reached
  · exact .inl before
  obtain ⟨offset, rfl⟩ := Nat.exists_eq_add_of_le reached
  cases offset with
  | zero =>
    obtain ⟨first, more, rfl⟩ := List.exists_cons_of_ne_nil filled
    have found : (front ++ ':' :: (first :: more ++ back))[front.length + 1]? = some first := by
      simp
    have next := lone first found
    rw [words first List.mem_cons_self] at next
    cases next
  | succ index =>
    rcases Nat.lt_or_ge index name.length with inName | past
    · have same : name[index] = ':' := by
        have found : (front ++ ':' :: (name ++ back))[front.length + (index + 1)]? =
            some name[index] := by
          rw [List.getElem?_append_right reached, Nat.add_sub_cancel_left, List.getElem?_cons_succ,
            List.getElem?_append_left inName, List.getElem?_eq_getElem inName]
        exact Option.some.inj (found.symm.trans colon)
      have word := words _ (List.getElem_mem inName)
      rw [same, isWord_colon] at word
      cases word
    · exact .inr (by omega)

end Runs

section Places

private theorem flatMap_placed (write : Segment → List α) (start : Nat) (cut : List Segment) :
    (placed start cut).flatMap (write ·.2) = cut.flatMap write := by
  induction cut generalizing start with
  | nil => rfl
  | cons segment rest ih => rw [placed, List.flatMap_cons, List.flatMap_cons, ih]

private theorem filterMap_placed (read : Segment → Option α) (start : Nat) (cut : List Segment) :
    (placed start cut).filterMap (read ·.2) = cut.filterMap read := by
  induction cut generalizing start with
  | nil => rfl
  | cons segment rest ih => simp only [placed, List.filterMap_cons, ih]

/-- Each segment starts where those before it end. -/
theorem start_of_placed {cut : List Segment}
    (here : placed start cut = before ++ place :: after) :
    place.1 = start + (before.flatMap (·.2.source)).length := by
  induction cut generalizing start before with
  | nil => simp [placed] at here
  | cons segment rest ih =>
    cases before with
    | nil =>
      obtain ⟨rfl, -⟩ := List.cons.inj here
      simp
    | cons first others =>
      obtain ⟨rfl, later⟩ := List.cons.inj here
      rw [ih later, List.flatMap_cons, List.length_append, Nat.add_assoc]

theorem tiles_placed (cut : List Segment) : Tiles (placed 0 cut) (cut.flatMap Segment.source) where
  whole := flatMap_placed Segment.source 0 cut
  inTurn before place after here := by
    rw [start_of_placed here, Nat.zero_add]

/-- A literal character in front moves all parameters by one. -/
theorem mem_placed_consLiteral (c : Char) (cut : List Segment) (start position : Nat)
    (name : List Char) :
    (position, Segment.parameter name) ∈ placed start (consLiteral c cut) ↔
      (position, Segment.parameter name) ∈ placed (start + 1) cut := by
  cases cut with
  | nil => simp [consLiteral, placed]
  | cons first rest =>
    cases first with
    | literal text =>
      have same : start + (text.length + 1) = start + 1 + text.length := by omega
      simp [consLiteral, placed, Segment.source, same]
    | parameter other => simp [consLiteral, placed, Segment.source]

/-- The parameters among the segments of a path are the runs that a colon leads, at the positions of
their colons. -/
theorem mem_placed_segments (path : List Char) (start position : Nat) (name : List Char) :
    (position, Segment.parameter name) ∈ placed start (segments path) ↔
      ∃ offset, position = start + offset ∧ LedByColon path offset name := by
  induction path using segments.induct generalizing start with
  | case1 =>
    have none : ∀ offset, ¬LedByColon [] offset name := by
      rintro offset ⟨-, -, front, back, -, same, -⟩
      simp at same
    simp [segments, placed, none]
  | case2 c rest run isParameter ih =>
    obtain ⟨rfl, named⟩ := isParameter
    have words : ∀ c ∈ rest.takeWhile isWord, isWord c = true :=
      List.all_eq_true.mp List.all_takeWhile
    have whole := List.takeWhile_append_dropWhile (p := isWord) (l := rest)
    -- behind the colon no other run starts before the end of the first one
    have later : ∀ offset, LedByColon rest offset name ↔ ∃ further,
        offset = (rest.takeWhile isWord).length + further ∧
          LedByColon (rest.dropWhile isWord) further name := by
      intro offset
      rw [← ledByColon_words_append words, whole]
    rw [segments_parameter rest named, placed, List.mem_cons, ih]
    simp only [ledByColon_cons, later, Segment.source, List.length_cons, Prod.mk.injEq,
      Segment.parameter.injEq]
    constructor
    · rintro (⟨rfl, rfl⟩ | ⟨further, rfl, led⟩)
      · exact ⟨0, rfl, .inl ⟨rfl, trivial, rfl, named⟩⟩
      · exact ⟨_, by omega, .inr ⟨_, rfl, further, rfl, led⟩⟩
    · rintro ⟨offset, rfl, ⟨rfl, -, rfl, -⟩ | ⟨_, rfl, further, rfl, led⟩⟩
      · exact .inl ⟨rfl, rfl⟩
      · exact .inr ⟨further, by omega, led⟩
  | case3 c rest run plain ih =>
    have first : ∀ offset, ¬(offset = 0 ∧ c = ':' ∧ rest.takeWhile isWord = name ∧ name ≠ []) := by
      rintro offset ⟨-, colon, rfl, named⟩
      exact plain ⟨colon, named⟩
    rw [segments_literal c rest plain, mem_placed_consLiteral, ih]
    simp only [ledByColon_cons, first, false_or]
    constructor
    · rintro ⟨offset, rfl, led⟩
      exact ⟨offset + 1, by omega, offset, rfl, led⟩
    · rintro ⟨_, rfl, offset, rfl, led⟩
      exact ⟨offset, by omega, led⟩

end Places

/-- The parameters of a path are exactly the maximal runs of word characters that a colon leads, in
their order and with repetitions. They and the literal text between them are the path, nothing lost,
repeated or overlapping; the body of the template literal is written from the same cut; and a colon
without a word character behind it belongs to no parameter. -/
theorem parameters_are_runs_led_by_colons (path variableName : String) :
    ∃ cut : List (Nat × Segment), Tiles cut path.toList ∧
      (∀ position name, (position, .parameter name) ∈ cut ↔
        LedByColon path.toList position name) ∧
      parameters path = (cut.filterMap (·.2.parameter?)).map String.ofList ∧
      template path variableName =
        String.ofList (cut.flatMap (·.2.template variableName.toList)) ∧
      ∀ position, path.toList[position]? = some ':' →
        (∀ c, path.toList[position + 1]? = some c → isWord c = false) →
        ∀ start name, (start, .parameter name) ∈ cut →
          position < start ∨ start + name.length < position := by
  have member : ∀ position name, (position, .parameter name) ∈ placed 0 (segments path.toList) ↔
      LedByColon path.toList position name := by
    intro position name
    rw [mem_placed_segments]
    simp
  have tiles := tiles_placed (segments path.toList)
  rw [source_segments] at tiles
  refine ⟨placed 0 (segments path.toList), tiles, member, ?_, ?_, ?_⟩
  · rw [parameters, filterMap_placed Segment.parameter?]
  · rw [template, templateChars, flatMap_placed (Segment.template variableName.toList)]
  · intro position colon lone start name listed
    exact ((member start name).mp listed).apart_from_lone_colon colon lone

/-- Parameters that are glued together, one of them beyond ASCII, behind a colon that leads none. -/
theorem parameters_are_runs_led_by_colons_glued :
    ∃ cut, Tiles cut "/12:/:a:é".toList ∧
      parameters "/12:/:a:é" = (cut.filterMap (·.2.parameter?)).map String.ofList ∧
      (5, .parameter ['a']) ∈ cut ∧ (7, .parameter ['é']) ∈ cut ∧
      ("/12:/:a:é".toList[3]? = some ':' ∧
        ∀ c, "/12:/:a:é".toList[4]? = some c → isWord c = false) ∧
      ∀ start name, (start, .parameter name) ∈ cut → 3 < start ∨ start + name.length < 3 := by
  obtain ⟨cut, tiles, member, names, -, lone⟩ :=
    parameters_are_runs_led_by_colons "/12:/:a:é" "input"
  have slash : isWord '/' = false := by decide +kernel
  have latin : isWord 'a' = true := by decide +kernel
  have accented : isWord 'é' = true := by decide +kernel
  have colon : "/12:/:a:é".toList[3]? = some ':' := by decide
  have behind : ∀ c, "/12:/:a:é".toList[4]? = some c → isWord c = false := by
    rintro c found
    cases found
    exact slash
  have first : LedByColon "/12:/:a:é".toList 5 ['a'] :=
    ⟨by decide, by simpa using latin, "/12:/".toList, ":é".toList, rfl, rfl,
      by simpa using isWord_colon⟩
  have second : LedByColon "/12:/:a:é".toList 7 ['é'] :=
    ⟨by decide, by simpa using accented, "/12:/:a".toList, [], rfl, rfl, by simp⟩
  exact ⟨cut, tiles, names, (member _ _).mpr first, (member _ _).mpr second, ⟨colon, behind⟩,
    lone 3 colon behind⟩

end ClientGen.PathTemplate
