import ClientGen.Proofs.Module.Content
import ClientGen.Proofs.Operation.Reroute

/-!
Text that the comparison of modules does not see. Where a stamp breaks into a path, the rest of that
line belongs to the stamp: a longer path gives a different module with the same content. So every
payload with such a path has another one that cannot be told from it.
-/
namespace ClientGen.Module
open Text PathTemplate

/-- A path with a letter more behind the first stamp that breaks into it. -/
def lengthenChars : List Char → List Char
  | [] => []
  | c :: rest =>
    if stampBreak.isPrefixOf (c :: rest) then
      stampBreak ++ 'x' :: (c :: rest).drop stampBreak.length
    else c :: lengthenChars rest

/-- A path with a letter more behind the first stamp that breaks into it. -/
def lengthen (path : String) : String := String.ofList (lengthenChars path.toList)

/-- Lengthening changes exactly the paths that a stamp breaks into. -/
theorem lengthenChars_cases (path : List Char) :
    (¬stampBreak <:+: path ∧ lengthenChars path = path) ∨
      ∃ front back, path = front ++ stampBreak ++ back ∧
        lengthenChars path = front ++ stampBreak ++ 'x' :: back := by
  induction path with
  | nil => exact .inl ⟨by decide, rfl⟩
  | cons c rest ih =>
    rw [lengthenChars]
    split
    next starts =>
      obtain ⟨back, whole⟩ := List.isPrefixOf_iff_prefix.mp starts
      refine .inr ⟨[], back, whole.symm, ?_⟩
      rw [← whole, List.drop_left, List.nil_append]
    next other =>
      rcases ih with ⟨unbroken, kept⟩ | ⟨front, back, whole, longer⟩
      · refine .inl ⟨?_, by rw [kept]⟩
        rw [List.infix_cons_iff, not_or]
        exact ⟨mt List.isPrefixOf_iff_prefix.mpr other, unbroken⟩
      · exact .inr ⟨c :: front, back, by rw [whole]; rfl, by rw [longer]; rfl⟩

/-- Code and other code in its place that leaves the same behind when stamps are left out, but is
longer at least where a break calls for it. -/
structure Outgrown (broken : Prop) (one two : List Char) : Prop where
  hidden : ∀ before after,
    stripStampsChars (before ++ one ++ after) = stripStampsChars (before ++ two ++ after)
  longer : one.length ≤ two.length
  different : broken → one.length < two.length

namespace Outgrown

theorem refl (code : List Char) : Outgrown False code code :=
  ⟨fun _ _ => rfl, Nat.le_refl _, False.elim⟩

theorem append (first : Outgrown p one two) (second : Outgrown q three four) :
    Outgrown (p ∨ q) (one ++ three) (two ++ four) := by
  have longer := first.longer
  have otherLonger := second.longer
  refine ⟨?_, ?_, ?_⟩
  · intro before after
    have left := first.hidden before (three ++ after)
    have right := second.hidden (before ++ two) after
    simp only [← List.append_assoc] at left right ⊢
    exact left.trans right
  · rw [List.length_append, List.length_append]
    omega
  · rw [List.length_append, List.length_append]
    rintro (broken | broken)
    · have := first.different broken
      omega
    · have := second.different broken
      omega

theorem within (around : Outgrown p one two) (front back : List Char) :
    Outgrown p (front ++ one ++ back) (front ++ two ++ back) := by
  obtain ⟨hidden, longer, different⟩ := ((refl front).append around).append (refl back)
  exact ⟨hidden, longer, fun broken => different (.inl (.inr broken))⟩

theorem flatMap (p : α → Prop) (f g : α → List Char) (items : List α)
    (each : ∀ item ∈ items, Outgrown (p item) (f item) (g item)) :
    Outgrown (∃ item ∈ items, p item) (items.flatMap f) (items.flatMap g) := by
  induction items with
  | nil => exact ⟨fun _ _ => rfl, Nat.le_refl _, by simp⟩
  | cons item rest ih =>
    rw [List.forall_mem_cons] at each
    rw [List.flatMap_cons, List.flatMap_cons]
    obtain ⟨hidden, longer, different⟩ := each.1.append (ih each.2)
    refine ⟨hidden, longer, ?_⟩
    rintro ⟨other, listed, broken⟩
    rcases List.mem_cons.mp listed with rfl | later
    · exact different (.inl broken)
    · exact different (.inr ⟨other, later, broken⟩)

end Outgrown

/-- A letter more in a stamp line does not show. -/
theorem outgrown_break (front back : List Char) :
    Outgrown True (front ++ stampBreak ++ back) (front ++ stampBreak ++ 'x' :: back) := by
  refine ⟨?_, by simp, by simp⟩
  intro before after
  have line : ∀ rest, before ++ (front ++ stampBreak ++ rest) ++ after =
      (before ++ front) ++ '\n' :: (stampMark.toList ++ (rest ++ after)) := by
    intro rest
    simp [stampBreak]
  have same := stripStampsChars_mark [] ['x'] (back ++ after) (by decide) (by decide)
  have cut := fun rest => stripStampsChars_append (before ++ front) (stampMark.toList ++ rest)
  rw [line, line, cut, cut]
  exact congrArg (_ ++ ·) same

section Urls

private theorem takeWhile_newline (p : Char → Bool) (stops : p '\n' = false)
    (front back : List Char) :
    (front ++ '\n' :: back).takeWhile p = front.takeWhile p ∧
      (front ++ '\n' :: back).dropWhile p = front.dropWhile p ++ '\n' :: back := by
  induction front with
  | nil => simp [stops]
  | cons c rest ih =>
    cases holds : p c with
    | false => simp [holds]
    | true => simp [holds, ih]

/-- The URL of a path is cut where a line of the path ends. -/
theorem templateChars_newline (front back variableName : List Char) :
    templateChars (front ++ '\n' :: back) variableName =
      templateChars front variableName ++ templateChars ('\n' :: back) variableName := by
  have stops : isWord '\n' = false := by decide +kernel
  induction front using segments.induct with
  | case1 => simp [templateChars, segments]
  | case2 c rest name isParameter ih =>
    obtain ⟨rfl, named⟩ := isParameter
    obtain ⟨word, behind⟩ := takeWhile_newline isWord stops rest back
    have namedBoth : (rest ++ '\n' :: back).takeWhile isWord ≠ [] := by
      rw [word]
      exact named
    rw [List.cons_append, templateChars_parameter _ _ namedBoth, word, behind, ih,
      templateChars_parameter rest _ named, List.append_assoc]
  | case3 c rest name plain ih =>
    obtain ⟨word, -⟩ := takeWhile_newline isWord stops rest back
    have plainBoth : ¬(c = ':' ∧ (rest ++ '\n' :: back).takeWhile isWord ≠ []) := by
      rw [word]
      exact plain
    have same : escaped c (rest ++ '\n' :: back).head? = escaped c rest.head? := by
      cases rest with
      | nil => simp [escaped]
      | cons d more => rfl
    rw [List.cons_append, templateChars_literal c _ _ plainBoth, same, ih,
      templateChars_literal c rest _ plain, List.append_assoc]

/-- A character that says nothing special in a path or in a URL. -/
private def isInert (c : Char) : Bool := c != '\\' && c != '\x60' && c != '$' && c != ':'

/-- Text without special characters stands in a URL as it is. -/
theorem templateChars_inert (word rest variableName : List Char)
    (inert : word.all isInert = true) :
    templateChars (word ++ rest) variableName = word ++ templateChars rest variableName := by
  induction word with
  | nil => rfl
  | cons c more ih =>
    rw [List.all_cons, Bool.and_eq_true] at inert
    have special := inert.1
    simp only [isInert, Bool.and_eq_true, bne_iff_ne] at special
    obtain ⟨⟨⟨backslash, backquote⟩, dollar⟩, colon⟩ := special
    have plain : ¬(c = ':' ∧ (more ++ rest).takeWhile isWord ≠ []) := fun both => colon both.1
    have bare : escaped c (more ++ rest).head? = [c] := by
      simp [escaped, backslash, backquote, dollar]
    rw [List.cons_append, templateChars_literal c _ _ plain, bare, ih inert.2]
    rfl

/-- The mark of a stamp stands in a URL as it is. -/
theorem templateChars_stampBreak (rest variableName : List Char) :
    templateChars (stampBreak ++ rest) variableName =
      stampBreak ++ templateChars rest variableName := by
  have parts : stampBreak = "\n// Generated at".toList ++ ':' :: [' '] := by decide
  have blank : isWord ' ' = false := by decide +kernel
  have plain : ¬(':' = ':' ∧ (' ' :: rest).takeWhile isWord ≠ []) := by simp [blank]
  have colon : templateChars (':' :: ' ' :: rest) variableName =
      ':' :: ' ' :: templateChars rest variableName := by
    have space := templateChars_inert [' '] rest variableName (by decide)
    rw [List.singleton_append] at space
    rw [templateChars_literal ':' _ _ plain, space]
    rfl
  rw [parts, List.append_assoc, templateChars_inert _ _ _ (by decide)]
  rw [List.cons_append, List.singleton_append, colon]
  rfl

private theorem templateChars_broken (front back variableName : List Char) :
    templateChars (front ++ stampBreak ++ back) variableName =
      templateChars front variableName ++ stampBreak ++ templateChars back variableName := by
  have line : front ++ stampBreak ++ back = front ++ '\n' :: (stampMark.toList ++ back) := by
    rw [List.append_assoc]
    rfl
  have broken := templateChars_stampBreak back variableName
  rw [stampBreak, List.cons_append] at broken
  rw [line, templateChars_newline, broken, List.append_assoc]
  rfl

/-- A longer path behind a stamp gives a longer URL. -/
theorem outgrown_url (path : String) :
    Outgrown (stampBreak <:+: path.toList) (url path).toList (url (lengthen path)).toList := by
  simp only [url, String.toList_ofList, lengthen]
  rcases lengthenChars_cases path.toList with ⟨unbroken, kept⟩ | ⟨front, back, whole, longer⟩
  · rw [kept]
    exact ⟨fun _ _ => rfl, Nat.le_refl _, fun broken => absurd broken unbroken⟩
  · have letter := templateChars_inert ['x'] back "input".toList (by decide)
    rw [List.singleton_append, List.singleton_append] at letter
    rw [longer, whole, urlChars, urlChars, templateChars_broken, templateChars_broken, letter]
    obtain ⟨hidden, long, different⟩ := (outgrown_break _ _).within _ ['\x60']
    exact ⟨hidden, long, fun _ => different trivial⟩

end Urls

section Modules

/-- The code of a function around its URL. -/
theorem functionText_around (op : CompiledOperation) :
    ∃ front back, ∀ path, ({ op with path } : CompiledOperation).functionText =
      String.join (front ++ url path :: back) :=
  ⟨["export async function ", op.camel, "(args: ", op.inputTypeName,
      ", config: ClientConfig = clientConfig): Promise<", op.resultTypeName, "> \x7b\n",
      "  const input = ", op.inputSchemaName, ".parse(args);\n",
      "  const response = await fetch("],
    [", \x7b\n",
      "    method: \"", op.verb.name, "\",\n",
      "    headers: \x7b\n",
      "      \"Content-Type\": \"application/json\",\n",
      "      ...(await resolveHeaders(config.headers)),\n",
      "    \x7d,\n",
      if op.includesBody then "    body: JSON.stringify(input),\n" else "",
      "  \x7d);\n",
      "  if (!response.ok) \x7b\n",
      "    throw new HttpError(response.status, await response.text());\n",
      "  \x7d\n",
      "  const parsed = ", op.resultSchemaName, ".safeParse(await response.json());\n",
      "  if (!parsed.success) \x7b\n",
      "    throw new ResponseValidationError(\"", op.camel, "\", parsed.error);\n",
      "  \x7d\n",
      "  return parsed.data;\n",
      "\x7d\n"],
    fun _ => rfl⟩

private theorem outgrown_functionText (op : CompiledOperation) :
    Outgrown (stampBreak <:+: op.path.toList) op.functionText.toList
      (op.reroute lengthen).functionText.toList := by
  obtain ⟨front, back, around⟩ := functionText_around op
  have texts : ∀ path, ({ op with path } : CompiledOperation).functionText.toList =
      front.flatMap String.toList ++ (url path).toList ++ back.flatMap String.toList := by
    intro path
    rw [around, String.toList_join, List.flatMap_append, List.flatMap_cons, List.append_assoc]
  have own := texts op.path
  have other := texts (lengthen op.path)
  rw [CompiledOperation.reroute, own, other]
  exact (outgrown_url op.path).within _ _

/-- The code of a module before its functions. -/
private def front (ops : List CompiledOperation) (baseUrl : Option String) : List String :=
  [importLines, String.join (ops.map schemaBlock),
    "\n", configTypes, "\n", clientConfig baseUrl, "\n", configure, "\n", runtime]

/-- The code of a module after its functions. -/
private def back (ops : List CompiledOperation) : List String :=
  ["\nexport const schemas = \x7b\n", String.join (ops.map schemaEntries), "\x7d;\n",
    "\nexport default \x7b\n  configure,\n  schemas,\n", String.join (ops.map exportEntry),
    "\x7d;\n"]

private theorem toList_body (ops : List CompiledOperation) (baseUrl : Option String) :
    (body ops baseUrl).toList = (front ops baseUrl).flatMap String.toList ++
      ops.flatMap (fun op => ['\n'] ++ op.functionText.toList ++ []) ++
      (back ops).flatMap String.toList := by
  have functions : (String.join (ops.map fun op => "\n" ++ op.functionText)).toList =
      ops.flatMap (fun op => ['\n'] ++ op.functionText.toList ++ []) := by
    rw [String.toList_join, List.flatMap_map]
    simp only [String.toList_append, List.append_nil]
    rfl
  have pieces : body ops baseUrl = String.join (front ops baseUrl ++
      String.join (ops.map fun op => "\n" ++ op.functionText) :: back ops) := rfl
  rw [pieces, String.toList_join, List.flatMap_append, List.flatMap_cons, functions,
    List.append_assoc]

/-- Modules over longer paths have the same content, but are different texts. -/
theorem outgrown_body (ops : List CompiledOperation) (baseUrl : Option String) :
    Outgrown (∃ op ∈ ops, stampBreak <:+: op.path.toList) (body ops baseUrl).toList
      (body (ops.map (CompiledOperation.reroute lengthen)) baseUrl).toList := by
  have carried : ∀ text : CompiledOperation → String,
      (∀ op : CompiledOperation, text (op.reroute lengthen) = text op) →
        (ops.map (CompiledOperation.reroute lengthen)).map text = ops.map text := by
    intro text same
    rw [List.map_map]
    exact List.map_congr_left fun op _ => same op
  have sameFront : front (ops.map (CompiledOperation.reroute lengthen)) baseUrl =
      front ops baseUrl := by
    rw [front, front, carried schemaBlock fun _ => rfl]
  have sameBack : back (ops.map (CompiledOperation.reroute lengthen)) = back ops := by
    rw [back, back, carried schemaEntries fun _ => rfl, carried exportEntry fun _ => rfl]
  rw [toList_body, toList_body, sameFront, sameBack, List.flatMap_map]
  apply Outgrown.within
  apply Outgrown.flatMap
  intro op listed
  exact (outgrown_functionText op).within _ _

end Modules

/-- A module over longer paths cannot be told from the one over the paths as they are, although it
is a different text at every time. -/
theorem render_lengthen (ops : List Operation) (baseUrl : Option String)
    (broken : ¬Unbroken (kept ops)) (before after : Int) :
    sameContent (render ops baseUrl before).result
        (render (ops.map (Operation.reroute lengthen)) baseUrl after).result = true ∧
      (render ops baseUrl before).result ≠
        (render (ops.map (Operation.reroute lengthen)) baseUrl after).result := by
  have code := outgrown_body (kept ops) baseUrl
  rw [render_result, render_result, kept_reroute]
  constructor
  · have same := code.hidden [] []
    rw [List.nil_append, List.append_nil, List.nil_append, List.append_nil] at same
    rw [sameContent, beq_iff_eq, ← String.toList_inj, stripStamps_text, stripStamps_text, same]
  · intro same
    have broken : ∃ op ∈ kept ops, stampBreak <:+: op.path.toList := by
      simpa [Unbroken] using broken
    have longer := code.different broken
    have split : ∀ ops seconds, (text ops baseUrl seconds).toList = banner.toList ++
        (stampMark.toList ++ (stampChars seconds ++ '\n' :: (body ops baseUrl).toList)) := by
      intro ops seconds
      rw [text, String.toList_append, String.toList_append, stampLine_toList]
      simp only [List.append_assoc, List.singleton_append]
    have texts := congrArg String.toList same
    rw [split, split] at texts
    have stamped := List.append_cancel_left (List.append_cancel_left texts)
    have codes := rest_eq_of_lines (newline_not_mem_stampChars before)
      (newline_not_mem_stampChars after) stamped
    rw [codes] at longer
    exact Nat.lt_irrefl _ longer

end ClientGen.Module
