import ClientGen.Proofs.Module.Body

/-!
Comparing modules apart from their stamps. As long as no stamp breaks into a path, leaving out the
stamps of a module leaves out its stamp line and nothing else. Two such modules with the same
content are the same module at every time.
-/
namespace ClientGen.Module

/-- Operations into whose paths no stamp breaks. -/
def Unbroken (ops : List CompiledOperation) : Prop := ∀ op ∈ ops, ¬stampBreak <:+: op.path.toList

instance (ops : List CompiledOperation) : Decidable (Unbroken ops) :=
  inferInstanceAs (Decidable (∀ op ∈ ops, ¬stampBreak <:+: op.path.toList))

private theorem tame_kept (ops : List Operation) : ∀ op ∈ kept ops, op.Tame := fun op listed =>
  Operation.tame_compileAll ops op ((kept_distinct ops).2 op listed)

/-- What is left of a module is its first line and what is left of its code. -/
theorem stripStamps_text (ops : List CompiledOperation) (baseUrl : Option String) (seconds : Int) :
    (stripStamps (text ops baseUrl seconds)).toList =
      banner.toList ++ stripStampsChars (body ops baseUrl).toList := by
  have first : banner.toList =
      "// This file was generated by routegen. Do not edit it by hand.".toList ++ ['\n'] := by
    decide
  have plain : isStamp banner.toList = false := by decide
  have stamp : (stampLine seconds).toList ++ (body ops baseUrl).toList =
      stampMark.toList ++ stampChars seconds ++ '\n' :: (body ops baseUrl).toList := by
    rw [stampLine_toList, List.append_assoc, List.singleton_append]
  rw [stripStamps, String.toList_ofList, text, String.toList_append, String.toList_append,
    List.append_assoc, stamp, first, List.append_assoc, List.singleton_append,
    stripStampsChars_line _ _ (by decide), ← first, plain,
    stripStampsChars_stamp _ _ (newline_not_mem_stampChars seconds)]
  rfl

/-- No line of unbroken code is a stamp. -/
theorem stripStampsChars_body (ops : List Operation) (baseUrl : Option String)
    (unbroken : Unbroken (kept ops)) :
    stripStampsChars (body (kept ops) baseUrl).toList = (body (kept ops) baseUrl).toList := by
  have urls : ∀ op ∈ kept ops, KeepsWhole op.url.toList := by
    intro op listed
    rw [CompiledOperation.url, PathTemplate.url, String.toList_ofList]
    exact keepsWhole_url _ (unbroken op listed)
  have whole : Whole ((body (kept ops) baseUrl).toList ++ []) :=
    keepsWhole_body _ baseUrl (tame_kept ops) urls [] ⟨by simp [stampBreak], by simp⟩
  rw [List.append_nil] at whole
  refine stripStampsChars_eq _ ?_ whole.1
  intro starts
  obtain ⟨rest, code⟩ := starts
  apply whole.2
  rw [← code, stampMark]
  rfl

/-- A module has the same content at every time. -/
theorem sameContent_render (ops : List Operation) (baseUrl : Option String) (before after : Int) :
    sameContent (render ops baseUrl before).result (render ops baseUrl after).result = true := by
  rw [sameContent, beq_iff_eq, render_result, render_result, ← String.toList_inj,
    stripStamps_text, stripStamps_text]

/-- Unbroken modules that agree apart from their stamps agree at every time. -/
theorem render_eq_of_sameContent (ops others : List Operation) (baseUrl otherUrl : Option String)
    (before after : Int) (unbroken : Unbroken (kept ops)) (otherUnbroken : Unbroken (kept others))
    (same : sameContent (render ops baseUrl before).result (render others otherUrl after).result =
      true) (seconds : Int) :
    (render ops baseUrl seconds).result = (render others otherUrl seconds).result := by
  rw [sameContent, beq_iff_eq, render_result, render_result] at same
  have contents := congrArg String.toList same
  rw [stripStamps_text, stripStamps_text, stripStampsChars_body ops baseUrl unbroken,
    stripStampsChars_body others otherUrl otherUnbroken] at contents
  have code := String.toList_inj.mp (List.append_cancel_left contents)
  rw [render_result, render_result, text, text, code]

end ClientGen.Module
