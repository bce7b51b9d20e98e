import ClientGen.Proofs.Identifier.Pieces

/-!
First characters of identifiers. A Pascal form starts with an upper case, a camel form with a lower
case, so the two meet only at characters that have no case. Neither form holds a slash.
-/
namespace ClientGen.Identifier
open Text

/-- A camel form does not start with a capital ASCII letter. -/
theorem head?_lowerFirst_not_isUpper (head : (lowerFirst chars).head? = some c) :
    c.isUpper = false := by
  cases chars with
  | nil => cases head
  | cons first rest =>
    rw [lowerFirst, head?_append_filled (lowerCase_ne_nil first)] at head
    exact not_isUpper_of_head?_lowerCase head

/-- Where a camel form starts with a Pascal form and a capital after it, putting its own Pascal
form into lower case has changed nothing. -/
theorem lowerFirst_eq_of_pascalChars (capital : suffix.head?.any Char.isUpper = true)
    (meets : lowerFirst chars = pascalChars name ++ suffix) : lowerFirst chars = chars := by
  cases starts : suffix.head? with
  | none => simp [starts] at capital
  | some mark =>
    have upper : mark.isUpper = true := by simpa [starts] using capital
    cases pascal : pascalChars name with
    | nil =>
      rw [pascal, List.nil_append] at meets
      have lower := head?_lowerFirst_not_isUpper (meets ▸ starts)
      rw [upper] at lower
      cases lower
    | cons c rest =>
      rw [pascal] at meets
      have head : (lowerFirst chars).head? = some c := by
        rw [meets]
        rfl
      obtain ⟨first, raised⟩ := head?_pascalChars (by rw [pascal]; rfl)
      cases chars with
      | nil => cases head
      | cons initial others =>
        rw [lowerFirst, head?_append_filled (lowerCase_ne_nil initial)] at head
        rw [lowerFirst, lowerCase_eq_of_head? raised head]
        rfl

theorem camel_not_capital (name : String) : (camel name).toList.head?.any Char.isUpper = false := by
  rw [camel, String.toList_ofList]
  cases starts : (lowerFirst (pascalChars name.toList)).head? with
  | none => rfl
  | some c => exact head?_lowerFirst_not_isUpper starts

/-- Where the camel form of a name is a Pascal form with a capital after it, it is the name's own
Pascal form. -/
theorem camel_eq_pascal (name other : String) (capital : suffix.toList.head?.any Char.isUpper = true)
    (meets : camel name = pascal other ++ suffix) : camel name = pascal name := by
  have chars : lowerFirst (pascalChars name.toList) = pascalChars other.toList ++ suffix.toList := by
    have same := congrArg String.toList meets
    rwa [camel, String.toList_append, pascal, String.toList_ofList, String.toList_ofList] at same
  exact congrArg String.ofList (lowerFirst_eq_of_pascalChars capital chars)

/-- A Pascal form holds no slash. -/
theorem slash_not_mem_pascalChars (name : List Char) : '/' ∉ pascalChars name := by
  intro slash
  cases separator_not_mem_pascalChars slash

/-- Nor does a camel form. -/
theorem slash_not_mem_lowerFirst (free : '/' ∉ chars) : '/' ∉ lowerFirst chars := by
  cases chars with
  | nil => exact free
  | cons first rest =>
    rw [List.mem_cons, not_or] at free
    rw [lowerFirst, List.mem_append, not_or]
    exact ⟨fun lowered => free.1 (slash_of_mem_lowerCase lowered).symm, free.2⟩

end ClientGen.Identifier
