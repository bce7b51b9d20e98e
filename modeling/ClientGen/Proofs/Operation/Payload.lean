import ClientGen.Proofs.Operation.Element

/-!
Which payloads are taken and what is said of the others. A payload is taken exactly if it is an
array whose elements are all well formed; if not, the first element that is not is blamed, whatever
comes behind it. The message says which one it is, and its words name the check that was failed.
-/
namespace ClientGen.Operation
open Json

namespace ElementCheck

/-- How the messages about an element start, and the check that each of them names. -/
def phrases : List (String × ElementCheck) := [
  ("expected an object, found ", isObject),
  ("missing field 'name'", nameIsText),
  ("field 'name' must be a string, found ", nameIsText),
  ("field 'name' must not be empty", nameIsFilled),
  ("missing field 'path'", pathIsText),
  ("field 'path' must be a string, found ", pathIsText),
  ("missing field 'verb'", verbIsText),
  ("field 'verb' must be a string, found ", verbIsText),
  ("unsupported verb '", verbIsKnown),
  ("missing field 'input'", inputIsObject),
  ("field 'input' must be an object, found ", inputIsObject),
  ("missing field 'output'", outputIsObject),
  ("field 'output' must be an object, found ", outputIsObject)]

def named? (message : String) : Option ElementCheck :=
  (phrases.find? fun phrase => phrase.1.toList.isPrefixOf message.toList).map Prod.snd

/-- No phrase is the start of another one. -/
theorem phrases_apart : ∀ one ∈ phrases, ∀ other ∈ phrases,
    one.1.toList.isPrefixOf other.1.toList = true → one = other := by
  decide +kernel

theorem named?_append {phrase : String} {check : ElementCheck} (listed : (phrase, check) ∈ phrases)
    (rest : String) : named? (phrase ++ rest) = some check := by
  have starts : phrase.toList.isPrefixOf (phrase ++ rest).toList = true := by
    rw [String.toList_append]
    exact List.isPrefixOf_iff_prefix.mpr (List.prefix_append _ _)
  rw [named?]
  cases found : phrases.find? fun other => other.1.toList.isPrefixOf (phrase ++ rest).toList with
  | none => exact absurd starts (List.find?_eq_none.mp found _ listed)
  | some other =>
    have among := List.mem_of_find?_eq_some found
    have also : other.1.toList.isPrefixOf (phrase ++ rest).toList = true := by
      simpa using List.find?_some found
    rw [List.isPrefixOf_iff_prefix] at starts also
    have same : other = (phrase, check) := by
      rcases List.prefix_or_prefix_of_prefix also starts with shorter | longer
      · exact phrases_apart _ among _ listed (List.isPrefixOf_iff_prefix.mpr shorter)
      · exact (phrases_apart _ listed _ among (List.isPrefixOf_iff_prefix.mpr longer)).symm
    rw [same]
    rfl

/-- What is said of a field names its check, whether the field is missing or of the wrong kind. -/
theorem named?_fieldFault (element : Value) {name wrong : String} {check : ElementCheck}
    {other : String → ElementFault} (missing : ("missing field '" ++ name ++ "'", check) ∈ phrases)
    (listed : (wrong, check) ∈ phrases) (said : ∀ kind, (other kind).message = wrong ++ kind) :
    named? (fieldFault element name other).message = some check := by
  unfold fieldFault
  split
  · have whole := named?_append missing ""
    rwa [String.append_empty] at whole
  next value _ =>
    rw [said value.kind]
    exact named?_append listed _

/-- The message about a check that fails names this check. -/
theorem named?_message (element : Value) (check : ElementCheck) :
    named? (check.fault element).message = some check := by
  cases check with
  | isObject => exact named?_append (by decide) element.kind
  | nameIsFilled =>
    have whole : named? ("field 'name' must not be empty" ++ "") = some nameIsFilled :=
      named?_append (by decide) ""
    exact whole
  | verbIsKnown =>
    have whole : (verbIsKnown.fault element).message = "unsupported verb '" ++
        (((field? element "verb").bind Value.string?).getD "" ++ "'") := String.append_assoc ..
    rw [whole]
    exact named?_append (by decide) _
  | nameIsText | pathIsText | verbIsText | inputIsObject | outputIsObject =>
    exact named?_fieldFault element (by decide +kernel) (by decide +kernel) fun _ => rfl

end ElementCheck

private theorem ofElements_eq_ok (index : Nat) (elements : List Value) (ops : List Operation) :
    ofElements index elements = .ok ops ↔ List.Forall₂ Describes elements ops := by
  induction elements generalizing index ops with
  | nil =>
    cases ops with
    | nil => simp [ofElements, pure, Except.pure]
    | cons op rest => simp [ofElements, pure, Except.pure]
  | cons element rest ih =>
    rw [ofElements]
    cases read : ofElement element with
    | error fault =>
      have refused : ∀ op, ¬Describes element op := by
        intro op describes
        rw [(ofElement_eq_ok element op).mpr describes] at read
        cases read
      simp [Except.mapError, bind, Except.bind, List.forall₂_cons_left_iff, refused]
    | ok op =>
      have describes : ∀ other, Describes element other ↔ op = other := by
        intro other
        rw [← ofElement_eq_ok, read, Except.ok.injEq]
      cases others : ofElements (index + 1) rest with
      | error fault =>
        have refused : ∀ ops, ¬List.Forall₂ Describes rest ops := by
          intro ops all
          rw [(ih (index + 1) ops).mpr all] at others
          cases others
        simp [Except.mapError, bind, Except.bind, List.forall₂_cons_left_iff, refused]
      | ok found =>
        have same : ∀ ops, List.Forall₂ Describes rest ops ↔ found = ops := by
          intro ops
          rw [← ih (index + 1), others, Except.ok.injEq]
        simp [Except.mapError, bind, Except.bind, pure, Except.pure, List.forall₂_cons_left_iff,
          describes, same, eq_comm]

/-- Elements are refused for the first of them that is. -/
theorem exists_first_refused {index : Nat} {elements : List Value} {fault : PayloadFault}
    (refused : ofElements index elements = .error fault) :
    ∃ before element after own, elements = before ++ element :: after ∧
      (∀ earlier ∈ before, WellFormed earlier) ∧ ofElement element = .error own ∧
      fault = .element (index + before.length) own := by
  induction elements generalizing index with
  | nil => cases refused
  | cons element rest ih =>
    rw [ofElements] at refused
    cases read : ofElement element with
    | error own =>
      rw [read] at refused
      cases refused
      exact ⟨[], element, rest, own, rfl, List.forall_mem_nil _, read, rfl⟩
    | ok op =>
      rw [read] at refused
      rcases bind_eq_error refused with first | ⟨_, -, refused⟩
      · cases first
      rcases bind_eq_error refused with others | ⟨_, -, done⟩
      · obtain ⟨before, bad, after, own, whole, good, fails, said⟩ := ih others
        have wellFormed := (wellFormed_iff element).mpr ⟨op, (ofElement_eq_ok element op).mp read⟩
        refine ⟨element :: before, bad, after, own, congrArg (element :: ·) whole,
          List.forall_mem_cons.mpr ⟨wellFormed, good⟩, fails, ?_⟩
        rw [said, List.length_cons, Nat.add_right_comm, Nat.add_assoc]
      · cases done

theorem exists_describes_iff (elements : List Value) :
    (∃ ops, List.Forall₂ Describes elements ops) ↔ ∀ element ∈ elements, WellFormed element := by
  induction elements with
  | nil => simp
  | cons element rest ih =>
    rw [List.forall_mem_cons, ← ih, wellFormed_iff]
    constructor
    · rintro ⟨_, _ | ⟨first, others⟩⟩
      exact ⟨⟨_, first⟩, ⟨_, others⟩⟩
    · rintro ⟨⟨op, first⟩, ⟨ops, others⟩⟩
      exact ⟨op :: ops, .cons first others⟩

theorem ofElements_eq_error_iff (elements : List Value) (fault : PayloadFault) :
    ofElements 0 elements = .error fault ↔ ∃ before element after check,
      elements = before ++ element :: after ∧ (∀ earlier ∈ before, WellFormed earlier) ∧
        FailsFirst element check ∧ fault = .element before.length (check.fault element) := by
  have blamed {fault : PayloadFault} (refused : ofElements 0 elements = .error fault) :
      ∃ before element after check, elements = before ++ element :: after ∧
        (∀ earlier ∈ before, WellFormed earlier) ∧ FailsFirst element check ∧
          fault = .element before.length (check.fault element) := by
    obtain ⟨before, element, after, own, whole, good, read, said⟩ := exists_first_refused refused
    obtain ⟨check, fails, rfl⟩ := (ofElement_eq_error_iff element own).mp read
    rw [Nat.zero_add] at said
    exact ⟨before, element, after, check, whole, good, fails, said⟩
  have bad {element : Value} {check : ElementCheck} (fails : FailsFirst element check) :
      ¬WellFormed element := by
    obtain ⟨-, -, -, -, failed⟩ := fails
    exact fun wellFormed => failed (wellFormed check)
  refine ⟨blamed, ?_⟩
  rintro ⟨before, element, after, check, whole, good, fails, rfl⟩
  cases read : ofElements 0 elements with
  | ok ops =>
    have all := (exists_describes_iff elements).mp ⟨ops, (ofElements_eq_ok 0 elements ops).mp read⟩
    rw [whole] at all
    exact absurd (all element (List.mem_append_right _ List.mem_cons_self)) (bad fails)
  | error other =>
    obtain ⟨otherBefore, otherElement, rest, otherCheck, again, otherGood, otherFails, rfl⟩ :=
      blamed read
    obtain ⟨rfl, rfl⟩ := first_unique (whole.symm.trans again) good (bad fails) otherGood
      (bad otherFails)
    have same := ((ofElement_eq_error_iff element _).mpr ⟨check, fails, rfl⟩).symm.trans
      ((ofElement_eq_error_iff element _).mpr ⟨otherCheck, otherFails, rfl⟩)
    rw [Except.error.inj same]

/-- A payload is taken exactly if it is an array of well-formed elements, and then it gives the
operations that they describe, one for each and in their order. Any other payload is refused: for
being no array, or for the first element that is not well formed and the first check that this
element fails. The fault names both, and so does its message, by the number of the element and by
words that tell the check. What comes behind that element makes no difference. -/
theorem taken_or_blamed_for_first_fault (payload : Value) :
    ((∃ ops, ofPayload payload = .ok ops) ↔
      ∃ elements, payload = .array elements ∧ ∀ element ∈ elements, WellFormed element) ∧
    (∀ ops, ofPayload payload = .ok ops ↔
      ∃ elements, payload = .array elements ∧ List.Forall₂ Describes elements ops) ∧
    (∀ fault, ofPayload payload = .error fault ↔
      ((∀ elements, payload ≠ .array elements) ∧ fault = .notArray payload.kind ∧
          fault.message = "expected an array of operations, found " ++ payload.kind) ∨
        ∃ before element after check, payload = .array (before ++ element :: after) ∧
          (∀ earlier ∈ before, WellFormed earlier) ∧ FailsFirst element check ∧
          fault = .element before.length (check.fault element) ∧
          ElementCheck.ofFault (check.fault element) = some check ∧
          (∃ words, fault.message = "operation #" ++ toString before.length ++ ": " ++ words ∧
            ElementCheck.named? words = some check) ∧
          ∀ others, ofPayload (.array (before ++ element :: others)) = .error fault) := by
  have taken : ∀ ops, ofPayload payload = .ok ops ↔
      ∃ elements, payload = .array elements ∧ List.Forall₂ Describes elements ops := by
    intro ops
    cases payload with
    | array elements => simp [ofPayload, ofElements_eq_ok]
    | _ => simp [ofPayload]
  refine ⟨?_, taken, ?_⟩
  · simp only [taken, ← exists_describes_iff]
    exact ⟨fun ⟨ops, elements, array, all⟩ => ⟨elements, array, ops, all⟩,
      fun ⟨elements, array, ops, all⟩ => ⟨ops, elements, array, all⟩⟩
  · intro fault
    have blamed (before : List Value) (element : Value) (check : ElementCheck)
        (good : ∀ earlier ∈ before, WellFormed earlier) (fails : FailsFirst element check)
        (others : List Value) : ofPayload (.array (before ++ element :: others)) =
          .error (.element before.length (check.fault element)) :=
      (ofElements_eq_error_iff _ _).mpr ⟨before, element, others, check, rfl, good, fails, rfl⟩
    constructor
    · intro refused
      cases payload with
      | array elements =>
        obtain ⟨before, element, after, check, rfl, good, fails, rfl⟩ :=
          (ofElements_eq_error_iff elements fault).mp refused
        exact .inr ⟨before, element, after, check, rfl, good, fails, rfl,
          ElementCheck.ofFault_fault element check,
          ⟨_, rfl, ElementCheck.named?_message element check⟩,
          blamed before element check good fails⟩
      | _ =>
        cases refused
        exact .inl ⟨nofun, rfl, rfl⟩
    · rintro (⟨noArray, rfl, -⟩ | ⟨before, element, after, check, rfl, -, -, -, -, -, always⟩)
      · cases payload with
        | array elements => exact absurd rfl (noArray elements)
        | _ => rfl
      · exact always after

end ClientGen.Operation
