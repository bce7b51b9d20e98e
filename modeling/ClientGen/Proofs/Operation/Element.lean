import Mathlib
import ClientGen.Operation.Payload

/-!
Which elements of a payload are taken. What an element must be is said once, as checks in the order
in which they are made. An element that passes all of them is taken for the operation that its
fields describe; any other one is blamed for the first check that it fails.
-/
namespace ClientGen
open Json

/-- A text is the name of a verb, up to the case of its ASCII letters. -/
def Verb.IsNamedBy (verb : Verb) (text : String) : Prop :=
  text.toList.map Char.toLower = verb.name.toList.map Char.toLower

theorem map_toLower_eq_iff (text name : List Char) :
    text.map Char.toLower = name.map Char.toLower ↔
      text.map Char.toUpper = name.map Char.toUpper := by
  constructor
  · intro same
    have upper := congrArg (List.map Char.toUpper) same
    simpa [Function.comp_def] using upper
  · intro same
    have lower := congrArg (List.map Char.toLower) same
    simpa [Function.comp_def] using lower

theorem Verb.ofName?_eq_some_iff (text : String) (verb : Verb) :
    Verb.ofName? text = some verb ↔ verb.IsNamedBy text := by
  have names : ∀ verb : Verb, verb.name.toList.map Char.toUpper = verb.name.toList := by
    rintro ⟨⟩ <;> rfl
  have found : ofName? text = some verb ↔ verb.name.toList = text.toList.map Char.toUpper := by
    rw [ofName?]
    generalize text.toList.map Char.toUpper = upper
    constructor
    · intro first
      simpa using List.find?_some first
    · rintro rfl
      cases verb <;> decide
  rw [found, IsNamedBy, map_toLower_eq_iff, names, eq_comm]

namespace Operation

/-- A field of an element; an element that is no object has none. -/
def field? (element : Value) (name : String) : Option Value :=
  match element with
  | .object fields => fields.lookup name
  | _ => none

/-- What is said of a field that is not what it must be. -/
def fieldFault (element : Value) (name : String) (other : String → ElementFault) : ElementFault :=
  match field? element name with
  | none => .missing name
  | some value => other value.kind

/-- The checks that an element must pass. -/
inductive ElementCheck where
  | isObject
  | nameIsText
  | nameIsFilled
  | pathIsText
  | verbIsText
  | verbIsKnown
  | inputIsObject
  | outputIsObject
  deriving DecidableEq, Repr

namespace ElementCheck

/-- The checks in the order in which they are made. -/
def all : List ElementCheck :=
  [isObject, nameIsText, nameIsFilled, pathIsText, verbIsText, verbIsKnown, inputIsObject,
    outputIsObject]

/-- What a check asks of an element. -/
def Passes (element : Value) : ElementCheck → Prop
  | isObject => ∃ fields, element = .object fields
  | nameIsText => ∃ name, field? element "name" = some (.string name)
  | nameIsFilled => field? element "name" ≠ some (.string "")
  | pathIsText => ∃ path, field? element "path" = some (.string path)
  | verbIsText => ∃ text, field? element "verb" = some (.string text)
  | verbIsKnown => ∃ verb : Verb, ∃ text, field? element "verb" = some (.string text) ∧
      verb.IsNamedBy text
  | inputIsObject => ∃ members, field? element "input" = some (.object members)
  | outputIsObject => ∃ members, field? element "output" = some (.object members)

/-- What is said of an element that fails a check. -/
def fault (element : Value) : ElementCheck → ElementFault
  | isObject => .notObject element.kind
  | nameIsText => fieldFault element "name" (.notString "name")
  | nameIsFilled => .emptyName
  | pathIsText => fieldFault element "path" (.notString "path")
  | verbIsText => fieldFault element "verb" (.notString "verb")
  | verbIsKnown => .unsupportedVerb (((field? element "verb").bind Value.string?).getD "")
  | inputIsObject => fieldFault element "input" (.notSchema "input")
  | outputIsObject => fieldFault element "output" (.notSchema "output")

/-- The check that looks at what kind of value a field holds. -/
def ofField (name : String) : Option ElementCheck :=
  [("name", nameIsText), ("path", pathIsText), ("verb", verbIsText), ("input", inputIsObject),
    ("output", outputIsObject)].lookup name

def ofFault : ElementFault → Option ElementCheck
  | .notObject _ => some isObject
  | .missing field | .notString field _ | .notSchema field _ => ofField field
  | .emptyName => some nameIsFilled
  | .unsupportedVerb _ => some verbIsKnown

/-- What is said of an element that fails a check names this check. -/
theorem ofFault_fault (element : Value) (check : ElementCheck) :
    ofFault (check.fault element) = some check := by
  have named (name : String) (other : String → ElementFault)
      (own : ∀ kind, ofFault (other kind) = ofField name) :
      ofFault (fieldFault element name other) = ofField name := by
    unfold fieldFault
    split
    · rfl
    · exact own _
  cases check with
  | isObject | nameIsFilled | verbIsKnown => rfl
  | nameIsText | pathIsText | verbIsText | inputIsObject | outputIsObject =>
    exact (named _ _ fun _ => rfl).trans rfl

end ElementCheck

/-- An element that passes every check. -/
def WellFormed (element : Value) : Prop := ∀ check : ElementCheck, check.Passes element

def Passed (element : Value) (checks : List ElementCheck) : Prop :=
  ∀ check ∈ checks, check.Passes element

/-- A check is the first in order that an element fails. -/
def FailsFirst (element : Value) (check : ElementCheck) : Prop :=
  ∃ before after, ElementCheck.all = before ++ check :: after ∧ Passed element before ∧
    ¬check.Passes element

/-- An operation carries what an element says. -/
structure Describes (element : Value) (op : Operation) : Prop where
  name : field? element "name" = some (.string op.name)
  filled : op.name ≠ ""
  path : field? element "path" = some (.string op.path)
  verb : ∃ text, field? element "verb" = some (.string text) ∧ op.verb.IsNamedBy text
  input : ∃ members, field? element "input" = some (.object members) ∧
    op.input = Schema.ofJson (.object members)
  output : ∃ members, field? element "output" = some (.object members) ∧
    op.output = Schema.ofJson (.object members)

variable {fields : List (String × Value)} {field : String} {fault : ElementFault}

private theorem stringField_eq_ok (text : String) :
    stringField fields field = .ok text ↔ fields.lookup field = some (.string text) := by
  unfold stringField
  cases fields.lookup field with
  | none => simp
  | some value => cases value <;> simp

private theorem stringField_eq_error (refused : stringField fields field = .error fault) :
    (¬∃ text, fields.lookup field = some (.string text)) ∧
      fault = fieldFault (.object fields) field (.notString field) := by
  unfold stringField at refused
  split at refused
  next => cases refused
  next value other found =>
    cases refused
    refine ⟨?_, by simp [fieldFault, field?, found]⟩
    rintro ⟨text, listed⟩
    rw [found] at listed
    exact other text (Option.some.inj listed)
  next found =>
    cases refused
    exact ⟨by simp [found], by simp [fieldFault, field?, found]⟩

private theorem schemaField_eq_ok (schema : Schema) :
    schemaField fields field = .ok schema ↔ ∃ members,
      fields.lookup field = some (.object members) ∧ schema = Schema.ofJson (.object members) := by
  unfold schemaField
  cases fields.lookup field with
  | none => simp
  | some value => cases value <;> simp [eq_comm]

private theorem schemaField_eq_error (refused : schemaField fields field = .error fault) :
    (¬∃ members, fields.lookup field = some (.object members)) ∧
      fault = fieldFault (.object fields) field (.notSchema field) := by
  unfold schemaField at refused
  split at refused
  next => cases refused
  next value other found =>
    cases refused
    refine ⟨?_, by simp [fieldFault, field?, found]⟩
    rintro ⟨members, listed⟩
    rw [found] at listed
    exact other members (Option.some.inj listed)
  next found =>
    cases refused
    exact ⟨by simp [found], by simp [fieldFault, field?, found]⟩

private theorem nameField_eq_ok (name : String) :
    nameField fields = .ok name ↔ fields.lookup "name" = some (.string name) ∧ name ≠ "" := by
  unfold nameField
  cases found : stringField fields "name" with
  | error fault =>
    have noText := (stringField_eq_error found).1
    rw [not_exists] at noText
    simp [bind, Except.bind, noText]
  | ok text =>
    rw [(stringField_eq_ok text).mp found]
    by_cases empty : text = ""
    · simp only [bind, Except.bind, empty, if_true, reduceCtorEq, Option.some.injEq,
        Value.string.injEq, false_iff, not_and, not_not]
      exact fun same => same.symm
    · simp only [bind, Except.bind, if_neg empty, Except.ok.injEq, Option.some.injEq,
        Value.string.injEq]
      exact ⟨fun same => ⟨same, same ▸ empty⟩, And.left⟩

private theorem verbField_eq_ok (verb : Verb) :
    verbField fields = .ok verb ↔
      ∃ text, fields.lookup "verb" = some (.string text) ∧ verb.IsNamedBy text := by
  unfold verbField
  cases found : stringField fields "verb" with
  | error fault =>
    have noText := (stringField_eq_error found).1
    rw [not_exists] at noText
    simp [bind, Except.bind, noText]
  | ok text =>
    rw [(stringField_eq_ok text).mp found]
    cases known : Verb.ofName? text with
    | none => simp [bind, Except.bind, known, ← Verb.ofName?_eq_some_iff]
    | some other => simp [bind, Except.bind, known, ← Verb.ofName?_eq_some_iff]

/-- An element is taken for the operation that it describes. -/
theorem ofElement_eq_ok (element : Value) (op : Operation) :
    ofElement element = .ok op ↔ Describes element op := by
  constructor
  · intro taken
    cases element with
    | object fields =>
      obtain ⟨name, path, verb, input, output⟩ := (ofFields_eq_ok fields op).mp taken
      obtain ⟨name, filled⟩ := (nameField_eq_ok op.name).mp name
      exact ⟨name, filled, (stringField_eq_ok op.path).mp path, (verbField_eq_ok op.verb).mp verb,
        (schemaField_eq_ok op.input).mp input, (schemaField_eq_ok op.output).mp output⟩
    | _ => cases taken
  · rintro ⟨name, filled, path, verb, input, output⟩
    cases element with
    | object fields =>
      exact (ofFields_eq_ok fields op).mpr ⟨(nameField_eq_ok op.name).mpr ⟨name, filled⟩,
        (stringField_eq_ok op.path).mpr path, (verbField_eq_ok op.verb).mpr verb,
        (schemaField_eq_ok op.input).mpr input, (schemaField_eq_ok op.output).mpr output⟩
    | _ => cases name

/-- An element is well formed if there is an operation that it describes. -/
theorem wellFormed_iff (element : Value) : WellFormed element ↔ ∃ op, Describes element op := by
  constructor
  · intro passes
    obtain ⟨name, hasName⟩ := passes .nameIsText
    obtain ⟨path, hasPath⟩ := passes .pathIsText
    obtain ⟨verb, hasVerb⟩ := passes .verbIsKnown
    obtain ⟨input, hasInput⟩ := passes .inputIsObject
    obtain ⟨output, hasOutput⟩ := passes .outputIsObject
    have filled : name ≠ "" := by
      rintro rfl
      exact passes .nameIsFilled hasName
    exact ⟨⟨name, path, verb, _, _⟩, hasName, filled, hasPath, hasVerb, ⟨input, hasInput, rfl⟩,
      ⟨output, hasOutput, rfl⟩⟩
  · rintro ⟨op, name, filled, path, ⟨text, verb, named⟩, ⟨input, hasInput, -⟩,
      ⟨output, hasOutput, -⟩⟩ check
    cases check with
    | isObject =>
      cases element with
      | object fields => exact ⟨fields, rfl⟩
      | _ => cases name
    | nameIsText => exact ⟨op.name, name⟩
    | nameIsFilled =>
      intro empty
      rw [name] at empty
      exact filled (by simpa using empty)
    | pathIsText => exact ⟨op.path, path⟩
    | verbIsText => exact ⟨text, verb⟩
    | verbIsKnown => exact ⟨op.verb, text, verb, named⟩
    | inputIsObject => exact ⟨input, hasInput⟩
    | outputIsObject => exact ⟨output, hasOutput⟩

/-- A step of a reader fails by itself or in what follows it. -/
theorem bind_eq_error {first : Except ε α} {next : α → Except ε β} {fault : ε}
    (refused : first >>= next = .error fault) :
    first = .error fault ∨ ∃ value, first = .ok value ∧ next value = .error fault := by
  cases first with
  | error own =>
    cases refused
    exact .inl rfl
  | ok value => exact .inr ⟨value, rfl, refused⟩

private theorem nameField_eq_error (refused : nameField fields = .error fault) :
    ((¬ElementCheck.nameIsText.Passes (.object fields)) ∧
        fault = ElementCheck.nameIsText.fault (.object fields)) ∨
      ElementCheck.nameIsText.Passes (.object fields) ∧
        (¬ElementCheck.nameIsFilled.Passes (.object fields)) ∧ fault = .emptyName := by
  rcases bind_eq_error refused with noText | ⟨name, found, empty⟩
  · exact .inl (stringField_eq_error noText)
  · have listed := (stringField_eq_ok name).mp found
    split at empty
    next isEmpty =>
      cases empty
      subst isEmpty
      exact .inr ⟨⟨"", listed⟩, not_not.mpr listed, rfl⟩
    next => cases empty

private theorem verbField_eq_error (refused : verbField fields = .error fault) :
    ((¬ElementCheck.verbIsText.Passes (.object fields)) ∧
        fault = ElementCheck.verbIsText.fault (.object fields)) ∨
      ElementCheck.verbIsText.Passes (.object fields) ∧
        (¬ElementCheck.verbIsKnown.Passes (.object fields)) ∧
          fault = ElementCheck.verbIsKnown.fault (.object fields) := by
  rcases bind_eq_error refused with noText | ⟨text, found, unknown⟩
  · exact .inl (stringField_eq_error noText)
  · have listed := (stringField_eq_ok text).mp found
    split at unknown
    next => cases unknown
    next missing =>
      cases unknown
      refine .inr ⟨⟨text, listed⟩, ?_, ?_⟩
      · rintro ⟨verb, other, same, named⟩
        have sameText : text = other := by simpa [field?, listed] using same
        rw [sameText, (Verb.ofName?_eq_some_iff other verb).mpr named] at missing
        cases missing
      · simp [ElementCheck.fault, field?, listed, Value.string?]

private theorem Passed.snoc {element : Value} {checks : List ElementCheck} {check : ElementCheck}
    (passed : Passed element checks) (next : check.Passes element) :
    Passed element (checks ++ [check]) :=
  List.forall_mem_append.mpr ⟨passed, List.forall_mem_singleton.mpr next⟩

theorem Passed.failsFirst {element : Value} {before : List ElementCheck} {check : ElementCheck}
    (passed : Passed element before) (fails : ¬check.Passes element) (after : List ElementCheck)
    (order : ElementCheck.all = before ++ check :: after) : FailsFirst element check :=
  ⟨before, after, order, passed, fails⟩

/-- What is said of an element that is refused is what is to say of the first check that it
fails. -/
theorem exists_failsFirst {element : Value} (refused : ofElement element = .error fault) :
    ∃ check, FailsFirst element check ∧ fault = check.fault element := by
  cases element with
  | object fields =>
    have isObject : ElementCheck.isObject.Passes (.object fields) := ⟨fields, rfl⟩
    have passed : Passed (.object fields) [.isObject] := List.forall_mem_singleton.mpr isObject
    rcases bind_eq_error refused with name | ⟨name, hasName, refused⟩
    · rcases nameField_eq_error name with ⟨fails, said⟩ | ⟨isText, fails, said⟩
      · exact ⟨.nameIsText, passed.failsFirst fails _ rfl, said⟩
      · exact ⟨.nameIsFilled, (passed.snoc isText).failsFirst fails _ rfl, said⟩
    obtain ⟨name, filled⟩ := (nameField_eq_ok _).mp hasName
    have isText : ElementCheck.nameIsText.Passes (.object fields) := ⟨_, name⟩
    have isFilled : ElementCheck.nameIsFilled.Passes (.object fields) := by
      simpa [ElementCheck.Passes, field?, name] using filled
    replace passed := (passed.snoc isText).snoc isFilled
    rcases bind_eq_error refused with path | ⟨path, hasPath, refused⟩
    · obtain ⟨fails, said⟩ := stringField_eq_error path
      exact ⟨.pathIsText, passed.failsFirst fails _ rfl, said⟩
    have isText : ElementCheck.pathIsText.Passes (.object fields) :=
      ⟨path, (stringField_eq_ok path).mp hasPath⟩
    replace passed := passed.snoc isText
    rcases bind_eq_error refused with verb | ⟨verb, hasVerb, refused⟩
    · rcases verbField_eq_error verb with ⟨fails, said⟩ | ⟨isText, fails, said⟩
      · exact ⟨.verbIsText, passed.failsFirst fails _ rfl, said⟩
      · exact ⟨.verbIsKnown, (passed.snoc isText).failsFirst fails _ rfl, said⟩
    obtain ⟨text, hasText, named⟩ := (verbField_eq_ok verb).mp hasVerb
    have isText : ElementCheck.verbIsText.Passes (.object fields) := ⟨text, hasText⟩
    have isKnown : ElementCheck.verbIsKnown.Passes (.object fields) := ⟨verb, text, hasText, named⟩
    replace passed := (passed.snoc isText).snoc isKnown
    rcases bind_eq_error refused with input | ⟨input, hasInput, refused⟩
    · obtain ⟨fails, said⟩ := schemaField_eq_error input
      exact ⟨.inputIsObject, passed.failsFirst fails _ rfl, said⟩
    obtain ⟨members, isInput, -⟩ := (schemaField_eq_ok input).mp hasInput
    have isObject : ElementCheck.inputIsObject.Passes (.object fields) := ⟨members, isInput⟩
    replace passed := passed.snoc isObject
    rcases bind_eq_error refused with output | ⟨output, hasOutput, refused⟩
    · obtain ⟨fails, said⟩ := schemaField_eq_error output
      exact ⟨.outputIsObject, passed.failsFirst fails _ rfl, said⟩
    · cases refused
  | _ =>
    cases refused
    exact ⟨.isObject, ⟨[], _, rfl, List.forall_mem_nil _, nofun⟩, rfl⟩

/-- The first element of a list without a property is the same however it is found. -/
theorem first_unique {P : α → Prop} {before other after rest : List α} {x y : α}
    (whole : before ++ x :: after = other ++ y :: rest) (first : ∀ a ∈ before, P a) (fails : ¬P x)
    (otherFirst : ∀ a ∈ other, P a) (otherFails : ¬P y) : before = other ∧ x = y := by
  induction before generalizing other with
  | nil =>
    cases other with
    | nil => exact ⟨rfl, (List.cons.inj whole).1⟩
    | cons a more =>
      obtain ⟨rfl, -⟩ := List.cons.inj whole
      exact absurd (otherFirst x List.mem_cons_self) fails
  | cons b more ih =>
    cases other with
    | nil =>
      obtain ⟨rfl, -⟩ := List.cons.inj whole
      exact absurd (first b List.mem_cons_self) otherFails
    | cons a others =>
      obtain ⟨rfl, tails⟩ := List.cons.inj whole
      have inner := ih tails (fun c listed => first c (List.mem_cons_of_mem _ listed))
        fun c listed => otherFirst c (List.mem_cons_of_mem _ listed)
      exact ⟨congrArg (b :: ·) inner.1, inner.2⟩

/-- An element that fails a check is refused, and blamed for the first one. -/
theorem ofElement_eq_error_iff (element : Value) (fault : ElementFault) :
    ofElement element = .error fault ↔
      ∃ check, FailsFirst element check ∧ fault = check.fault element := by
  refine ⟨exists_failsFirst, ?_⟩
  rintro ⟨check, ⟨before, after, order, passed, fails⟩, rfl⟩
  cases read : ofElement element with
  | ok op =>
    have wellFormed := (wellFormed_iff element).mpr ⟨op, (ofElement_eq_ok element op).mp read⟩
    exact absurd (wellFormed check) fails
  | error fault =>
    obtain ⟨other, ⟨otherBefore, rest, otherOrder, otherPassed, otherFails⟩, rfl⟩ :=
      exists_failsFirst read
    obtain ⟨-, rfl⟩ :=
      first_unique (order.symm.trans otherOrder) passed fails otherPassed otherFails
    rfl

end Operation
end ClientGen
