import ClientGen.Operation.Basic
import ClientGen.Schema.Classify

/-!
Payloads: the JSON arrays in which a service lists its operations. A payload is taken as a whole or
refused as a whole, and a refusal names the first element that is not well formed and, in it, the
first field at fault.
-/
namespace ClientGen
open Json

/-- What can be wrong with an element. -/
inductive ElementFault where
  | notObject (kind : String)
  | missing (field : String)
  | notString (field kind : String)
  | emptyName
  | unsupportedVerb (text : String)
  | notSchema (field kind : String)
  deriving DecidableEq, Repr

/-- What can be wrong with a payload. -/
inductive PayloadFault where
  | notArray (kind : String)
  | element (index : Nat) (fault : ElementFault)
  deriving DecidableEq, Repr

def ElementFault.message : ElementFault → String
  | .notObject kind => "expected an object, found " ++ kind
  | .missing field => "missing field '" ++ field ++ "'"
  | .notString field kind => "field '" ++ field ++ "' must be a string, found " ++ kind
  | .emptyName => "field 'name' must not be empty"
  | .unsupportedVerb text => "unsupported verb '" ++ text ++ "'"
  | .notSchema field kind => "field '" ++ field ++ "' must be an object, found " ++ kind

def PayloadFault.message : PayloadFault → String
  | .notArray kind => "expected an array of operations, found " ++ kind
  | .element index fault => "operation #" ++ toString index ++ ": " ++ fault.message

namespace Operation

def stringField (fields : List (String × Value)) (field : String) : Except ElementFault String :=
  match fields.lookup field with
  | some (.string s) => .ok s
  | some other => .error (.notString field other.kind)
  | none => .error (.missing field)

def schemaField (fields : List (String × Value)) (field : String) : Except ElementFault Schema :=
  match fields.lookup field with
  | some (.object members) => .ok (Schema.ofJson (.object members))
  | some other => .error (.notSchema field other.kind)
  | none => .error (.missing field)

/-- The name of an operation, which is not empty. -/
def nameField (fields : List (String × Value)) : Except ElementFault String := do
  let name ← stringField fields "name"
  if name = "" then .error .emptyName else .ok name

def verbField (fields : List (String × Value)) : Except ElementFault Verb := do
  let text ← stringField fields "verb"
  match Verb.ofName? text with
  | some verb => .ok verb
  | none => .error (.unsupportedVerb text)

def ofFields (fields : List (String × Value)) : Except ElementFault Operation := do
  let name ← nameField fields
  let path ← stringField fields "path"
  let verb ← verbField fields
  let input ← schemaField fields "input"
  let output ← schemaField fields "output"
  return ⟨name, path, verb, input, output⟩

/-- The fields that an operation is made from. -/
theorem ofFields_eq_ok (fields : List (String × Value)) (op : Operation) :
    ofFields fields = .ok op ↔
      nameField fields = .ok op.name ∧ stringField fields "path" = .ok op.path ∧
        verbField fields = .ok op.verb ∧ schemaField fields "input" = .ok op.input ∧
        schemaField fields "output" = .ok op.output := by
  obtain ⟨opName, opPath, opVerb, opInput, opOutput⟩ := op
  unfold ofFields
  cases nameField fields with
  | error fault => simp [bind, Except.bind]
  | ok name =>
    cases stringField fields "path" with
    | error fault => simp [bind, Except.bind]
    | ok path =>
      cases verbField fields with
      | error fault => simp [bind, Except.bind]
      | ok verb =>
        cases schemaField fields "input" with
        | error fault => simp [bind, Except.bind]
        | ok input =>
          cases schemaField fields "output" with
          | error fault => simp [bind, Except.bind]
          | ok output => simp [bind, Except.bind, pure, Except.pure]

theorem lookup_of_stringField (found : stringField fields field = .ok text) :
    fields.lookup field = some (.string text) := by
  unfold stringField at found
  split at found
  next s listed =>
    cases found
    exact listed
  next => cases found
  next => cases found

def ofElement : Value → Except ElementFault Operation
  | .object fields => ofFields fields
  | other => .error (.notObject other.kind)

/-- The operations of the elements of a payload, numbered from `index`. -/
def ofElements (index : Nat) : List Value → Except PayloadFault (List Operation)
  | [] => return []
  | element :: rest => do
    let first ← (ofElement element).mapError (.element index)
    let others ← ofElements (index + 1) rest
    return first :: others

def ofPayload : Value → Except PayloadFault (List Operation)
  | .array elements => ofElements 0 elements
  | other => .error (.notArray other.kind)

end Operation

end ClientGen
