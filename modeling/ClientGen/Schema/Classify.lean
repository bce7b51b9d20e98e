import ClientGen.Json.Value
import ClientGen.Ordered
import ClientGen.Schema.Basic

/-!
Reading schemas off JSON values. An object is classified by the first rule that fits: a reference,
a type name or a list of them, properties without a type, listed values, a combination, a nullable
mark. A value that no rule fits is a schema of unknown shape, so classification never fails.
-/
namespace ClientGen
open Json

namespace Schema

/-- The members of a JSON object that describes a schema. -/
abbrev Keywords := List (String × Value)

def text? (keywords : Keywords) (name : String) : Option String :=
  (keywords.lookup name).bind Value.string?

def number? (keywords : Keywords) (name : String) : Option Number :=
  (keywords.lookup name).bind Value.number?

def count? (keywords : Keywords) (name : String) : Option Nat :=
  (number? keywords name).bind Number.count?

/-- Whether a keyword is `true`. -/
def isSet (keywords : Keywords) (name : String) : Bool :=
  (keywords.lookup name).any Value.isTrue

/-- The constraints that keywords put on strings. -/
def stringConstraints (keywords : Keywords) : StringConstraints where
  minLength := count? keywords "minLength"
  maxLength := count? keywords "maxLength"
  pattern := text? keywords "pattern"
  format := (text? keywords "format").map StringFormat.ofName

/-- An inclusive and an exclusive bound. An exclusive bound is given by its number, or by a mark
that makes the inclusive bound exclusive. -/
def bounds (keywords : Keywords) (inclusive exclusive : String) : Option Number × Option Number :=
  if isSet keywords exclusive then (none, number? keywords inclusive)
  else (number? keywords inclusive, number? keywords exclusive)

/-- The constraints that keywords put on numbers. -/
def numberConstraints (keywords : Keywords) (isInteger : Bool) : NumberConstraints :=
  let (minimum, exclusiveMinimum) := bounds keywords "minimum" "exclusiveMinimum"
  let (maximum, exclusiveMaximum) := bounds keywords "maximum" "exclusiveMaximum"
  ⟨isInteger, minimum, maximum, exclusiveMinimum, exclusiveMaximum, number? keywords "multipleOf"⟩

def arrayConstraints (keywords : Keywords) : ArrayConstraints where
  minItems := count? keywords "minItems"
  maxItems := count? keywords "maxItems"
  uniqueItems := isSet keywords "uniqueItems"

def requiredNames (keywords : Keywords) : List String :=
  match keywords.lookup "required" with
  | some (.array names) => NameSet.ofList (names.filterMap Value.string?)
  | _ => []

/-- The values that keywords list: those of a non-empty `enum`, else the `const`. -/
def listedValues? (keywords : Keywords) : Option (List Value) :=
  match keywords.lookup "enum" with
  | some (.array (first :: rest)) => some (first :: rest)
  | _ => (keywords.lookup "const").map ([·])

/-- What a JSON value gives as a schema, and what its items and its members give. -/
structure Reading where
  value : Value
  schema : Schema
  items : List Schema
  members : List (String × Schema)
  deriving Inhabited

/-- The word on additional properties. -/
def additional (readings : List (String × Reading)) : Additional Schema :=
  match readings.lookup "additionalProperties" with
  | none => .unspecified
  | some reading =>
    match reading.value with
    | .boolean isAllowed => .allowed isAllowed
    | .object _ => .described reading.schema
    | _ => .unspecified

def objectShape (keywords : Keywords) (readings : List (String × Reading)) :
    ObjectShape Schema where
  properties := ((readings.lookup "properties").map Reading.members).getD []
  required := requiredNames keywords
  additional := additional readings

def ofTypeName? (keywords : Keywords) (readings : List (String × Reading)) (name : String) :
    Option Schema :=
  if name = "string" then
    match listedValues? keywords with
    | some values => some (.enumeration values)
    | none => some (.string (stringConstraints keywords))
  else if name = "number" then some (.number (numberConstraints keywords false))
  else if name = "integer" then some (.number (numberConstraints keywords true))
  else if name = "boolean" then some .boolean
  else if name = "null" then some .null
  else if name = "array" then
    some (.array ((readings.lookup "items").map Reading.schema) (arrayConstraints keywords))
  else if name = "object" then some (.object (objectShape keywords readings))
  else none

/-- The schema of the type keyword: of one name, or of the known names in a list. -/
def ofType? (keywords : Keywords) (readings : List (String × Reading)) : Option Schema :=
  match keywords.lookup "type" with
  | some (.string name) => ofTypeName? keywords readings name
  | some (.array names) =>
    match (names.filterMap Value.string?).filterMap (ofTypeName? keywords readings) with
    | [] => none
    | [only] => some only
    | members => some (.combination .anyOf members)
  | _ => none

/-- The schema of a combination keyword, which holds a list. -/
def ofCombination? (readings : List (String × Reading)) (keyword : String) (how : Combination) :
    Option Schema :=
  match readings.lookup keyword with
  | some reading =>
    match reading.value with
    | .array _ => some (.combination how reading.items)
    | _ => none
  | none => none

/-- The schema that the keywords of an object describe, by the first rule that fits. -/
def ofKeywords (keywords : Keywords) (readings : List (String × Reading)) : Schema :=
  let reference? := (text? keywords "$ref").map Schema.reference
  let object? :=
    if Ordered.contains "properties" keywords ||
        Ordered.contains "additionalProperties" keywords then
      some (.object (objectShape keywords readings))
    else none
  let nullable? := if isSet keywords "nullable" then some .nullable else none
  (reference?.orElse fun _ => (ofType? keywords readings).orElse fun _ => object?.orElse fun _ =>
    ((listedValues? keywords).map Schema.enumeration).orElse fun _ =>
    (ofCombination? readings "anyOf" .anyOf).orElse fun _ =>
    (ofCombination? readings "oneOf" .oneOf).orElse fun _ =>
    (ofCombination? readings "allOf" .allOf).orElse fun _ => nullable?).getD .unknown

mutual
/-- What a JSON value gives. -/
def read : Value → Reading
  | .object members =>
    let readings := readMembers members
    ⟨.object members, ofKeywords members readings, [],
      readings.map fun (name, r) => (name, r.schema)⟩
  | .array items => ⟨.array items, .unknown, (readItems items).map Reading.schema, []⟩
  | value => ⟨value, .unknown, [], []⟩
/-- What the items of an array give. -/
def readItems : List Value → List Reading
  | [] => []
  | item :: rest => read item :: readItems rest
/-- What the members of an object give. -/
def readMembers : List (String × Value) → List (String × Reading)
  | [] => []
  | member :: rest => readMember member :: readMembers rest
def readMember : String × Value → String × Reading
  | (name, value) => (name, read value)
end

def ofJson (value : Value) : Schema := (read value).schema

end Schema

end ClientGen
