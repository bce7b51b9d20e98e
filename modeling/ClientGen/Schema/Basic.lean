import ClientGen.Json.Value
import ClientGen.NameSet

/-!
Schemas of operation inputs and outputs: a closed set of shapes that values can have, with the
constraints that each shape carries.
-/
namespace ClientGen
open Json

/-- Named formats of strings. A format without a check of its own keeps its name. -/
inductive StringFormat where
  | email
  | url
  | uuid
  | dateTime
  | other (name : String)
  deriving DecidableEq, Repr

def StringFormat.ofName (name : String) : StringFormat :=
  if name = "email" then .email
  else if name = "uri" ∨ name = "url" then .url
  else if name = "uuid" then .uuid
  else if name = "date-time" then .dateTime
  else .other name

/-- Constraints on strings. -/
structure StringConstraints where
  minLength : Option Nat
  maxLength : Option Nat
  pattern : Option String
  format : Option StringFormat
  deriving DecidableEq, Repr

/-- Constraints on numbers. Bounds stay the numbers that were written. -/
structure NumberConstraints where
  isInteger : Bool
  minimum : Option Number
  maximum : Option Number
  exclusiveMinimum : Option Number
  exclusiveMaximum : Option Number
  multipleOf : Option Number
  deriving DecidableEq, Repr

/-- Constraints on arrays apart from their items. -/
structure ArrayConstraints where
  minItems : Option Nat
  maxItems : Option Nat
  uniqueItems : Bool
  deriving DecidableEq, Repr

/-- What an object may hold besides its declared properties. -/
inductive Additional (σ : Type) where
  | unspecified
  | allowed (isAllowed : Bool)
  | described (schema : σ)
  deriving Repr

/-- The shape of an object, over any description of its properties: the properties in declaration
order, each name once, and the set of names that must be there. -/
structure ObjectShape (σ : Type) where
  properties : List (String × σ)
  required : List String
  additional : Additional σ
  deriving Repr

/-- Whether a property must be there. -/
def ObjectShape.requires (shape : ObjectShape σ) (name : String) : Bool :=
  shape.required.contains name

/-- The ways to combine schemas. -/
inductive Combination where
  | anyOf
  | oneOf
  | allOf
  deriving DecidableEq, Repr

def Combination.name : Combination → String
  | .anyOf => "AnyOf"
  | .oneOf => "OneOf"
  | .allOf => "AllOf"

inductive Schema where
  | reference (target : String)
  | string (constraints : StringConstraints)
  | enumeration (values : List Value)
  | number (constraints : NumberConstraints)
  | boolean
  | null
  | array (items : Option Schema) (constraints : ArrayConstraints)
  | object (shape : ObjectShape Schema)
  | combination (how : Combination) (members : List Schema)
  | nullable
  | unknown
  deriving Inhabited

def Schema.object? : Schema → Option (ObjectShape Schema)
  | .object shape => some shape
  | _ => none

end ClientGen
