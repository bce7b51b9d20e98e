import ClientGen.Json.Number

/-!
JSON values. The members of an object keep the order in which they are written.
-/
namespace ClientGen.Json

inductive Value where
  | null
  | boolean (b : Bool)
  | number (n : Number)
  | string (s : String)
  | array (items : List Value)
  | object (members : List (String × Value))
  deriving Repr, Inhabited

namespace Value

def string? : Value → Option String
  | .string s => some s
  | _ => none

def number? : Value → Option Number
  | .number n => some n
  | _ => none

/-- Whether a value is the boolean `true`. -/
def isTrue : Value → Bool
  | .boolean b => b
  | _ => false

def isString (v : Value) : Bool := v.string?.isSome

/-- What a value is, in the words of a message. -/
def kind : Value → String
  | .null => "null"
  | .boolean _ => "a boolean"
  | .number _ => "a number"
  | .string _ => "a string"
  | .array _ => "an array"
  | .object _ => "an object"

end Value

end ClientGen.Json
