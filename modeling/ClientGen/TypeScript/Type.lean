import ClientGen.TypeScript.Literal

/-!
Static types of the values that a client sends and receives, and their text.
-/
namespace ClientGen.TypeScript

/-- A property of an object type. -/
structure TypeField (τ : Type) where
  name : String
  isOptional : Bool
  type : τ
  deriving Repr

inductive TypeExpr where
  | string
  | number
  | boolean
  | null
  | unknown
  /-- The type of one value. -/
  | literal (value : Json.Value)
  /-- A type that is declared elsewhere. -/
  | reference (name : String)
  | array (item : TypeExpr)
  /-- Any names, with values of one type. -/
  | record (value : TypeExpr)
  /-- Declared properties, and the type of all others where they may stand. -/
  | object (fields : List (TypeField TypeExpr)) (others : Option TypeExpr)
  | union (members : List TypeExpr)
  deriving Inhabited

mutual
/-- The text of a type. The members of a union are not put in brackets. -/
def TypeExpr.chars : TypeExpr → List Char
  | .string => "string".toList
  | .number => "number".toList
  | .boolean => "boolean".toList
  | .null => "null".toList
  | .unknown => "unknown".toList
  | .literal value => value.chars
  | .reference name => name.toList
  | .array item => "Array<".toList ++ item.chars ++ ['>']
  | .record value => "Record<string, ".toList ++ value.chars ++ ['>']
  | .object fields others =>
    "\x7b ".toList ++ List.intercalate "; ".toList (fieldsChars fields ++ othersChars others) ++
      " \x7d".toList
  | .union members => List.intercalate " | ".toList (membersChars members)
def fieldsChars : List (TypeField TypeExpr) → List (List Char)
  | [] => []
  | field :: rest => fieldChars field :: fieldsChars rest
def fieldChars : TypeField TypeExpr → List Char
  | ⟨name, isOptional, type⟩ =>
    propertyKeyChars name.toList ++ (if isOptional then "?: " else ": ").toList ++ type.chars
/-- The index signature of an object type, if it has one. -/
def othersChars : Option TypeExpr → List (List Char)
  | none => []
  | some type => ["[key: string]: ".toList ++ type.chars]
/-- The texts of the members of a union. -/
def membersChars : List TypeExpr → List (List Char)
  | [] => []
  | member :: rest => member.chars :: membersChars rest
end

theorem membersChars_eq_map (members : List TypeExpr) :
    membersChars members = members.map TypeExpr.chars := by
  induction members with
  | nil => rfl
  | cons first rest ih => exact congrArg (first.chars :: ·) ih

theorem fieldsChars_eq_map (fields : List (TypeField TypeExpr)) :
    fieldsChars fields = fields.map fieldChars := by
  induction fields with
  | nil => rfl
  | cons first rest ih => exact congrArg (fieldChars first :: ·) ih

def TypeExpr.text (type : TypeExpr) : String := String.ofList type.chars

end ClientGen.TypeScript
