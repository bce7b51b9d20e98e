import ClientGen.TypeScript.Literal

/-!
Run-time validators: expressions of the schema library `z` that check a value and give it its
type, and their text.
-/
namespace ClientGen
open TypeScript

/-- A check added to a validator. None of them changes the type of what passes. -/
inductive Check where
  | min (count : Nat)
  | max (count : Nat)
  | regex (pattern : String)
  | email
  | url
  | uuid
  | datetime
  | int
  | gte (bound : Json.Number)
  | lte (bound : Json.Number)
  | gt (bound : Json.Number)
  | lt (bound : Json.Number)
  | multipleOf (step : Json.Number)
  /-- The items of an array must differ from each other. -/
  | unique
  deriving DecidableEq, Repr

inductive Validator where
  | string
  | number
  | boolean
  | null
  | unknown
  /-- Exactly one value. -/
  | literal (value : Json.Value)
  /-- One of some strings. -/
  | choice (values : List Json.Value)
  /-- The validator of a schema that is declared elsewhere, looked up when it is used. -/
  | reference (name : String)
  | array (item : Validator)
  | object (fields : List (String × Validator))
  /-- Any names, with values that one validator accepts. -/
  | record (value : Validator)
  | union (members : List Validator)
  | checked (base : Validator) (check : Check)
  | optional (base : Validator)
  | nullable (base : Validator)
  /-- An object that may hold further properties. -/
  | catchall (base others : Validator)
  deriving Inhabited

/-- The name of the validator of a schema that is declared elsewhere. -/
def validatorName (name : String) : String := name ++ "Schema"

def Check.chars : Check → List Char
  | .min count => ".min(".toList ++ Nat.toDigits 10 count ++ [')']
  | .max count => ".max(".toList ++ Nat.toDigits 10 count ++ [')']
  | .regex pattern =>
    ".regex(new RegExp(".toList ++ stringLiteralChars pattern.toList ++ "))".toList
  | .email => ".email()".toList
  | .url => ".url()".toList
  | .uuid => ".uuid()".toList
  | .datetime => ".datetime(\x7b offset: true \x7d)".toList
  | .int => ".int()".toList
  | .gte bound => ".gte(".toList ++ bound.chars .data ++ [')']
  | .lte bound => ".lte(".toList ++ bound.chars .data ++ [')']
  | .gt bound => ".gt(".toList ++ bound.chars .data ++ [')']
  | .lt bound => ".lt(".toList ++ bound.chars .data ++ [')']
  | .multipleOf step => ".multipleOf(".toList ++ step.chars .data ++ [')']
  | .unique =>
    (".refine((items) => new Set(items.map((item) => JSON.stringify(item))).size === " ++
      "items.length, \x7b message: \"Array items must be unique\" \x7d)").toList

mutual
def Validator.chars : Validator → List Char
  | .string => "z.string()".toList
  | .number => "z.number()".toList
  | .boolean => "z.boolean()".toList
  | .null => "z.null()".toList
  | .unknown => "z.unknown()".toList
  | .literal value => "z.literal(".toList ++ value.chars ++ [')']
  | .choice values =>
    "z.enum([".toList ++ List.intercalate ", ".toList (values.map Json.Value.chars) ++ "])".toList
  | .reference name => "z.lazy(() => ".toList ++ (validatorName name).toList ++ [')']
  | .array item => "z.array(".toList ++ item.chars ++ [')']
  | .object fields =>
    "z.object(\x7b ".toList ++ List.intercalate ", ".toList (fieldsChars fields) ++ " \x7d)".toList
  | .record value => "z.record(z.string(), ".toList ++ value.chars ++ [')']
  | .union members =>
    "z.union([".toList ++ List.intercalate ", ".toList (membersChars members) ++ "])".toList
  | .checked base check => base.chars ++ check.chars
  | .optional base => base.chars ++ ".optional()".toList
  | .nullable base => base.chars ++ ".nullable()".toList
  | .catchall base others => base.chars ++ ".catchall(".toList ++ others.chars ++ [')']
def Validator.fieldsChars : List (String × Validator) → List (List Char)
  | [] => []
  | field :: rest => fieldChars field :: fieldsChars rest
def Validator.fieldChars : String × Validator → List Char
  | (name, value) => propertyKeyChars name.toList ++ ": ".toList ++ value.chars
/-- The texts of the members of a union. -/
def Validator.membersChars : List Validator → List (List Char)
  | [] => []
  | member :: rest => member.chars :: membersChars rest
end

def Validator.text (validator : Validator) : String := String.ofList validator.chars

/-- A validator with checks added, the first of the list first. -/
def Validator.withChecks (base : Validator) (checks : List Check) : Validator :=
  checks.foldl .checked base

namespace Validator

theorem membersChars_eq_map (members : List Validator) :
    membersChars members = members.map chars := by
  induction members with
  | nil => rfl
  | cons first rest ih => exact congrArg (first.chars :: ·) ih

theorem fieldsChars_eq_map (fields : List (String × Validator)) :
    fieldsChars fields = fields.map fieldChars := by
  induction fields with
  | nil => rfl
  | cons first rest ih => exact congrArg (fieldChars first :: ·) ih

theorem chars_withChecks (base : Validator) (checks : List Check) :
    (base.withChecks checks).chars = base.chars ++ (checks.map Check.chars).flatten := by
  induction checks generalizing base with
  | nil => exact (List.append_nil _).symm
  | cons check rest ih =>
    have step : (Validator.checked base check).chars = base.chars ++ check.chars := rfl
    have whole := ih (.checked base check)
    rw [step, List.append_assoc] at whole
    exact whole

end Validator

end ClientGen
