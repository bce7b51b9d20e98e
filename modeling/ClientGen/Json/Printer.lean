import ClientGen.Json.Value

/-!
The compact text of JSON values. In a string, quotes, backslashes and controls are escaped and all
else is written as it is.
-/
namespace ClientGen.Json

/-- A hexadecimal digit in lower case. -/
def hexDigit (n : Nat) : Char := Nat.digitChar n

/-- A control character as a four-digit escape. -/
def controlEscape (code : Nat) : List Char :=
  ['\\', 'u', '0', '0', hexDigit (code / 16), hexDigit (code % 16)]

/-- One character of a string. -/
def escapedChar (c : Char) : List Char :=
  if c = '"' ∨ c = '\\' then ['\\', c]
  else if c = '\x08' then ['\\', 'b']
  else if c = '\x0c' then ['\\', 'f']
  else if c = '\n' then ['\\', 'n']
  else if c = '\r' then ['\\', 'r']
  else if c = '\t' then ['\\', 't']
  else if c.toNat < 0x20 then controlEscape c.toNat
  else [c]

def stringChars (text : List Char) : List Char := '"' :: text.flatMap escapedChar ++ ['"']

mutual
/-- The compact text of a value. -/
def Value.chars : Value → List Char
  | .null => ['n', 'u', 'l', 'l']
  | .boolean true => ['t', 'r', 'u', 'e']
  | .boolean false => ['f', 'a', 'l', 's', 'e']
  | .number n => n.chars .data
  | .string s => stringChars s.toList
  | .array items => '[' :: itemsChars items
  | .object members => '\x7b' :: membersChars members
/-- The items of an array after its opening bracket. -/
def itemsChars : List Value → List Char
  | [] => [']']
  | item :: rest => item.chars ++ moreItemsChars rest
def moreItemsChars : List Value → List Char
  | [] => [']']
  | item :: rest => ',' :: item.chars ++ moreItemsChars rest
/-- The members of an object after its opening brace. -/
def membersChars : List (String × Value) → List Char
  | [] => ['\x7d']
  | member :: rest => memberChars member ++ moreMembersChars rest
/-- The members after the first. -/
def moreMembersChars : List (String × Value) → List Char
  | [] => ['\x7d']
  | member :: rest => ',' :: memberChars member ++ moreMembersChars rest
/-- One member: its name, a colon and its value. -/
def memberChars : String × Value → List Char
  | (name, value) => stringChars name.toList ++ ':' :: value.chars
end

def Value.text (value : Value) : String := String.ofList value.chars

end ClientGen.Json
