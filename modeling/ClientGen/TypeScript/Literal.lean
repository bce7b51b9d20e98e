import ClientGen.Identifier
import ClientGen.Json.Printer

/-!
Literals and property names of generated code. A string literal is the JSON text of the string in
which the two Unicode line separators are escaped as well, since some readers take them for ends
of lines.
-/
namespace ClientGen.TypeScript

/-- One character of a string literal. -/
def literalChar (c : Char) : List Char :=
  if c = '\u2028' then "\\u2028".toList
  else if c = '\u2029' then "\\u2029".toList
  else Json.escapedChar c

/-- A text as a string literal, over characters. -/
def stringLiteralChars (text : List Char) : List Char := '"' :: text.flatMap literalChar ++ ['"']

def stringLiteral (text : String) : String := String.ofList (stringLiteralChars text.toList)

/-- A property name in an object literal or type: bare where it is a plain identifier, else quoted.
-/
def propertyKeyChars (name : List Char) : List Char :=
  if Identifier.isPlainChars name then name else stringLiteralChars name

def propertyKey (name : String) : String := String.ofList (propertyKeyChars name.toList)

/-- Access to a property: with a dot where its name is a plain identifier, else in brackets. -/
def propertyAccessChars (object name : List Char) : List Char :=
  if Identifier.isPlainChars name then object ++ '.' :: name
  else object ++ '[' :: stringLiteralChars name ++ [']']

def propertyAccess (object name : String) : String :=
  String.ofList (propertyAccessChars object.toList name.toList)

end ClientGen.TypeScript
