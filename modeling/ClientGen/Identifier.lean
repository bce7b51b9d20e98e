import ClientGen.Text.Case
import ClientGen.Text.Split

/-!
Identifiers of generated code. A name in any spelling is cut into pieces at separators; its Pascal
form joins the pieces, each with a capital first letter, and its camel form starts in lower case.
-/
namespace ClientGen.Identifier
open Text

/-- Whether a character separates the pieces of a name. -/
def isSeparator (c : Char) : Bool := c == '-' || c == '_' || c == '/' || c == ':'

/-- Whether a character is an ASCII letter or digit. -/
def isAlphanumeric (c : Char) : Bool := c.isAlpha || c.isDigit

/-- Whether a name is in Pascal form already: ASCII letters and digits after a capital. -/
def isCanonical : List Char → Bool
  | [] => false
  | c :: rest => c.isUpper && rest.all isAlphanumeric

/-- The non-empty pieces of a name. -/
def pieces (name : List Char) : List (List Char) := (split isSeparator name).filter (!·.isEmpty)

/-- The Pascal form over characters. -/
def pascalChars (name : List Char) : List Char :=
  if isCanonical name then name else (pieces name).flatMap upperFirst

/-- The Pascal form of a name. -/
def pascal (name : String) : String := String.ofList (pascalChars name.toList)

/-- The camel form of a name. -/
def camel (name : String) : String := String.ofList (lowerFirst (pascalChars name.toList))

/-- Whether a character may start a plain identifier. -/
def isStart (c : Char) : Bool := c.isAlpha || c == '_' || c == '$'

/-- Whether a character may continue a plain identifier. -/
def isContinuation (c : Char) : Bool := isAlphanumeric c || c == '_' || c == '$'

/-- Whether characters form a plain identifier. -/
def isPlainChars : List Char → Bool
  | [] => false
  | c :: rest => isStart c && rest.all isContinuation

/-- Whether a name can stand unquoted as a property key or after a dot. -/
def isPlain (name : String) : Bool := isPlainChars name.toList

/-- Words that no function declaration can take as its name. -/
def reservedWords : List String := [
  "arguments", "await", "break", "case", "catch", "class", "const", "continue", "debugger",
  "default", "delete", "do", "else", "enum", "eval", "export", "extends", "false", "finally",
  "for", "function", "if", "implements", "import", "in", "instanceof", "interface", "let",
  "new", "null", "package", "private", "protected", "public", "return", "static", "super",
  "switch", "this", "throw", "true", "try", "typeof", "var", "void", "while", "with", "yield"]

/-- Whether a name is a reserved word. -/
def isReserved (name : String) : Bool := reservedWords.contains name

end ClientGen.Identifier
