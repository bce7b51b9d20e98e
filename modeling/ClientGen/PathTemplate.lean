import ClientGen.Text.Word
import ClientGen.TypeScript.Literal

/-!
Paths of operations. A colon followed by a run of word characters is a parameter; all other text is
literal. The URL of a request is a template literal in which parameters are read from the input.
-/
namespace ClientGen.PathTemplate
open Text

/-- A part of a path. -/
inductive Segment where
  | literal (text : List Char)
  | parameter (name : List Char)
  deriving DecidableEq, Repr

/-- A character of literal text in front of other segments. -/
def consLiteral (c : Char) : List Segment → List Segment
  | .literal text :: rest => .literal (c :: text) :: rest
  | segments => .literal [c] :: segments

/-- The segments of a path; no two literal ones stand next to each other. -/
def segments : List Char → List Segment
  | [] => []
  | c :: rest =>
    let name := rest.takeWhile isWord
    if c = ':' ∧ name ≠ [] then .parameter name :: segments (rest.dropWhile isWord)
    else consLiteral c (segments rest)
  termination_by path => path.length
  decreasing_by
    · have := (List.dropWhile_sublist isWord (l := rest)).length_le
      simp only [List.length_cons]
      omega
    · simp

def Segment.source : Segment → List Char
  | .literal text => text
  | .parameter name => ':' :: name

def Segment.parameter? : Segment → Option (List Char)
  | .literal _ => none
  | .parameter name => some name

/-- The names of the parameters of a path, in order and with repetitions. -/
def parameters (path : String) : List String :=
  ((segments path.toList).filterMap Segment.parameter?).map String.ofList

/-- Literal text inside a template literal: backslashes, backquotes and the openings of
substitutions are escaped. -/
def escapeLiteral : List Char → List Char
  | [] => []
  | c :: rest =>
    if c = '\\' ∨ c = '\x60' ∨ (c = '$' ∧ rest.head? = some '\x7b') then
      '\\' :: c :: escapeLiteral rest
    else c :: escapeLiteral rest

def substitution (expression : List Char) : List Char :=
  '$' :: '\x7b' :: expression ++ ['\x7d']

/-- The expression that puts a parameter into a URL. -/
def parameterExpression (variableName name : List Char) : List Char :=
  "encodeURIComponent(String(".toList ++ TypeScript.propertyAccessChars variableName name ++
    "))".toList

def Segment.template (variableName : List Char) : Segment → List Char
  | .literal text => escapeLiteral text
  | .parameter name => substitution (parameterExpression variableName name)

/-- The body of the template literal of a path, with parameters read from a variable. -/
def templateChars (path variableName : List Char) : List Char :=
  (segments path).flatMap (Segment.template variableName)

/-- The body of the template literal of a path, with parameters read from a variable. -/
def template (path variableName : String) : String :=
  String.ofList (templateChars path.toList variableName.toList)

/-- The template literal of the URL of a path. -/
def urlChars (path : List Char) : List Char :=
  '\x60' :: substitution "config.baseUrl".toList ++ templateChars path "input".toList ++ ['\x60']

/-- The template literal of the URL of a path. -/
def url (path : String) : String := String.ofList (urlChars path.toList)

end ClientGen.PathTemplate
