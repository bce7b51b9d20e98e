import ClientGen.Text.Digits
import ClientGen.Toml.Blank

/-!
Texts and keys of TOML. Basic texts have escapes, literal texts have none, and both can be written
on one line or, between three quotes, on several.
-/
namespace ClientGen.Toml

/-- Read the code point of an escape that has a number of hexadecimal digits. -/
def readCodePoint (count : Nat) (cs : List Char) : Option (Char × List Char) := do
  if cs.length < count then none
  let code ← Text.numberIn? 16 (cs.take count)
  if code.isValidChar then some (Char.ofNat code, cs.drop count) else none

def readEscape : List Char → Option (Char × List Char)
  | 'b' :: rest => some ('\x08', rest)
  | 't' :: rest => some ('\t', rest)
  | 'n' :: rest => some ('\n', rest)
  | 'f' :: rest => some ('\x0c', rest)
  | 'r' :: rest => some ('\r', rest)
  | '"' :: rest => some ('"', rest)
  | '\\' :: rest => some ('\\', rest)
  | 'u' :: rest => readCodePoint 4 rest
  | 'U' :: rest => readCodePoint 8 rest
  | _ => none

/-- Read a basic text after its opening quote; `fuel` bounds the number of characters. -/
def readBasicFrom : Nat → List Char → Option (List Char × List Char)
  | 0, _ => none
  | _ + 1, [] => none
  | fuel + 1, c :: rest =>
    if c = '"' then some ([], rest)
    else if c = '\\' then do
      let (char, rest) ← readEscape rest
      let (text, rest) ← readBasicFrom fuel rest
      return (char :: text, rest)
    else if isTextChar c then do
      let (text, rest) ← readBasicFrom fuel rest
      return (c :: text, rest)
    else none

/-- Read a basic text after its opening quote. -/
def readBasic (cs : List Char) : Option (List Char × List Char) := readBasicFrom (cs.length + 1) cs

/-- Read a literal text after its opening quote. -/
def readLiteral : List Char → Option (List Char × List Char)
  | [] => none
  | c :: rest =>
    if c = '\'' then some ([], rest)
    else if isTextChar c then do
      let (text, rest) ← readLiteral rest
      return (c :: text, rest)
    else none

/-- Past the end of a line that starts a text of several lines. -/
def skipFirstNewline (cs : List Char) : List Char := (newline? cs).getD cs

/-- Past a line end behind a backslash and all blanks and line ends after it, if they are next. -/
def skipContinuation? (cs : List Char) : Option (List Char) :=
  (newline? (skipBlanks cs)).map skipBlankLines

/-- Read a text of several lines after its opening quotes. Up to two quotes in a row are part of the
text, also right before the three that close it. In a basic text a backslash starts an escape or
hides the end of its line; `fuel` bounds the number of characters. -/
def readLongFrom (quote : Char) (isBasic : Bool) :
    Nat → List Char → Option (List Char × List Char)
  | 0, _ => none
  | _ + 1, [] => none
  | fuel + 1, c :: rest =>
    if c = quote then
      let run := (c :: rest).takeWhile (· == quote)
      if 5 < run.length then none
      else if 3 ≤ run.length then some (run.drop 3, (c :: rest).drop run.length)
      else do
        let (text, rest) ← readLongFrom quote isBasic fuel ((c :: rest).drop run.length)
        return (run ++ text, rest)
    else if isBasic ∧ c = '\\' then
      match skipContinuation? rest with
      | some rest => readLongFrom quote isBasic fuel rest
      | none => do
        let (char, rest) ← readEscape rest
        let (text, rest) ← readLongFrom quote isBasic fuel rest
        return (char :: text, rest)
    else
      match newline? (c :: rest) with
      | some rest => do
        let (text, rest) ← readLongFrom quote isBasic fuel rest
        return ('\n' :: text, rest)
      | none =>
        if isTextChar c then do
          let (text, rest) ← readLongFrom quote isBasic fuel rest
          return (c :: text, rest)
        else none

/-- Read a text of several lines after its opening quotes. -/
def readLong (quote : Char) (isBasic : Bool) (cs : List Char) : Option (List Char × List Char) :=
  readLongFrom quote isBasic (cs.length + 1) (skipFirstNewline cs)

def readText : List Char → Option (List Char × List Char)
  | '"' :: '"' :: '"' :: rest => readLong '"' true rest
  | '\'' :: '\'' :: '\'' :: rest => readLong '\'' false rest
  | '"' :: rest => readBasic rest
  | '\'' :: rest => readLiteral rest
  | _ => none

/-- Whether a character can stand in a key without quotes. -/
def isBareKeyChar (c : Char) : Bool := c.isAlphanum || c == '-' || c == '_'

def readKeyPart : List Char → Option (String × List Char)
  | '"' :: rest => do
    let (text, rest) ← readBasic rest
    return (String.ofList text, rest)
  | '\'' :: rest => do
    let (text, rest) ← readLiteral rest
    return (String.ofList text, rest)
  | cs =>
    let name := cs.takeWhile isBareKeyChar
    if name = [] then none else some (String.ofList name, cs.dropWhile isBareKeyChar)

/-- How deep keys and values can nest. -/
def maxDepth : Nat := 79

/-- Read a key of at most `most` parts, and the blanks around it. -/
def readKeyFrom : Nat → List Char → Option (List String × List Char)
  | 0, _ => none
  | most + 1, cs => do
    let (part, rest) ← readKeyPart (skipBlanks cs)
    match skipBlanks rest with
    | '.' :: rest => do
      let (parts, rest) ← readKeyFrom most rest
      return (part :: parts, rest)
    | rest => return ([part], rest)

/-- Read a key, and the blanks around it. -/
def readKey (cs : List Char) : Option (List String × List Char) := readKeyFrom maxDepth cs

end ClientGen.Toml
