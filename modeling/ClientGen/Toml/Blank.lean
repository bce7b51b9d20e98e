/-!
What stands between the tokens of TOML text: blanks, comments and ends of lines.
-/
namespace ClientGen.Toml

/-- Past blanks on one line. -/
def skipBlanks (cs : List Char) : List Char := cs.dropWhile fun c => c == ' ' || c == '\t'

/-- Past the end of a line, if one is next. -/
def newline? : List Char → Option (List Char)
  | '\n' :: rest => some rest
  | '\r' :: '\n' :: rest => some rest
  | _ => none

/-- Whether a character can stand for itself in a comment or a text: no control character but the
tab. -/
def isTextChar (c : Char) : Bool := c == '\t' || (0x20 ≤ c.toNat && c.toNat != 0x7F)

/-- Past a comment, if one is next; the end of its line is not part of it. -/
def skipComment : List Char → List Char
  | '#' :: rest => rest.dropWhile isTextChar
  | cs => cs

/-- Past the rest of a line, on which nothing but a comment may stand. -/
def readLineEnd (cs : List Char) : Option (List Char) :=
  match skipComment (skipBlanks cs) with
  | [] => some []
  | rest => newline? rest

/-- Past blanks and ends of lines; `fuel` bounds the number of lines. -/
def skipBlankLinesFrom : Nat → List Char → List Char
  | 0, cs => cs
  | fuel + 1, cs =>
    match newline? (skipBlanks cs) with
    | some rest => skipBlankLinesFrom fuel rest
    | none => skipBlanks cs

def skipBlankLines (cs : List Char) : List Char := skipBlankLinesFrom (cs.length + 1) cs

/-- Past blanks, comments and ends of lines; `fuel` bounds the number of lines. -/
def skipFillerFrom : Nat → List Char → List Char
  | 0, cs => cs
  | fuel + 1, cs =>
    match newline? (skipComment (skipBlanks cs)) with
    | some rest => skipFillerFrom fuel rest
    | none => skipBlanks cs

/-- Past blanks, comments and ends of lines. -/
def skipFiller (cs : List Char) : List Char := skipFillerFrom (cs.length + 1) cs

end ClientGen.Toml
