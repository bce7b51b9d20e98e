import ClientGen.Text.Split

/-!
Paths of files, as texts. Slashes separate the names of a path. Slashes in a row, a slash at the end
and a lone dot behind a slash say nothing, and an operation on a path keeps the rest of its text as
it was written.
-/
namespace ClientGen.Files

structure FilePath where
  text : String
  deriving DecidableEq, Repr, Inhabited

namespace FilePath

/-- A text read backward without what says nothing at its end. -/
def trimBackward : List Char → List Char
  | '/' :: c :: rest => trimBackward (c :: rest)
  | '.' :: '/' :: rest => trimBackward ('/' :: rest)
  | chars => chars

/-- A text without what says nothing at its end. -/
def trim (chars : List Char) : List Char := (trimBackward chars.reverse).reverse

/-- What follows the last slash. -/
def afterSlash (chars : List Char) : List Char :=
  (chars.reverse.takeWhile (· != '/')).reverse

/-- What comes before the last slash, and the slash itself. -/
def throughSlash (chars : List Char) : List Char :=
  (chars.reverse.dropWhile (· != '/')).reverse

/-- Whether a path starts at the root. -/
def isAbsolute (p : FilePath) : Bool := p.text.toList.head? == some '/'

/-- The path without its last name; neither the empty path nor the root has one. -/
def parent? (p : FilePath) : Option FilePath :=
  let chars := trim p.text.toList
  if chars = [] ∨ chars = ['/'] then none else some ⟨String.ofList (trim (throughSlash chars))⟩

/-- The last name of a path, unless it is a dot or two. -/
def fileName? (p : FilePath) : Option String :=
  let name := afterSlash (trim p.text.toList)
  if name = [] ∨ name = ['.'] ∨ name = ['.', '.'] then none else some (String.ofList name)

/-- What follows the last dot of the last name, unless that dot starts the name. -/
def extension? (p : FilePath) : Option String := do
  let name := (← p.fileName?).toList
  let ending := (name.reverse.takeWhile (· != '.')).reverse
  if name.length ≤ ending.length + 1 then none else some (String.ofList ending)

/-- A path below another one; an absolute path stays what it is. -/
def join (base p : FilePath) : FilePath :=
  if p.isAbsolute then p
  else if base.text = "" ∨ base.text.toList.getLast? = some '/' then ⟨base.text ++ p.text⟩
  else ⟨base.text ++ "/" ++ p.text⟩

def withFileName (p : FilePath) (name : String) : FilePath :=
  (if p.fileName?.isSome then p.parent?.getD p else p).join ⟨name⟩

/-- The names of a path in order. Lone dots stand for themselves. -/
def names (p : FilePath) : List String :=
  ((Text.split (· == '/') p.text.toList).filter (!·.isEmpty)).map String.ofList

/-- A path, its parent, the parent of that and so on; `fuel` bounds their number. -/
def ancestorsFrom : Nat → FilePath → List FilePath
  | 0, p => [p]
  | fuel + 1, p =>
    match p.parent? with
    | none => [p]
    | some outer => p :: ancestorsFrom fuel outer

/-- A path, its parent, the parent of that and so on. Each has a name less than the one before. -/
def ancestors (p : FilePath) : List FilePath := ancestorsFrom (p.names.length + 1) p

/-- Whether a path ends in a slash, so that it can mean a directory only. -/
def endsInSlash (p : FilePath) : Bool := p.text.toList.getLast? == some '/'

end FilePath

end ClientGen.Files
