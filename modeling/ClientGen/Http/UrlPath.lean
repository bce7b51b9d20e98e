import ClientGen.Http.Percent
import ClientGen.Http.Scheme
import ClientGen.Text.Split

/-!
Paths of URLs. Dot segments are resolved while a path is read, and no path goes up past a drive.
-/
namespace ClientGen.Http

inductive UrlPath where
  /-- A path without any structure. -/
  | plain (text : List Char)
  | segments (names : List (List Char))
  /-- A path that starts at a drive. -/
  | onDrive (letter : Char) (names : List (List Char))
  deriving DecidableEq, Repr

/-- Whether a character is percent encoded in a fragment. -/
def inFragmentSet (c : Char) : Bool := c ∈ [' ', '"', '<', '>', '\x60']

/-- Whether a character is percent encoded in a path. -/
def inPathSet (c : Char) : Bool := inFragmentSet c || c ∈ ['#', '?', '\x7b', '\x7d']

/-- Whether a segment, dots perhaps percent encoded, is the given number of dots. -/
def isDots (count : Nat) : List Char → Bool
  | [] => count == 0
  | '.' :: rest => 0 < count && isDots (count - 1) rest
  | '%' :: '2' :: e :: rest => (e == 'e' || e == 'E') && 0 < count && isDots (count - 1) rest
  | _ => false

/-- Whether a segment names a drive: a letter, and a colon or a bar. -/
def isDrive : List Char → Bool
  | [letter, mark] => letter.isAlpha && (mark == ':' || mark == '|')
  | _ => false

/-- Whether a segment names a drive, perhaps with a backslash and more behind it. -/
def startsWithDrive : List Char → Bool
  | letter :: mark :: '\\' :: _ => isDrive [letter, mark]
  | segment => isDrive segment

/-- The segments before a dot segment that goes up, the last one first. A drive is not left. -/
def goUp : List (List Char) → List (List Char)
  | [] => []
  | last :: before => if startsWithDrive last then last :: before else before

/-- The segments of a path with one more, the last one first. A dot segment at the end leaves an
empty one in its place. -/
def addSegment (before : List (List Char)) (segment : List Char) (isLast : Bool) :
    List (List Char) :=
  let stay := fun kept : List (List Char) => if isLast then [] :: kept else kept
  if isDots 2 segment then stay (goUp before)
  else if isDots 1 segment then stay before
  else percentEncode inPathSet segment :: before

/-- The segments of a path without dot segments, given those before them, the last one first. -/
def resolve (before : List (List Char)) : List (List Char) → List (List Char)
  | [] => before.reverse
  | segment :: rest => resolve (addSegment before segment rest.isEmpty) rest

/-- The part of a text behind a slash that it may start with. -/
def relativePart (kind : SchemeKind) (text : List Char) : List Char :=
  if text.head?.any kind.isSlash then text.drop 1 else text

/-- The path of a text that may start with a slash. -/
def readPath (kind : SchemeKind) (text : List Char) : UrlPath :=
  if kind = .other ∧ text = [] then .segments []
  else .segments (resolve [] (Text.split kind.isSlash (relativePart kind text)))

/-- Whether a character is dropped wherever it stands. -/
def isBreak (c : Char) : Bool := c == '\t' || c == '\n' || c == '\r'

/-- A text without tabs and line ends. -/
def withoutBreaks (text : List Char) : List Char := text.filter (!isBreak ·)

/-- The drive that a segment names, and what follows it where a tab or a line end cuts it off. -/
def driveAt? (segment : List Char) : Option (Char × List Char) :=
  let drive := withoutBreaks (segment.takeWhile (· != ':')) ++ [':']
  match withoutBreaks segment, segment.dropWhile (· != ':') with
  | [letter, mark], _ => if isDrive [letter, mark] then some (letter, []) else none
  | letter :: _ :: rest, _ :: mark :: _ =>
    if isDrive drive && drive.head? = some letter && isBreak mark then some (letter, rest)
    else none
  | _, _ => none

/-- The path of the segments of a file, given those before them, the last one first. A drive that
comes first is where the path starts. Where a drive is cut off, a new segment begins, which is kept
whatever it is. Empty segments are dropped at the start. -/
def resolveFile (before : List (List Char)) : List (List Char) → UrlPath
  | [] =>
    match before.reverse.dropWhile (· = []) with
    | [] => .segments [[]]
    | names => .segments names
  | segment :: rest =>
    match if before = [] then driveAt? segment else none with
    | some (letter, []) => .onDrive letter (resolve [] (rest.map withoutBreaks))
    | some (letter, behind) => resolveFile [percentEncode inPathSet behind, [letter, ':']] rest
    | none => resolveFile (addSegment before (withoutBreaks segment) rest.isEmpty) rest

def readFilePath (text : List Char) : UrlPath :=
  resolveFile [] (Text.split SchemeKind.file.isSlash
    (relativePart .file (text.dropWhile isBreak)))

/-- The text of a path. Without an authority before it, it must not start with two slashes. -/
def UrlPath.chars (hasAuthority : Bool) : UrlPath → List Char
  | .plain text => text
  | .segments names =>
    let text := names.flatMap ('/' :: ·)
    if !hasAuthority ∧ names.head? = some [] ∧ 1 < names.length then '/' :: '.' :: text else text
  | .onDrive letter names => '/' :: letter :: ':' :: names.flatMap ('/' :: ·)

end ClientGen.Http
