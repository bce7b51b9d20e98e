import ClientGen.Http.Authority

/-!
URLs. A text is read into its parts and written in one form: the scheme and the host in lower case,
a port only where it is not the usual one, dot segments resolved, and characters that may not stand
in a part percent encoded.
-/
namespace ClientGen.Http

structure Url where
  scheme : String
  authority : Option Authority
  path : UrlPath
  query : Option (List Char)
  fragment : Option (List Char)
  deriving DecidableEq, Repr

/-- Whether a character is percent encoded in a query. -/
def SchemeKind.inQuerySet (kind : SchemeKind) (c : Char) : Bool :=
  c ∈ [' ', '"', '#', '<', '>'] || (kind != .other && c == '\'')

/-- The URL of a scheme, an authority and the text after it, whose path is read as given. -/
def withRest (scheme : String) (authority : Option Authority)
    (path : List Char → UrlPath) (text : List Char) : Url :=
  let kind := SchemeKind.ofScheme scheme
  let (front, fragment) := Text.cutAt '#' text
  let (pathText, query) := Text.cutAt '?' front
  { scheme, authority
    path := path pathText
    query := query.map fun text => percentEncode kind.inQuerySet (withoutBreaks text)
    fragment := fragment.map fun text => percentEncode inFragmentSet (withoutBreaks text) }

def readAfterSlashes (scheme : String) (text : List Char) : Option Url := do
  let kind := SchemeKind.ofScheme scheme
  let goesOn := fun c => !kind.isSlash c && c != '?' && c != '#'
  let rest := text.dropWhile goesOn
  let (authority, behind) ← readAuthority scheme (text.takeWhile goesOn) (!rest.isEmpty)
  return withRest scheme (some authority) (readPath kind) (behind ++ rest)

/-- The URL of a file on a host. A path on a drive has no host. -/
def fileUrl (host : Option Host) (text : List Char) : Url :=
  let url := withRest "file" (some ⟨none, host, none⟩) readFilePath text
  match url.path with
  | .onDrive _ _ => { url with authority := some ⟨none, none, none⟩ }
  | _ => url

/-- The URL of a file given by the text after two slashes: a host, which may be empty or the local
one, and a path. A drive is no host but the start of the path. -/
def readFileHost (text : List Char) : Option Url := do
  let goesOn := fun c => !SchemeKind.file.isSlash c && c != '?' && c != '#'
  let hostText := withoutBreaks (text.takeWhile goesOn)
  if hostText = [] ∨ isDrive hostText then return fileUrl none text
  let host ← Host.parse hostText
  return fileUrl (if host = .name "localhost" then none else some host) (text.dropWhile goesOn)

/-- The URL of a file, whose host stands between two slashes and the path. -/
def readFile (text : List Char) : Option Url :=
  match text.dropWhile isBreak with
  | a :: rest =>
    match rest.dropWhile isBreak with
    | b :: behind =>
      if SchemeKind.file.isSlash a && SchemeKind.file.isSlash b then readFileHost behind
      else some (fileUrl none text)
    | [] => some (fileUrl none text)
  | [] => some (fileUrl none text)

/-- A text without the blanks and control characters at its ends. -/
def trim (text : List Char) : List Char :=
  let isBlank := fun (c : Char) => c.toNat ≤ 0x20
  ((text.dropWhile isBlank).reverse.dropWhile isBlank).reverse

/-- The URL that a text gives; a text without a scheme gives none. Tabs and line ends are dropped,
but in the path of a file they cut. -/
def Url.parse (text : String) : Option Url := do
  let trimmed := trim text.toList
  let chars := withoutBreaks trimmed
  if !chars.head?.any Char.isAlpha then none
  let scheme := String.ofList ((chars.takeWhile isSchemeChar).map Char.toLower)
  match SchemeKind.ofScheme scheme, chars.dropWhile isSchemeChar with
  | .web, ':' :: rest => readAfterSlashes scheme (rest.dropWhile SchemeKind.web.isSlash)
  | .file, ':' :: _ => readFile ((trimmed.dropWhile (· != ':')).drop 1)
  | .other, ':' :: '/' :: '/' :: rest => readAfterSlashes scheme rest
  | .other, ':' :: '/' :: rest => return withRest scheme none (readPath .other) ('/' :: rest)
  | .other, ':' :: rest =>
    return withRest scheme none (fun path => .plain (percentEncode (fun _ => false) path)) rest
  | _, _ => none

def Url.host? (url : Url) : Option Host := url.authority.bind (·.host)

def Url.withoutCredentials (url : Url) : Url :=
  { url with authority := url.authority.map fun authority =>
      { authority with credentials := authority.credentials.filter (!·.isReadable) } }

def Url.text (url : Url) : String := String.ofList (
  url.scheme.toList ++ ':' :: (url.authority.map Authority.chars).getD [] ++
    url.path.chars url.authority.isSome ++ (url.query.map ('?' :: ·)).getD [] ++
    (url.fragment.map ('#' :: ·)).getD [])

end ClientGen.Http
