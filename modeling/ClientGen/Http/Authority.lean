import ClientGen.Http.Host
import ClientGen.Http.UrlPath

/-!
Authorities of URLs: who asks, the host that is asked, and its port.
-/
namespace ClientGen.Http

/-- Credentials, percent encoded. At least one of the two is not empty. -/
structure Credentials where
  user : List Char
  password : List Char
  deriving DecidableEq, Repr

/-- Credentials, a host, unless it is empty, and a port. -/
structure Authority where
  credentials : Option Credentials
  host : Option Host
  port : Option Nat
  deriving DecidableEq, Repr

/-- Whether a character is percent encoded in credentials. -/
def inCredentialsSet (c : Char) : Bool :=
  inPathSet c || c ∈ ['/', ':', ';', '=', '@', '[', '\\', ']', '^', '|']

/-- A host text and what follows the colon behind it, if there is one. A colon between brackets is
part of the host. -/
def cutPort (isInside : Bool) : List Char → List Char × Option (List Char)
  | [] => ([], none)
  | c :: rest =>
    if c = ':' ∧ !isInside then ([], some rest)
    else
      let (host, port) := cutPort (c == '[' || (isInside && c != ']')) rest
      (c :: host, port)

/-- The port that a text starts with, and what follows it: nothing, or a backslash and more. The
usual port is none at all. -/
def readPort (scheme : String) (text : List Char) : Option (Option Nat × List Char) := do
  let digits := text.takeWhile Char.isDigit
  let behind := text.dropWhile Char.isDigit
  let port ← Text.numberIn? 10 digits
  if 65535 < port ∨ behind.head?.any (· != '\\') then none
  else if digits = [] ∨ usualPort? scheme = some port then return (none, behind)
  else return (some port, behind)

/-- The credentials that a text gives, unless they are empty. -/
def readCredentials (text : List Char) : Option Credentials :=
  let (user, password) := Text.cutAt ':' text
  if user = [] ∧ password.getD [] = [] then none
  else some ⟨percentEncode inCredentialsSet user,
    percentEncode inCredentialsSet (password.getD [])⟩

/-- The credentials before the last sign of them, and what follows it. -/
def cutCredentials (text : List Char) : Option Credentials × List Char :=
  if text.contains '@' then
    let place := (text.reverse.takeWhile (· != '@')).reverse
    (readCredentials (text.take (text.length - place.length - 1)), place)
  else (none, text)

/-- The authority that a text starts with, and what follows it: nothing, or a backslash and more.
`isCut` says whether the URL goes on after the text. -/
def readAuthority (scheme : String) (text : List Char) (isCut : Bool) :
    Option (Authority × List Char) := do
  let kind := SchemeKind.ofScheme scheme
  let (credentials, place) := cutCredentials text
  if text = ['@'] ∧ isCut then none
  let (hostText, portText) := cutPort false place
  if hostText = [] then
    if kind = .web ∨ portText.isSome ∨ credentials.isSome then none
    else return (⟨none, none, none⟩, [])
  else
    let host ← if kind = .web then Host.parse hostText else Host.parseOpaque hostText
    let (port, behind) ← readPort scheme (portText.getD [])
    return (⟨credentials, some host, port⟩, behind)

/-- Whether the user of credentials reads as text, and there is a user or the password does too. -/
def Credentials.isReadable (credentials : Credentials) : Bool :=
  (percentDecode? credentials.user).isSome &&
    (credentials.user ≠ [] || (percentDecode? credentials.password).isSome)

/-- The text of credentials and the sign behind them. -/
def Credentials.chars (credentials : Credentials) : List Char :=
  let password := if credentials.password = [] then [] else ':' :: credentials.password
  credentials.user ++ password ++ ['@']

def Authority.chars (authority : Authority) : List Char :=
  '/' :: '/' :: (authority.credentials.map Credentials.chars).getD [] ++
    (authority.host.map Host.chars).getD [] ++
    (authority.port.map fun port => ':' :: Nat.toDigits 10 port).getD []

end ClientGen.Http
