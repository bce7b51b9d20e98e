import ClientGen.Http.Url

/-!
Requests: a URL and headers. A request is sent only if its URL has a host, its headers are well
formed and its scheme is one of the web; the first of these that fails is what is reported.
-/
namespace ClientGen.Http

/-- Why a request got no answer. -/
inductive SendFault where
  /-- A URL that is none, or a header that is none. -/
  | malformed
  /-- A URL that nothing can be asked from. -/
  | unsupported (url : Url)
  /-- A service that could not be reached. -/
  | unreachable (url : Url)
  deriving DecidableEq, Repr

def SendFault.message : SendFault → String
  | .malformed => "builder error"
  | .unsupported url => "builder error for url (" ++ url.text ++ ")"
  | .unreachable url => "error sending request for url (" ++ url.text ++ ")"

/-- Whether a character can stand in the name of a header. -/
def isTokenChar (c : Char) : Bool :=
  c.isAlphanum || "!#$%&'*+-.^_\x60|~".toList.contains c

def isHeaderName (name : String) : Bool := name ≠ "" && name.toList.all isTokenChar

def isHeaderValue (value : String) : Bool :=
  value.toList.all fun c => c == '\t' || (0x20 ≤ c.toNat && c.toNat != 0x7F)

def maxUrlBytes : Nat := 65534

/-- Whether a host can be asked: its name needs no characters that requests cannot carry. -/
def isPlainHost : Host → Bool
  | .name text => text.toList.all fun c => !(c ∈ ['"', '\x60', '\x7b', '\x7d'])
  | _ => true

/-- Whether a URL can be asked. -/
def isSendable (url : Url) : Bool :=
  (url.scheme == "http" || url.scheme == "https") && url.host?.any isPlainHost &&
    url.text.utf8ByteSize ≤ maxUrlBytes

/-- The URL of a request that can be sent. Credentials that can be read go into the headers. -/
def check (url : String) (headers : List (String × String)) : Except SendFault Url :=
  match (Url.parse url).map Url.withoutCredentials with
  | none => .error .malformed
  | some parsed =>
    if parsed.host?.isNone then .error (.unsupported parsed)
    else if !headers.all fun header => isHeaderName header.1 && isHeaderValue header.2 then
      .error .malformed
    else if !isSendable parsed then .error (.unsupported parsed)
    else .ok parsed

/-- The answer to a request where no service can be reached. -/
def offline (url : String) (headers : List (String × String)) : Except String String :=
  match check url headers with
  | .error fault => .error fault.message
  | .ok url => .error (SendFault.unreachable url).message

end ClientGen.Http
