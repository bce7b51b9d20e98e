/-!
Schemes of URLs: the rules that a URL follows, its usual port and what separates its segments.
-/
namespace ClientGen.Http

/-- Schemes with rules of their own. -/
inductive SchemeKind where
  | web
  | file
  | other
  deriving DecidableEq, Repr

def usualPort? (scheme : String) : Option Nat :=
  if scheme = "http" ∨ scheme = "ws" then some 80
  else if scheme = "https" ∨ scheme = "wss" then some 443
  else if scheme = "ftp" then some 21
  else none

/-- The rules that a scheme follows. -/
def SchemeKind.ofScheme (scheme : String) : SchemeKind :=
  if (usualPort? scheme).isSome then .web else if scheme = "file" then .file else .other

/-- Whether a character separates the segments of a path. -/
def SchemeKind.isSlash (kind : SchemeKind) (c : Char) : Bool :=
  c == '/' || (kind != .other && c == '\\')

/-- Whether a character may stand in a scheme behind its first letter. -/
def isSchemeChar (c : Char) : Bool := c.isAlphanum || c == '+' || c == '-' || c == '.'

end ClientGen.Http
