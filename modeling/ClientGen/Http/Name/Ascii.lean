import ClientGen.Http.Name.Label
import ClientGen.Text.Split

/-!
Host names in ASCII. Every host name has one ASCII form, which is the one that is looked up.
-/
namespace ClientGen.Http

/-- Whether a character can stand in no host. -/
def isForbidden (c : Char) : Bool :=
  c ∈ ['\x00', '\t', '\n', '\r', ' ', '#', '/', ':', '<', '>', '?', '@', '[', '\\', ']', '^', '|']

/-- Whether a character can stand in no name. -/
def isForbiddenInName (c : Char) : Bool :=
  isForbidden c || c.toNat < 0x20 || c == '%' || c == '\x7f'

/-- The labels of a name, each beyond ASCII if it can be. -/
def nameLabels? (name : List Char) : Option (List (List Char)) := do
  let mapped := Text.compose (← name.mapM mapInName?).flatten
  if mapped.any isForbiddenInName then none
  (Text.split (· == '.') mapped).mapM readLabel?

/-- Whether labels make up a name. -/
def areLabels (labels : List (List Char)) : Bool :=
  labels.all isLabel &&
    (!labels.any isRightToLeft || labels.all fun label => keepsDirection (label.map .ofChar))

def asciiName? (name : List Char) : Option (List Char) := do
  let labels ← nameLabels? name
  if areLabels labels then return List.intercalate ['.'] (labels.map labelChars) else none

end ClientGen.Http
