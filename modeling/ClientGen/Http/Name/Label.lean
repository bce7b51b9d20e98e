import ClientGen.Http.Name.Direction
import ClientGen.Http.Name.Joining
import ClientGen.Http.Name.Punycode

/-!
Labels: the parts of a host name between its dots. A label beyond ASCII has an ASCII form, its
Punycode behind a mark; both forms name the same host.
-/
namespace ClientGen.Http

/-- What the ASCII form of a label beyond ASCII starts with. -/
def encodedMark : List Char := ['x', 'n', '-', '-']

/-- The longest label beyond ASCII. -/
def maxWideLabel : Nat := 1000

/-- The longest Punycode of a label. -/
def maxPunycode : Nat := 2000

def isAscii (label : List Char) : Bool := label.all Punycode.isBasic

/-- Whether a text is what becomes of it in a name. -/
def isSettled (text : List Char) : Bool :=
  text.all (fun c => mapInName? c == some [c]) && Text.compose text == text

/-- The label that its ASCII form stands for; any other label stands for itself. -/
def readLabel? (label : List Char) : Option (List Char) :=
  if !encodedMark.isPrefixOf label then some label
  else
    let encoded := label.drop encodedMark.length
    if !isAscii encoded || encoded = [] || encoded.getLast? = some '-' ||
        maxPunycode < encoded.length then none
    else (Punycode.decode? encoded).filter isSettled

/-- Whether a label can stand in a name, directions of writing aside. -/
def isLabel (label : List Char) : Bool :=
  isAscii label ||
    (!label.head?.any Text.isMark && joinersFit [] label && label.length ≤ maxWideLabel)

/-- The ASCII form of a label. -/
def labelChars (label : List Char) : List Char :=
  if isAscii label then label else encodedMark ++ Punycode.encode label

end ClientGen.Http
