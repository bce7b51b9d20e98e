import ClientGen.Text.CaseTable

/-!
Upper and lower case of a single character. The case of one character can be several characters:
the upper case of `ß` is `SS`. No mapping depends on the characters around.
-/
namespace ClientGen.Text

/-- A character under a case mapping; a character that no table names is kept. -/
def mapCase (runs : List Shift) (expansions : List (Nat × List Nat)) (c : Char) : List Char :=
  match expansions.lookup c.toNat with
  | some codes => codes.map Char.ofNat
  | none =>
    match runs.findSome? (·.move? c.toNat) with
    | some code => [Char.ofNat code]
    | none => [c]

def upperCase (c : Char) : List Char := mapCase upperShifts upperExpansions c

def lowerCase (c : Char) : List Char := mapCase lowerShifts lowerExpansions c

def upperFirst : List Char → List Char
  | [] => []
  | c :: rest => upperCase c ++ rest

def lowerFirst : List Char → List Char
  | [] => []
  | c :: rest => lowerCase c ++ rest

end ClientGen.Text
