import ClientGen.Toml.Moment
import ClientGen.Toml.Table

/-!
Reading TOML documents: pairs of a key and a value, one a line, below headers that open tables. A
text that breaks a rule anywhere is no document.
-/
namespace ClientGen.Toml

/-- Read the items of an array after its opening bracket, and past its closing one; `fuel` bounds
their number. A comma may follow the last item. -/
def readItemsFrom (item : List Char → Option (Value × List Char)) :
    Nat → List Char → Option (List Value × List Char)
  | 0, _ => none
  | fuel + 1, cs =>
    match skipFiller cs with
    | ']' :: rest => some ([], rest)
    | cs => do
      let (value, rest) ← item cs
      match skipFiller rest with
      | ',' :: rest => do
        let (values, rest) ← readItemsFrom item fuel rest
        return (value :: values, rest)
      | ']' :: rest => return ([value], rest)
      | _ => none

def readPair (value : List Char → Option (Value × List Char)) (cs : List Char) :
    Option (Pair × List Char) := do
  let (key, rest) ← readKey cs
  let (v, rest) ← value (skipBlanks (← readChar '=' rest))
  return (⟨key, v⟩, rest)

/-- Read the pairs of a table on one line behind the first one, and past its closing brace; `fuel`
bounds their number. -/
def readMorePairsFrom (value : List Char → Option (Value × List Char)) :
    Nat → List Char → Option (List Pair × List Char)
  | 0, _ => none
  | fuel + 1, cs =>
    match skipBlanks cs with
    | '\x7d' :: rest => some ([], rest)
    | ',' :: rest => do
      let (pair, rest) ← readPair value rest
      let (pairs, rest) ← readMorePairsFrom value fuel rest
      return (pair :: pairs, rest)
    | _ => none

/-- Read the pairs of a table on one line after its opening brace, and past its closing one. -/
def readPairs (value : List Char → Option (Value × List Char)) (cs : List Char) :
    Option (List Pair × List Char) :=
  match skipBlanks cs with
  | '\x7d' :: rest => some ([], rest)
  | _ => do
    let (pair, rest) ← readPair value cs
    let (pairs, rest) ← readMorePairsFrom value (cs.length + 1) rest
    return (pair :: pairs, rest)

/-- Read a value that holds no others. -/
def readSimple (cs : List Char) : Option (Value × List Char) :=
  match cs with
  | 't' :: 'r' :: 'u' :: 'e' :: rest => some (.boolean true, rest)
  | 'f' :: 'a' :: 'l' :: 's' :: 'e' :: rest => some (.boolean false, rest)
  | _ =>
    match readText cs with
    | some (text, rest) => some (.string (String.ofList text), rest)
    | none => (readMoment cs).orElse fun _ => readNumber cs

/-- Read a value in which arrays and tables nest at most `depth` deep. -/
def readValue : Nat → List Char → Option (Value × List Char)
  | 0, cs => if cs.head? = some '[' ∨ cs.head? = some '\x7b' then none else readSimple cs
  | depth + 1, '[' :: rest => do
    let (items, rest) ← readItemsFrom (readValue depth) (rest.length + 1) rest
    return (.array items, rest)
  | depth + 1, '\x7b' :: rest => do
    let (pairs, rest) ← readPairs (readValue depth) rest
    return (← tableOf pairs, rest)
  | _ + 1, cs => readSimple cs

/-- A line that is not empty. -/
inductive Statement where
  | pair (pair : Pair)
  | header (key : List String) (isSeries : Bool)

/-- Read a header or a pair, and the rest of its line. -/
def readStatement (cs : List Char) : Option (Statement × List Char) :=
  match cs with
  | '[' :: '[' :: rest => do
    let (key, rest) ← readKey rest
    return (.header key true, ← readLineEnd (← readChar ']' (← readChar ']' rest)))
  | '[' :: rest => do
    let (key, rest) ← readKey rest
    return (.header key false, ← readLineEnd (← readChar ']' rest))
  | _ => do
    let (pair, rest) ← readPair (readValue maxDepth) cs
    return (.pair pair, ← readLineEnd rest)

/-- Read all statements; `fuel` bounds the number of lines. -/
def readStatementsFrom : Nat → List Char → Option (List Statement)
  | 0, _ => none
  | fuel + 1, cs =>
    match skipBlanks cs with
    | [] => some []
    | cs =>
      match readLineEnd cs with
      | some rest => readStatementsFrom fuel rest
      | none => do
        let (statement, rest) ← readStatement cs
        return statement :: (← readStatementsFrom fuel rest)

/-- The pairs before the first header, and the sections. -/
def sections : List Statement → List Pair × List Section
  | [] => ([], [])
  | .pair pair :: rest =>
    let (pairs, others) := sections rest
    (pair :: pairs, others)
  | .header key isSeries :: rest =>
    let (pairs, others) := sections rest
    ([], ⟨key, isSeries, pairs⟩ :: others)

/-- A text without the mark that may tell its encoding at its start. -/
def withoutMark : List Char → List Char
  | '\ufeff' :: rest => rest
  | cs => cs

/-- The entries of the document that a text gives, or none if it is no document. -/
def parse (text : String) : Option (List (String × Value)) := do
  let chars := withoutMark text.toList
  let (pairs, others) := sections (← readStatementsFrom (chars.length + 1) chars)
  return entryValues (← others.foldlM addSection (← addPairs [] pairs))

end ClientGen.Toml
