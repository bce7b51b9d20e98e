import ClientGen.Ordered
import ClientGen.Toml.Value

/-!
Building tables. Keys of several parts make the tables on their way. A table can be opened once by a
header, a table made by dotted keys takes further dotted keys only from the section that made it, and
a value never changes; whatever breaks these rules has no table.
-/
namespace ClientGen.Toml

/-- How a table has come to be. -/
inductive Origin where
  /-- Opened by a header, or the table of a whole document or value. -/
  | opened
  /-- On the way of a header. -/
  | header
  /-- On the way of a dotted key. -/
  | dotted
  deriving DecidableEq, Repr

/-- A table that may still grow. -/
inductive Node where
  | leaf (value : Value)
  | table (origin : Origin) (entries : List (String × Node))
  /-- Tables under one name; the last one may still grow. -/
  | series (tables : List (List (String × Node)))

abbrev Entries := List (String × Node)

/-- A key and its value. -/
structure Pair where
  key : List String
  value : Value

/-- Change the table at the end of a path. Tables that are missing on the way are made; of a series
the last table is entered. A dotted path enters no table that a header has opened. -/
def alter (via : Origin) (change : Origin → Entries → Option Entries) :
    List String → Origin → Entries → Option Entries
  | [], origin, entries => change origin entries
  | part :: rest, _, entries =>
    match entries.lookup part with
    | none => do
      let inner ← alter via change rest via []
      return Ordered.insert part (.table via inner) entries
    | some (.leaf _) => none
    | some (.table origin inner) =>
      if via = .dotted ∧ origin = .opened then none
      else do
        let inner ← alter via change rest origin inner
        return Ordered.insert part (.table origin inner) entries
    | some (.series tables) => do
      let inner ← alter via change rest .opened (← tables.getLast?)
      return Ordered.insert part (.series (tables.dropLast ++ [inner])) entries

/-- Give a key its value in a table. The table that holds the last part of a dotted key must itself
be made by dotted keys. -/
def addPair (entries : Entries) (pair : Pair) : Option Entries := do
  let last ← pair.key.getLast?
  let outer := pair.key.dropLast
  alter .dotted (fun origin entries =>
    if (origin == .dotted) == outer.isEmpty || Ordered.contains last entries then none
    else some (Ordered.insert last (.leaf pair.value) entries)) outer .opened entries

/-- Give keys their values in a table, one after the other. -/
def addPairs (entries : Entries) (pairs : List Pair) : Option Entries := pairs.foldlM addPair entries

/-- A header and the pairs below it. -/
structure Section where
  key : List String
  /-- Whether the header adds a table to a series. -/
  isSeries : Bool
  pairs : List Pair

/-- Open the table of a section. A table that was only on the way of headers so far moves to the end
of its table. -/
def openTable (name : String) (pairs : List Pair) (entries : Entries) : Option Entries :=
  match entries.lookup name with
  | none => return Ordered.insert name (.table .opened (← addPairs [] pairs)) entries
  | some (.table .header inner) => do
    let table ← addPairs inner pairs
    return Ordered.insert name (.table .opened table) (Ordered.erase name entries)
  | some _ => none

/-- Add the table of a section to its series. -/
def extendSeries (name : String) (pairs : List Pair) (entries : Entries) : Option Entries := do
  let table ← addPairs [] pairs
  match entries.lookup name with
  | none => return Ordered.insert name (.series [table]) entries
  | some (.series tables) => return Ordered.insert name (.series (tables ++ [table])) entries
  | some _ => none

def addSection (entries : Entries) (part : Section) : Option Entries := do
  let name ← part.key.getLast?
  let change := if part.isSeries then extendSeries name part.pairs else openTable name part.pairs
  alter .header (fun _ entries => change entries) part.key.dropLast .opened entries

mutual
def Node.value : Node → Value
  | .leaf value => value
  | .table _ entries => .table (entryValues entries)
  | .series tables => .array (tableValues tables)
def entryValues : List (String × Node) → List (String × Value)
  | [] => []
  | entry :: rest => entryValue entry :: entryValues rest
def entryValue : String × Node → String × Value
  | (name, node) => (name, node.value)
/-- The values of finished tables. -/
def tableValues : List (List (String × Node)) → List Value
  | [] => []
  | entries :: rest => .table (entryValues entries) :: tableValues rest
end

def tableOf (pairs : List Pair) : Option Value := do
  return .table (entryValues (← addPairs [] pairs))

end ClientGen.Toml
