import ClientGen.Json.Scalar
import ClientGen.Json.Value
import ClientGen.Ordered

/-!
Reading JSON text. Lists and objects are read by functions that take the reader of an item or of a
member's value, so that a reader of values and a reader of typed records walk over the same
punctuation and report the same faults.
-/
namespace ClientGen.Json

/-- How deep lists and objects may nest. -/
def maxDepth : Nat := 127

/-- Go to the next item of a list, or to the closing bracket. -/
def nextItem (isFirst : Bool) (c : Cursor) : Except Fault (Bool × Cursor) :=
  let c := c.skipSpace
  match c.peek? with
  | none => c.ahead .endInList
  | some ']' => .ok (false, c)
  | some char =>
    if isFirst then .ok (true, c)
    else if char = ',' then
      let c := c.next.skipSpace
      match c.peek? with
      | none => c.ahead .endInValue
      | some ']' => c.ahead .trailingComma
      | some _ => .ok (true, c)
    else c.ahead .expectedListEnd

/-- Go past the opening quote of the next member's name, or to the closing brace. -/
def nextName (isFirst : Bool) (c : Cursor) : Except Fault (Bool × Cursor) :=
  let c := c.skipSpace
  match c.peek? with
  | none => c.ahead .endInObject
  | some '\x7d' => .ok (false, c)
  | some char =>
    if isFirst then
      if char = '"' then .ok (true, c.next) else c.ahead .nameNotString
    else if char = ',' then
      let c := c.next.skipSpace
      match c.peek? with
      | none => c.ahead .endInValue
      | some '"' => .ok (true, c.next)
      | some '\x7d' => c.ahead .trailingComma
      | some _ => c.ahead .nameNotString
    else c.ahead .expectedObjectEnd

/-- Read the colon after a member's name. -/
def readColon (c : Cursor) : Except Fault Cursor :=
  let c := c.skipSpace
  match c.peek? with
  | none => c.ahead .endInObject
  | some ':' => .ok c.next
  | some _ => c.ahead .expectedColon

/-- Read the items of a list, up to its closing bracket and past it; `fuel` bounds their number. -/
def readItemsFrom (item : Cursor → Except Fault (α × Cursor)) :
    Nat → Bool → List α → Cursor → Except Fault (List α × Cursor)
  | 0, _, _, c => c.here .endInList
  | fuel + 1, isFirst, read, c => do
    let (more, c) ← nextItem isFirst c
    if more then
      let (value, c) ← item c
      readItemsFrom item fuel false (value :: read) c
    else .ok (read.reverse, c.next)

/-- Read the items of a list after its opening bracket. -/
def readItems (item : Cursor → Except Fault (α × Cursor)) (c : Cursor) :
    Except Fault (List α × Cursor) :=
  readItemsFrom item (c.rest.length + 1) true [] c

/-- Read the members of an object one after the other, and past its closing brace. A member is
taken into the state by its name and the cursor after the name; `fuel` bounds their number. -/
def foldMembersFrom (member : σ → String → Cursor → Except ε (σ × Cursor)) (fault : Fault → ε) :
    Nat → Bool → σ → Cursor → Except ε (σ × Cursor)
  | 0, _, _, c => .error (fault ⟨.endInObject, c.position⟩)
  | fuel + 1, isFirst, state, c => do
    let (more, c) ← (nextName isFirst c).mapError fault
    if more then
      let (name, c) ← (readString c).mapError fault
      let (state, c) ← member state name c
      foldMembersFrom member fault fuel false state c
    else .ok (state, c.next)

/-- Read the members of an object after its opening brace. -/
def foldMembers (member : σ → String → Cursor → Except ε (σ × Cursor)) (fault : Fault → ε)
    (state : σ) (c : Cursor) : Except ε (σ × Cursor) :=
  foldMembersFrom member fault (c.rest.length + 1) true state c

def readMember (value : Cursor → Except Fault (Value × Cursor))
    (members : List (String × Value)) (name : String) (c : Cursor) :
    Except Fault (List (String × Value) × Cursor) := do
  let c ← readColon c
  let (v, c) ← value c
  return (Ordered.insert name v members, c)

/-- Read a value that opens no list or object. -/
def readScalar (c : Cursor) : Except Fault (Value × Cursor) :=
  match c.peek? with
  | none => c.ahead .endInValue
  | some 'n' => return (.null, ← readWord ['u', 'l', 'l'] c.next)
  | some 't' => return (.boolean true, ← readWord ['r', 'u', 'e'] c.next)
  | some 'f' => return (.boolean false, ← readWord ['a', 'l', 's', 'e'] c.next)
  | some '"' => do
    let (s, c) ← readString c.next
    return (.string s, c)
  | some char =>
    if char = '-' ∨ char.isDigit then do
      let (n, c) ← readNumber c
      return (.number n, c)
    else c.ahead .expectedValue

/-- Read a value in which lists and objects nest at most `depth` deep. -/
def readValue : Nat → Cursor → Except Fault (Value × Cursor)
  | depth, c =>
    let c := c.skipSpace
    match c.peek?, depth with
    | some '[', 0 => c.ahead .tooDeep
    | some '[', depth + 1 => do
      let (items, c) ← readItems (readValue depth) c.next
      return (.array items, c)
    | some '\x7b', 0 => c.ahead .tooDeep
    | some '\x7b', depth + 1 => do
      let (members, c) ← foldMembers (readMember (readValue depth)) id [] c.next
      return (.object members, c)
    | _, _ => readScalar c

/-- Nothing but blanks may follow. -/
def readEnd (c : Cursor) : Except Fault Unit :=
  let c := c.skipSpace
  if c.rest = [] then .ok () else c.ahead .trailingCharacters

def parse (text : String) : Except Fault Value := do
  let (value, c) ← readValue maxDepth (.ofText text)
  readEnd c
  return value

end ClientGen.Json
