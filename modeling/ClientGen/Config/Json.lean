import ClientGen.Config.Fault
import ClientGen.Json.Reader
import ClientGen.Json.Skip

/-!
Reading settings from JSON text. The fields stand in an object under either of their names, or in a
list in their order. Members that name no field are passed over. A fault in the fields is reported
where reading has got to, which for a field too many is past the blanks after its name and for a
field too few is past the end of the object.
-/
namespace ClientGen.Config
open Json (Cursor)

def reading (step : Except Json.Fault α) : Except Fault α := step.mapError .json

/-- What stands at a cursor, and the cursor past it; lists and objects are not entered. -/
def readFound (c : Cursor) : Except Json.Fault (Found × Cursor) :=
  match c.peek? with
  | some '[' => .ok (.sequence, c)
  | some '\x7b' => .ok (.map, c)
  | _ => do
    let (value, c) ← Json.readScalar c
    let found :=
      match value with
      | .boolean b => .boolean b
      | .number (.double isNegative magnitude) =>
        .float (Json.Number.double isNegative magnitude).text
      | .number n => .integer n.text
      | .string s => .string s
      | _ => .null
    return (found, c)

/-- Report that something else should stand at a cursor. -/
def refuse (expected : String) (c : Cursor) : Except Fault α := do
  let (found, c) ← reading (readFound c)
  .error (.jsonField (.wrongType found expected) c.position)

def readText (expected : String) (c : Cursor) : Except Fault (String × Cursor) :=
  let c := c.skipSpace
  if c.peek? = some '"' then reading (Json.readString c.next) else refuse expected c

/-- Read a text or the word for its absence. -/
def readOptionalText (expected : String) (c : Cursor) : Except Fault (Option String × Cursor) := do
  let c := c.skipSpace
  if c.peek? = some 'n' then
    return (none, ← reading (Json.readWord ['u', 'l', 'l'] c.next))
  else
    let (text, c) ← readText expected c
    return (some text, c)

/-- Read a header and put it among the others. -/
def readHeader (headers : List (String × String)) (name : String) (c : Cursor) :
    Except Fault (List (String × String) × Cursor) := do
  let c ← reading (Json.readColon c)
  let (value, c) ← readText "a string" c
  return (Ordered.insert name value headers, c)

def readHeaders (c : Cursor) : Except Fault (List (String × String) × Cursor) :=
  let c := c.skipSpace
  if c.peek? = some '\x7b' then Json.foldMembers readHeader .json [] c.next
  else refuse Field.headers.expected c

def readField (field : Field) (c : Cursor) : Except Fault (field.Value × Cursor) :=
  match field with
  | .introspectionUrl => readOptionalText Field.introspectionUrl.expected c
  | .baseUrl => readOptionalText Field.baseUrl.expected c
  | .introspectionFile => readOptionalText Field.introspectionFile.expected c
  | .outputDir => readText Field.outputDir.expected c
  | .outputFile => readText Field.outputFile.expected c
  | .headers => readHeaders c

/-- Where a repeated field is reported, given the cursor after its name. -/
def repeatedPosition (c : Cursor) : Json.Position :=
  let c := c.skipSpace
  if c.peek? = some '\x7d' then c.next.position else c.position

/-- Read a member of the object that holds the fields. -/
def readMember (draft : Draft) (name : String) (c : Cursor) : Except Fault (Draft × Cursor) :=
  match Field.ofName? name with
  | none => do
    let c ← reading (Json.readColon c)
    return (draft, ← reading (Json.skipValue c))
  | some field =>
    if (draft field).isSome then .error (.jsonField (.repeated field) (repeatedPosition c))
    else do
      let c ← reading (Json.readColon c)
      let (value, c) ← readField field c
      return (draft.put field value, c)

def readListEnd (c : Cursor) : Except Json.Fault Cursor :=
  let c := c.skipSpace
  match c.peek? with
  | none => c.ahead .endInList
  | some ']' => .ok c.next
  | some ',' =>
    let c := c.next.skipSpace
    if c.peek? = some ']' then c.ahead .trailingComma else c.ahead .trailingCharacters
  | some _ => c.ahead .trailingCharacters

def Field.isRequired : Field → Bool
  | .outputDir | .outputFile => true
  | _ => false

/-- Read the fields listed from `index`, up to the end of the list and past it. -/
def readListed (isFirst : Bool) (index : Nat) (draft : Draft) :
    List Field → Cursor → Except Fault (Draft × Cursor)
  | [], c => return (draft, ← reading (readListEnd c))
  | field :: rest, c => do
    let (more, c) ← reading (Json.nextItem isFirst c)
    if more then
      let (value, c) ← readField field c
      readListed false (index + 1) (draft.put field value) rest c
    else
      match (field :: rest).findIdx? Field.isRequired with
      | some later => .error (.jsonField (.tooShort (index + later)) c.next.position)
      | none => return (draft, c.next)

def readDocument (c : Cursor) : Except Fault (Draft × Cursor) :=
  let c := c.skipSpace
  match c.peek? with
  | none => reading (c.ahead .endInValue)
  | some '\x7b' => Json.foldMembers readMember .json .empty c.next
  | some '[' => readListed true 0 .empty Field.all c.next
  | some _ => refuse expectedDocument c

def ofJsonText (text : String) : Except Fault Config := do
  let (draft, c) ← readDocument (.ofText text)
  let config ← draft.complete.mapError (.jsonField · c.position)
  reading (Json.readEnd c)
  return config

end ClientGen.Config
