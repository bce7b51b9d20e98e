import ClientGen.Config.Fault
import ClientGen.Toml.Document

/-!
Reading settings from TOML text. The entries of the document are its fields under either of their
names, taken in their order; entries that name no field are passed over.
-/
namespace ClientGen.Config

/-- What a TOML value is, in the words of a message. -/
def foundOfToml : Toml.Value → Found
  | .string text => .string text
  | .integer n => .integer (toString n)
  | .real x => .float x.text
  | .boolean b => .boolean b
  | .moment _ => .map
  | .array _ => .sequence
  | .table _ => .map

def textOfToml (expected : String) : Toml.Value → Except FieldFault String
  | .string text => .ok text
  | other => .error (.wrongType (foundOfToml other) expected)

/-- The name of the only entry of a date or a time that stands for a table. -/
def momentEntry : String := "$__toml_private_datetime"

/-- Headers, from the entries of a table. -/
def headersOfEntries : List (String × Toml.Value) → Except FieldFault (List (String × String))
  | [] => return []
  | (name, value) :: rest => do
    let text ← textOfToml "a string" value
    return (name, text) :: (← headersOfEntries rest)

/-- Headers. A date or a time counts as a table that holds its text. -/
def headersOfToml : Toml.Value → Except FieldFault (List (String × String))
  | .table entries => headersOfEntries entries
  | .moment text => return [(momentEntry, text)]
  | other => .error (.wrongType (foundOfToml other) Field.headers.expected)

def fieldOfToml (field : Field) (value : Toml.Value) : Except FieldFault field.Value :=
  match field with
  | .introspectionUrl => some <$> textOfToml Field.introspectionUrl.expected value
  | .baseUrl => some <$> textOfToml Field.baseUrl.expected value
  | .introspectionFile => some <$> textOfToml Field.introspectionFile.expected value
  | .outputDir => textOfToml Field.outputDir.expected value
  | .outputFile => textOfToml Field.outputFile.expected value
  | .headers => headersOfToml value

def takeEntry (draft : Draft) (entry : String × Toml.Value) : Except FieldFault Draft :=
  match Field.ofName? entry.1 with
  | none => .ok draft
  | some field =>
    if (draft field).isSome then .error (.repeated field)
    else do
      let value ← fieldOfToml field entry.2
      return draft.put field value

def ofTomlText (text : String) : Except Fault Config :=
  match Toml.parse text with
  | none => .error .toml
  | some entries => (do (← entries.foldlM takeEntry .empty).complete).mapError .tomlField

end ClientGen.Config
