import ClientGen.Files.FilePath

/-!
Settings of a run. A document gives them as named fields, in any order; what has been given so far
is a draft, and a draft with all that must be there becomes a configuration.
-/
namespace ClientGen
open Files

structure Config where
  /-- Where the operations are served. -/
  introspectionUrl : Option String
  /-- The base URL that the generated client starts with. -/
  baseUrl : Option String
  outputDir : FilePath
  outputFile : String
  /-- Where the operations are stored; read instead of asking the service. -/
  introspectionFile : Option FilePath
  /-- What is sent along when the service is asked. -/
  headers : List (String × String)
  deriving DecidableEq, Repr

namespace Config

/-- Where the generated module goes. -/
def outputPath (config : Config) : FilePath := config.outputDir.join ⟨config.outputFile⟩

inductive Field where
  | introspectionUrl
  | baseUrl
  | outputDir
  | outputFile
  | introspectionFile
  | headers
  deriving DecidableEq, Repr

namespace Field

/-- Every field, in the order in which they can be listed without names. -/
def all : List Field :=
  [.introspectionUrl, .baseUrl, .outputDir, .outputFile, .introspectionFile, .headers]

def name : Field → String
  | .introspectionUrl => "introspectionUrl"
  | .baseUrl => "baseUrl"
  | .outputDir => "outputDir"
  | .outputFile => "outputFile"
  | .introspectionFile => "introspectionFile"
  | .headers => "headers"

/-- The other spelling of a field's name, with underscores between its words. -/
def snakeName : Field → String
  | .introspectionUrl => "introspection_url"
  | .baseUrl => "base_url"
  | .outputDir => "output_dir"
  | .outputFile => "output_file"
  | .introspectionFile => "introspection_file"
  | .headers => "headers"

/-- The field that a text names in either spelling. -/
def ofName? (text : String) : Option Field :=
  all.find? fun field => field.name == text || field.snakeName == text

/-- What the value of a field is, in the words of a message. -/
def expected : Field → String
  | .outputDir | .introspectionFile => "path string"
  | .headers => "a map"
  | _ => "a string"

/-- The values of a field. -/
abbrev Value : Field → Type
  | .introspectionUrl | .baseUrl | .introspectionFile => Option String
  | .outputDir | .outputFile => String
  | .headers => List (String × String)

end Field

/-- What stands where something else should. -/
inductive Found where
  | null
  | boolean (b : Bool)
  | integer (text : String)
  | float (text : String)
  | string (text : String)
  | sequence
  | map
  deriving DecidableEq, Repr

/-- What can be wrong with the fields of a document. -/
inductive FieldFault where
  | missing (field : Field)
  | repeated (field : Field)
  | wrongType (found : Found) (expected : String)
  /-- A list that ends before a field that must be there. -/
  | tooShort (count : Nat)
  deriving DecidableEq, Repr

/-- The fields given so far. -/
def Draft : Type := (field : Field) → Option field.Value

namespace Draft

/-- Nothing given. -/
def empty : Draft := fun _ => none

def put (draft : Draft) (field : Field) (value : field.Value) : Draft := fun other =>
  if same : field = other then some (same ▸ value) else draft other

/-- The configuration that a draft gives. -/
def complete (draft : Draft) : Except FieldFault Config :=
  match draft .outputDir, draft .outputFile with
  | none, _ => .error (.missing .outputDir)
  | some _, none => .error (.missing .outputFile)
  | some outputDir, some outputFile => .ok {
      introspectionUrl := (draft .introspectionUrl).join
      baseUrl := (draft .baseUrl).join
      outputDir := ⟨outputDir⟩
      outputFile := outputFile
      introspectionFile := (draft .introspectionFile).join.map FilePath.mk
      headers := (draft .headers).getD [] }

@[simp] theorem put_self (draft : Draft) (field : Field) (value : field.Value) :
    draft.put field value field = some value := by simp [put]

@[simp] theorem put_of_ne (draft : Draft) {field other : Field} (value : field.Value)
    (different : other ≠ field) : draft.put field value other = draft other := by
  simp [put, Ne.symm different]

end Draft

end Config

end ClientGen
