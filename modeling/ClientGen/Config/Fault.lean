import ClientGen.Config.Basic
import ClientGen.Json.Cursor
import ClientGen.Text.Quoted

/-!
What can be wrong with a configuration, and the words for it.
-/
namespace ClientGen.Config
open Files

/-- The words for what stands where something else should. -/
def Found.message : Found → String
  | .null => "null"
  | .boolean b => "boolean `" ++ (if b then "true" else "false") ++ "`"
  | .integer text => "integer `" ++ text ++ "`"
  | .float text => "floating point `" ++ text ++ "`"
  | .string text => "string " ++ Text.quoted text
  | .sequence => "sequence"
  | .map => "map"

/-- The words for what should be there where a document starts. -/
def expectedDocument : String := "struct GeneratorConfig"

def FieldFault.message : FieldFault → String
  | .missing field => "missing field `" ++ field.name ++ "`"
  | .repeated field => "duplicate field `" ++ field.name ++ "`"
  | .wrongType found expected => "invalid type: " ++ found.message ++ ", expected " ++ expected
  | .tooShort count =>
    "invalid length " ++ toString count ++ ", expected " ++ expectedDocument ++ " with " ++
      toString Field.all.length ++ " elements"

/-- The names under which a configuration is looked for, the first one first. -/
def fileNames : List String := ["routegen.config.json", "routegen.toml"]

inductive Fault where
  /-- A text that is no JSON. -/
  | json (fault : Json.Fault)
  /-- A JSON document with a fault in its fields. -/
  | jsonField (fault : FieldFault) (position : Json.Position)
  /-- A text that is no TOML. -/
  | toml
  /-- A TOML document with a fault in its fields. -/
  | tomlField (fault : FieldFault)
  /-- Neither a service nor a file to take operations from. -/
  | noSource
  | blankOutputFile
  /-- A directory without a configuration. -/
  | noFile (directory : FilePath)
  deriving DecidableEq, Repr

def Fault.message : Fault → String
  | .json fault => fault.message
  | .jsonField fault position => fault.message ++ position.message
  | .toml => "TOML: syntax"
  | .tomlField fault => "TOML: " ++ fault.message
  | .noSource => "either 'introspectionUrl' or 'introspectionFile' must be set"
  | .blankOutputFile => "'outputFile' must not be empty"
  | .noFile directory =>
    "no configuration found in '" ++ directory.text ++ "' (looked for " ++
      ", ".intercalate fileNames ++ ")"

end ClientGen.Config
