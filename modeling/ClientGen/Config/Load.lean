import ClientGen.Attempt
import ClientGen.Config.Json
import ClientGen.Config.Toml
import ClientGen.Text.Blank

/-!
Finding and loading configurations. What is loaded names a source of operations and an output file,
and its relative paths start from the directory of the file that it comes from.
-/
namespace ClientGen.Config
open Files

inductive Format where
  | json
  | toml
  deriving DecidableEq, Repr

/-- The format of a file: TOML if its name ends so in any case, else JSON. -/
def Format.ofPath (path : FilePath) : Format :=
  if path.extension?.any fun ending => ending.toList.map Char.toLower == "toml".toList then .toml
  else .json

/-- Refuse a configuration without a source of operations or without an output file. -/
def check (config : Config) : Except Fault Config :=
  if config.introspectionUrl.isNone ∧ config.introspectionFile.isNone then .error .noSource
  else if Text.isBlankText config.outputFile then .error .blankOutputFile
  else .ok config

/-- The configuration that a text gives. -/
def parse (format : Format) (text : String) : Except Fault Config := do
  let config ←
    match format with
    | .json => ofJsonText text
    | .toml => ofTomlText text
  config.check

/-- A configuration whose relative paths start from a directory. -/
def startingFrom (base : FilePath) (config : Config) : Config :=
  { config with
    outputDir := base.join config.outputDir
    introspectionFile := config.introspectionFile.map base.join }

def load (path : FilePath) : Attempt Config := do
  let text ← Attempt.readText path
  let config ← Attempt.ofExcept (.config (some path)) (parse (.ofPath path) text)
  Attempt.report (.loadedConfiguration path.text)
  match path.parent? with
  | some base => return config.startingFrom base
  | none => return config

def firstFile? : List FilePath → Plan (Option FilePath)
  | [] => return none
  | path :: rest => do
    if ← Plan.request (.isFile path) then return some path else firstFile? rest

/-- Find the configuration to use: the one that is asked for, else the first one that a directory
has. -/
def discover (asked : Option FilePath) (directory : FilePath) : Attempt FilePath :=
  match asked with
  | some path => return path
  | none => do
    match ← ExceptT.lift (firstFile? (fileNames.map fun name => directory.join ⟨name⟩)) with
    | some path => return path
    | none => throw (.config none (.noFile directory))

end ClientGen.Config
