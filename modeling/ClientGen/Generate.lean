import ClientGen.Config.Basic
import ClientGen.Introspection
import ClientGen.Module.Emit
import ClientGen.Output

/-!
A whole run: the operations are loaded, compiled and emitted as a module, and the module is written
to its file unless the file holds it already.
-/
namespace ClientGen
open Files

/-- What a run has done. -/
structure Report where
  path : FilePath
  /-- How many operations were loaded. -/
  operations : Nat
  /-- Whether the file was written. -/
  isWritten : Bool
  deriving DecidableEq, Repr

/-- The operations of a configuration's file, or else of its service. -/
def loadOperations (policy : Introspection.RetryPolicy) (config : Config) :
    Attempt (List Operation) :=
  match config.introspectionFile, config.introspectionUrl with
  | some path, _ => Introspection.loadFile path
  | none, some url => Introspection.fetch policy config.headers url
  | none, none => throw (.config none .noSource)

/-- Generate the module of a configuration, stamped with a time. -/
def generate (policy : Introspection.RetryPolicy) (config : Config) (seconds : Int) :
    Attempt Report := do
  let operations ← loadOperations policy config
  let module ← Attempt.ofTraced (Module.render operations config.baseUrl seconds)
  let path := config.outputPath
  let isWritten ← Output.replaceIfChanged path module
  if isWritten then Attempt.report (.wroteModule path.text operations.length)
  return ⟨path, operations.length, isWritten⟩

end ClientGen
