import ClientGen.Config.Fault
import ClientGen.Files.Fault
import ClientGen.Operation.Payload

/-!
The ways in which a run can fail. Schemas never make a run fail; what can are the payload, the
configuration, the service and the files.
-/
namespace ClientGen

inductive Error where
  /-- A payload that is no list of operations. -/
  | payload (fault : PayloadFault)
  /-- A service that gave no answer in a number of attempts, with the words for the last one. -/
  | transport (url : String) (attempts : Nat) (message : String)
  /-- A payload that is no JSON. -/
  | json (fault : Json.Fault)
  | read (path : Files.FilePath) (fault : Files.Fault)
  /-- A configuration, with the file it comes from if it comes from one. -/
  | config (file : Option Files.FilePath) (fault : Config.Fault)
  | write (path : Files.FilePath) (fault : Files.Fault)
  deriving DecidableEq, Repr

def Error.message : Error → String
  | .payload fault => "Invalid introspection payload: " ++ fault.message
  | .transport url attempts message =>
    "Failed to fetch introspection data from '" ++ url ++ "' after " ++ toString attempts ++
      " attempt(s): " ++ message
  | .json fault => "Introspection payload is not valid JSON: " ++ fault.message
  | .read path fault => "Failed to read '" ++ path.text ++ "': " ++ fault.message
  | .config none fault => "Invalid configuration: " ++ fault.message
  | .config (some file) fault => "Invalid configuration: " ++ file.text ++ ": " ++ fault.message
  | .write path fault => "Failed to write output file '" ++ path.text ++ "': " ++ fault.message

end ClientGen
