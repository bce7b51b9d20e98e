import ClientGen.Operation.Verb
import ClientGen.Schema.Basic

/-!
Remote operations as a service describes them.
-/
namespace ClientGen

/-- An operation. Its name seeds every generated identifier; colons in its path mark parameters. -/
structure Operation where
  name : String
  path : String
  verb : Verb
  input : Schema
  output : Schema
  deriving Inhabited

end ClientGen
