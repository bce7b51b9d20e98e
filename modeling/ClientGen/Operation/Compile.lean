import ClientGen.Operation.Basic
import ClientGen.PathTemplate
import ClientGen.Schema.Compile

/-!
Compiling operations: the identifiers, the validators and types of input and result, and the
client function that sends the request.
-/
namespace ClientGen

/-- All that a module needs to know about one operation. -/
structure CompiledOperation where
  /-- The start of the names of its schemas and types. -/
  pascal : String
  /-- The name of its function. -/
  camel : String
  verb : Verb
  input : Compiled
  output : Compiled
  path : String
  deriving Inhabited

namespace CompiledOperation

def inputSchemaName (op : CompiledOperation) : String := op.pascal ++ "ArgsSchema"

def inputTypeName (op : CompiledOperation) : String := op.pascal ++ "Args"

def resultSchemaName (op : CompiledOperation) : String := op.pascal ++ "ResultSchema"

def resultTypeName (op : CompiledOperation) : String := op.pascal ++ "Result"

/-- The template literal of the request's URL. -/
def url (op : CompiledOperation) : String := PathTemplate.url op.path

/-- The names of the path parameters. -/
def parameters (op : CompiledOperation) : List String := PathTemplate.parameters op.path

/-- Whether the request carries the input as its body. -/
def includesBody (op : CompiledOperation) : Bool := op.verb.sendsBody

/-- The client function: it checks its arguments, sends the request, refuses answers that report a
failure, and checks the answer's body. -/
def functionText (op : CompiledOperation) : String :=
  String.join [
    "export async function ", op.camel, "(args: ", op.inputTypeName,
    ", config: ClientConfig = clientConfig): Promise<", op.resultTypeName, "> \x7b\n",
    "  const input = ", op.inputSchemaName, ".parse(args);\n",
    "  const response = await fetch(", op.url, ", \x7b\n",
    "    method: \"", op.verb.name, "\",\n",
    "    headers: \x7b\n",
    "      \"Content-Type\": \"application/json\",\n",
    "      ...(await resolveHeaders(config.headers)),\n",
    "    \x7d,\n",
    if op.includesBody then "    body: JSON.stringify(input),\n" else "",
    "  \x7d);\n",
    "  if (!response.ok) \x7b\n",
    "    throw new HttpError(response.status, await response.text());\n",
    "  \x7d\n",
    "  const parsed = ", op.resultSchemaName, ".safeParse(await response.json());\n",
    "  if (!parsed.success) \x7b\n",
    "    throw new ResponseValidationError(\"", op.camel, "\", parsed.error);\n",
    "  \x7d\n",
    "  return parsed.data;\n",
    "\x7d\n"]

end CompiledOperation

namespace Operation

/-- Whether the input of an operation must have a field. -/
def requiresField (op : Operation) (name : String) : Bool :=
  op.input.object?.any (·.requires name)

/-- A warning for each path parameter that the input need not have. -/
def parameterWarnings (op : Operation) : List Diagnostic :=
  ((PathTemplate.parameters op.path).filter (!op.requiresField ·)).map
    (.undeclaredParameter op.name op.path)

def compile (op : Operation) : Traced CompiledOperation := do
  let pascal := Identifier.pascal op.name
  let input ← op.input.compile (pascal ++ "Args")
  let output ← op.output.compile (pascal ++ "Result")
  let _ ← (⟨(), op.parameterWarnings⟩ : Traced Unit)
  Traced.report (.compiledOperation op.name op.verb op.path
    (PathTemplate.parameters op.path).length op.verb.sendsBody)
  return ⟨pascal, Identifier.camel op.name, op.verb, input, output, op.path⟩

def compileAll : List Operation → Traced (List CompiledOperation)
  | [] => return []
  | op :: rest => do
    let first ← op.compile
    let others ← compileAll rest
    return first :: others

end Operation

end ClientGen
