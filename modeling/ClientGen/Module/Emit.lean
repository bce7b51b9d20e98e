import ClientGen.Module.Scaffold
import ClientGen.Module.Timestamp
import ClientGen.Operation.Compile

/-!
Generated modules. Schemas come first, then the configuration, the runtime and the client functions,
each part in the order of the operations, so that the same operations always give the same text but
for the stamp. Of operations that claim the same name the last one is kept.
-/
namespace ClientGen.Module

/-- The names taken by the operations kept so far. -/
structure TakenNames where
  pascal : List String
  camel : List String

/-- Whether a module cannot declare a function of a name. -/
def isUnavailable (camel : String) : Bool :=
  runtimeNames.contains camel || Identifier.isReserved camel

/-- Keep an operation iff its function can have its name and neither of its names is taken. Both
names are taken from then on, also by an operation that is not kept. -/
def keep (taken : TakenNames) (op : CompiledOperation) : TakenNames × Traced Bool :=
  if isUnavailable op.camel then (taken, ⟨false, [.reservedName op.camel]⟩)
  else
    let grown := ⟨op.pascal :: taken.pascal, op.camel :: taken.camel⟩
    if taken.pascal.contains op.pascal || taken.camel.contains op.camel then
      (grown, ⟨false, [.duplicateName op.pascal]⟩)
    else (grown, ⟨true, []⟩)

/-- The operations kept of a list that runs from the last one to the first, in this order. -/
def keepBackward (taken : TakenNames) : List CompiledOperation → Traced (List CompiledOperation)
  | [] => return []
  | op :: rest => do
    let (taken, isKept) := keep taken op
    if ← isKept then
      let others ← keepBackward taken rest
      return op :: others
    else keepBackward taken rest

/-- The operations that a module declares, in their order. -/
def declared (ops : List CompiledOperation) : Traced (List CompiledOperation) :=
  List.reverse <$> keepBackward ⟨[], []⟩ ops.reverse

/-- The first line of a module. -/
def banner : String := "// This file was generated by routegen. Do not edit it by hand.\n"

/-- The import of the schema library. -/
def importLines : String := "\nimport \x7b z \x7d from \"zod\";\n"

def schemaBlock (op : CompiledOperation) : String := String.join [
  "\nexport const ", op.inputSchemaName, " = ", op.input.validator.text, ";\n",
  "export type ", op.inputTypeName, " = ", op.input.type.text, ";\n",
  "export const ", op.resultSchemaName, " = ", op.output.validator.text, ";\n",
  "export type ", op.resultTypeName, " = ", op.output.type.text, ";\n"]

def schemaEntries (op : CompiledOperation) : String :=
  String.join ["  ", op.inputSchemaName, ",\n", "  ", op.resultSchemaName, ",\n"]

def exportEntry (op : CompiledOperation) : String := String.join ["  ", op.camel, ",\n"]

/-- All of a module after its stamp line, for the operations that it declares. -/
def body (ops : List CompiledOperation) (baseUrl : Option String) : String := String.join [
  importLines, String.join (ops.map schemaBlock),
  "\n", configTypes, "\n", clientConfig baseUrl, "\n", configure, "\n", runtime,
  String.join (ops.map fun op => "\n" ++ op.functionText),
  "\nexport const schemas = \x7b\n", String.join (ops.map schemaEntries), "\x7d;\n",
  "\nexport default \x7b\n  configure,\n  schemas,\n", String.join (ops.map exportEntry), "\x7d;\n"]

/-- The text of a module stamped with a time, for the operations that it declares. -/
def text (ops : List CompiledOperation) (baseUrl : Option String) (seconds : Int) : String :=
  banner ++ stampLine seconds ++ body ops baseUrl

/-- The module of compiled operations, stamped with a time. -/
def emit (ops : List CompiledOperation) (baseUrl : Option String) (seconds : Int) :
    Traced String := do
  let kept ← declared ops
  let module := text kept baseUrl seconds
  Traced.report (.emittedModule kept.length module.utf8ByteSize)
  return module

/-- The module of operations, stamped with a time. -/
def render (ops : List Operation) (baseUrl : Option String) (seconds : Int) : Traced String := do
  emit (← Operation.compileAll ops) baseUrl seconds

end ClientGen.Module
