import ClientGen.Proofs.Module.Names
import ClientGen.Proofs.Module.Syntax
import ClientGen.Proofs.Validator.Syntax

/-!
Modules as declarations. The code behind the stamp line is the text of blocks of items: the import,
the schemas of each operation, the fixed part, the client functions, the collection of schemas and
the default export. What these parts declare or list is read from the items, each of which says its
names once, where its text says them. The characters alone would not tell, since the name of an
operation may hold any of them.
-/
namespace ClientGen
open TypeScript

namespace TypeScript

inductive Item where
  | imported (name package : String)
  | constant (name : String) (value : Expression)
  | type (name : String) (meaning : TypeExpr)
  /-- A type whose meaning is written out, as it stands behind the equals sign. -/
  | writtenType (name meaning : String)
  | declaration (code : Declaration)
  /-- A constant object of other values under their own names. -/
  | collection (name : String) (members : List String)
  /-- The default export, an object of values under their own names. -/
  | exports (members : List String)

/-- The text of an object of values under their own names. -/
def membersBlock (members : List String) : List Char :=
  "\x7b\n".toList ++ members.flatMap (fun name => "  ".toList ++ name.toList ++ ",\n".toList) ++
    "\x7d;\n".toList

namespace Item

def chars : Item → List Char
  | .imported name package =>
    "import \x7b ".toList ++ name.toList ++ " \x7d from \"".toList ++ package.toList ++
      "\";\n".toList
  | .constant name value =>
    "export const ".toList ++ name.toList ++ " = ".toList ++ value.chars 0 ++ ";\n".toList
  | .type name meaning =>
    "export type ".toList ++ name.toList ++ " = ".toList ++ meaning.chars ++ ";\n".toList
  | .writtenType name meaning =>
    "export type ".toList ++ name.toList ++ " =".toList ++ meaning.toList ++ ";\n".toList
  | .declaration code => code.chars
  | .collection name members =>
    "export const ".toList ++ name.toList ++ " = ".toList ++ membersBlock members
  | .exports members => "export default ".toList ++ membersBlock members

def value? : Item → Option String
  | .imported name _ | .constant name _ | .collection name _ => some name
  | .declaration code => some code.declares
  | .type .. | .writtenType .. | .exports _ => none

def type? : Item → Option String
  | .type name _ | .writtenType name _ | .declaration (.classOf name ..) => some name
  | _ => none

/-- The name of a constant without a written type, as schemas are declared. -/
def constant? : Item → Option String
  | .constant name _ => some name
  | _ => none

def function? : Item → Option String
  | .declaration (.function _ name ..) => some name
  | _ => none

def collection? : Item → Option (String × List String)
  | .collection name members => some (name, members)
  | _ => none

def exports? : Item → Option (List String)
  | .exports members => some members
  | _ => none

end Item

private theorem Item.chars_declaration (code : Declaration) :
    (Item.declaration code).chars = code.chars :=
  rfl

/-- Blocks of items, each behind an empty line. -/
def blocksChars (blocks : List (List Item)) : List Char :=
  blocks.flatMap fun block => "\n".toList ++ block.flatMap Item.chars

theorem blocksChars_append (front back : List (List Item)) :
    blocksChars (front ++ back) = blocksChars front ++ blocksChars back :=
  List.flatMap_append

theorem blocksChars_cons (item : Item) (rest : List (List Item)) :
    blocksChars ([item] :: rest) = "\n".toList ++ item.chars ++ blocksChars rest := by
  rw [blocksChars, List.flatMap_cons, List.flatMap_singleton]
  rfl

/-- Declarations with empty lines between them are blocks of one item. -/
theorem blocksChars_declarations (first : Declaration) (rest : List Declaration) :
    blocksChars ((first :: rest).map ([.declaration ·])) =
      "\n".toList ++ declarationsChars (first :: rest) := by
  induction rest generalizing first with
  | nil =>
    have alone : declarationsChars [first] = first.chars := List.append_nil _
    rw [List.map_cons, blocksChars_cons, Item.chars_declaration, alone]
    exact List.append_nil _
  | cons second rest ih =>
    have more : declarationsChars (first :: second :: rest) =
        first.chars ++ ("\n".toList ++ declarationsChars (second :: rest)) := rfl
    rw [List.map_cons, blocksChars_cons, ih, more, Item.chars_declaration, List.append_assoc]

end TypeScript

namespace Module

def schemaItems (op : CompiledOperation) : List Item := [
  .constant op.inputSchemaName op.input.validator.code,
  .type op.inputTypeName op.input.type,
  .constant op.resultSchemaName op.output.validator.code,
  .type op.resultTypeName op.output.type]

/-- The types of the configuration. -/
def configTypeItems : List Item := [
  .writtenType "HeaderProvider"
    ("\n  | Record<string, string>\n" ++
      "  | (() => Record<string, string> | Promise<Record<string, string>>)"),
  .writtenType "ClientConfig" " \x7b\n  baseUrl: string;\n  headers: HeaderProvider;\n\x7d"]

/-- What every module declares between the schemas and the client functions. -/
def fixedItems (baseUrl : Option String) : List Item :=
  configTypeItems ++ [.declaration (clientConfigCode baseUrl), .declaration configureCode] ++
    runtimeCode.map .declaration

/-- The code of a module behind its stamp line, for the operations that it declares. -/
def blocks (ops : List CompiledOperation) (baseUrl : Option String) : List (List Item) :=
  [.imported "z" "zod"] :: ops.map schemaItems ++ (fixedItems baseUrl).map ([·]) ++
    ops.map (fun op => [.declaration op.code]) ++
    [[.collection "schemas" (schemaNames ops)], [.exports (exportKeys ops)]]

/-- The items of a module. -/
def items (ops : List CompiledOperation) (baseUrl : Option String) : List Item :=
  (blocks ops baseUrl).flatten

theorem toList_join_map (f : CompiledOperation → String) (ops : List CompiledOperation) :
    (String.join (ops.map f)).toList = ops.flatMap fun op => (f op).toList := by
  rw [String.toList_join, List.flatMap_map]

theorem chars_constant (name : String) (validator : Validator) :
    (Item.constant name validator.code).chars = "export const ".toList ++ name.toList ++
      " = ".toList ++ validator.text.toList ++ ";\n".toList := by
  have text : validator.text.toList = validator.code.chars 0 :=
    String.toList_ofList.trans (validator.chars_code 0).symm
  rw [text]
  rfl

theorem chars_type (name : String) (meaning : TypeExpr) :
    (Item.type name meaning).chars = "export type ".toList ++ name.toList ++ " = ".toList ++
      meaning.text.toList ++ ";\n".toList := by
  have text : meaning.text.toList = meaning.chars := String.toList_ofList
  rw [text]
  rfl

theorem chars_schemaItems (op : CompiledOperation) :
    "\n".toList ++ (schemaItems op).flatMap Item.chars = (schemaBlock op).toList := by
  have start : "\nexport const ".toList = "\n".toList ++ "export const ".toList := by decide
  rw [schemaBlock]
  simp only [schemaItems, List.flatMap_cons, List.flatMap_nil, chars_constant, chars_type,
    toList_join_cons, start, String.join_nil, List.append_assoc]
  rfl

theorem chars_configTypeItems :
    blocksChars (configTypeItems.map ([·])) = "\n".toList ++ configTypes.toList := by
  rw [configTypes]
  repeat rw [toList_join_ofList_cons]
  decide +kernel

private theorem membersBlock_schemaNames (ops : List CompiledOperation) :
    membersBlock (schemaNames ops) =
      "\x7b\n".toList ++ (String.join (ops.map schemaEntries)).toList ++ "\x7d;\n".toList := by
  rw [membersBlock, schemaNames, List.flatMap_assoc, toList_join_map]
  congr 3
  funext op
  rw [schemaEntries]
  simp only [List.flatMap_cons, List.flatMap_nil, toList_join_cons, List.append_assoc]
  rfl

private theorem membersBlock_exportKeys (ops : List CompiledOperation) :
    membersBlock (exportKeys ops) = "\x7b\n  configure,\n  schemas,\n".toList ++
      (String.join (ops.map exportEntry)).toList ++ "\x7d;\n".toList := by
  rw [membersBlock, exportKeys, List.flatMap_append, List.flatMap_map, toList_join_map]
  have each (op : CompiledOperation) :
      "  ".toList ++ op.camel.toList ++ ",\n".toList = (exportEntry op).toList := by
    rw [exportEntry]
    simp only [toList_join_cons, List.append_assoc]
    rfl
  simp only [each]
  rfl

private theorem blocksChars_schemaItems (ops : List CompiledOperation) :
    blocksChars (ops.map schemaItems) = (String.join (ops.map schemaBlock)).toList := by
  rw [blocksChars, List.flatMap_map, toList_join_map]
  simp only [chars_schemaItems]

private theorem blocksChars_functions (ops : List CompiledOperation) :
    blocksChars (ops.map fun op => [.declaration op.code]) =
      (String.join (ops.map fun op => "\n" ++ op.functionText)).toList := by
  have each (op : CompiledOperation) :
      "\n".toList ++ [Item.declaration op.code].flatMap Item.chars =
        ("\n" ++ op.functionText).toList := by
    rw [List.flatMap_singleton, String.toList_append, ← op.chars_code, Item.chars_declaration]
  rw [blocksChars, List.flatMap_map, toList_join_map]
  simp only [each]

private theorem blocksChars_fixedItems (baseUrl : Option String) :
    blocksChars ((fixedItems baseUrl).map ([·])) =
      "\n".toList ++ configTypes.toList ++ "\n".toList ++ (clientConfig baseUrl).toList ++
        "\n".toList ++ configure.toList ++ "\n".toList ++ runtime.toList := by
  have parts : (fixedItems baseUrl).map ([·]) = configTypeItems.map ([·]) ++
      [.declaration (clientConfigCode baseUrl)] :: [.declaration configureCode] ::
        runtimeCode.map ([.declaration ·]) := rfl
  have runtime : blocksChars (runtimeCode.map ([.declaration ·])) =
      "\n".toList ++ runtime.toList := by
    rw [← chars_runtimeCode]
    exact blocksChars_declarations _ _
  rw [parts, blocksChars_append, blocksChars_cons, blocksChars_cons, chars_configTypeItems,
    Item.chars_declaration, Item.chars_declaration, chars_clientConfigCode, chars_configureCode,
    runtime]
  simp only [List.append_assoc]

theorem chars_imported : "\n".toList ++ (Item.imported "z" "zod").chars = importLines.toList := by
  decide

theorem chars_collection (ops : List CompiledOperation) :
    "\n".toList ++ (Item.collection "schemas" (schemaNames ops)).chars =
      "\nexport const schemas = \x7b\n".toList ++ (String.join (ops.map schemaEntries)).toList ++
        "\x7d;\n".toList := by
  have start : "\nexport const schemas = \x7b\n".toList = "\n".toList ++
      ("export const ".toList ++ "schemas".toList ++ " = ".toList ++ "\x7b\n".toList) := by
    decide
  have whole : (Item.collection "schemas" (schemaNames ops)).chars = "export const ".toList ++
      "schemas".toList ++ " = ".toList ++ membersBlock (schemaNames ops) := rfl
  rw [whole, membersBlock_schemaNames, start]
  simp only [List.append_assoc]

theorem chars_exports (ops : List CompiledOperation) :
    "\n".toList ++ (Item.exports (exportKeys ops)).chars =
      "\nexport default \x7b\n  configure,\n  schemas,\n".toList ++
        (String.join (ops.map exportEntry)).toList ++ "\x7d;\n".toList := by
  have start : "\nexport default \x7b\n  configure,\n  schemas,\n".toList = "\n".toList ++
      ("export default ".toList ++ "\x7b\n  configure,\n  schemas,\n".toList) := by
    decide
  have whole : (Item.exports (exportKeys ops)).chars =
      "export default ".toList ++ membersBlock (exportKeys ops) := rfl
  rw [whole, membersBlock_exportKeys, start]
  simp only [List.append_assoc]

/-- The code of a module is the text of its blocks. -/
theorem chars_blocks (ops : List CompiledOperation) (baseUrl : Option String) :
    blocksChars (blocks ops baseUrl) = (body ops baseUrl).toList := by
  have noBlocks : blocksChars [] = [] := rfl
  have noTexts : (String.join []).toList = [] := rfl
  rw [body]
  simp only [blocks, List.cons_append, blocksChars_cons, blocksChars_append, toList_join_cons,
    blocksChars_schemaItems, blocksChars_fixedItems, blocksChars_functions,
    chars_imported, chars_collection, chars_exports, noBlocks, noTexts, List.append_assoc]

section Names

variable (ops : List CompiledOperation) (baseUrl : Option String)

theorem items_eq : items ops baseUrl = .imported "z" "zod" :: ops.flatMap schemaItems ++
    fixedItems baseUrl ++ ops.map (.declaration ·.code) ++
    [.collection "schemas" (schemaNames ops), .exports (exportKeys ops)] := by
  have fixed : ((fixedItems baseUrl).map ([·])).flatten = fixedItems baseUrl := by
    rw [← List.flatMap_def, List.flatMap_singleton']
  have functions : (ops.map fun op => [Item.declaration op.code]).flatten =
      ops.map (.declaration ·.code) := by
    rw [← List.flatMap_def, ← List.map_eq_flatMap]
  simp only [items, blocks, List.flatten_append, List.flatten_cons, List.flatten_nil,
    ← List.flatMap_def, fixed, functions, List.cons_append, List.nil_append, List.append_nil]

/-- What is read of the items of a module, by the parts of the module. -/
theorem filterMap_items (read : Item → Option α) : (items ops baseUrl).filterMap read =
    ([.imported "z" "zod"] : List Item).filterMap read ++
      ops.flatMap (fun op => (schemaItems op).filterMap read) ++
      (fixedItems baseUrl).filterMap read ++
      ops.filterMap (fun op => read (.declaration op.code)) ++
      ([.collection "schemas" (schemaNames ops), .exports (exportKeys ops)] : List Item).filterMap
        read := by
  rw [items_eq, ← List.singleton_append, List.filterMap_append, List.filterMap_append,
    List.filterMap_append, List.filterMap_append, List.filterMap_flatMap, List.filterMap_map]
  rfl

private theorem flatMap_nothing (ops : List CompiledOperation) :
    ops.flatMap (fun _ => ([] : List α)) = [] :=
  List.flatMap_eq_nil_iff.mpr fun _ _ => rfl

/-- The schemas, each once and in the order of the operations. -/
theorem constants_items : (items ops baseUrl).filterMap Item.constant? =
    ops.flatMap fun op => [op.inputSchemaName, op.resultSchemaName] := by
  have parts : (items ops baseUrl).filterMap Item.constant? = [] ++
      (ops.flatMap fun op => [op.inputSchemaName, op.resultSchemaName]) ++ [] ++
        ops.filterMap (fun _ => none) ++ [] :=
    filterMap_items ops baseUrl _
  simpa using parts

/-- The functions: two of the fixed part, then the client functions in the order of the operations.
-/
theorem functions_items : (items ops baseUrl).filterMap Item.function? =
    "configure" :: "resolveHeaders" :: ops.map (·.camel) := by
  have parts : (items ops baseUrl).filterMap Item.function? = [] ++ ops.flatMap (fun _ => []) ++
      ["configure", "resolveHeaders"] ++ ops.filterMap (fun op => some op.camel) ++ [] :=
    filterMap_items ops baseUrl _
  simpa [flatMap_nothing] using parts

/-- The one collection, of the schemas. -/
theorem collections_items : (items ops baseUrl).filterMap Item.collection? =
    [("schemas", ops.flatMap fun op => [op.inputSchemaName, op.resultSchemaName])] := by
  have parts : (items ops baseUrl).filterMap Item.collection? = [] ++ ops.flatMap (fun _ => []) ++
      [] ++ ops.filterMap (fun _ => none) ++
        [("schemas", ops.flatMap fun op => [op.inputSchemaName, op.resultSchemaName])] :=
    filterMap_items ops baseUrl _
  simpa [flatMap_nothing] using parts

/-- The one default export, of the client functions and two values of the fixed part. -/
theorem exports_items : (items ops baseUrl).filterMap Item.exports? =
    ["configure" :: "schemas" :: ops.map (·.camel)] := by
  have parts : (items ops baseUrl).filterMap Item.exports? = [] ++ ops.flatMap (fun _ => []) ++
      [] ++ ops.filterMap (fun _ => none) ++ ["configure" :: "schemas" :: ops.map (·.camel)] :=
    filterMap_items ops baseUrl _
  simpa [flatMap_nothing] using parts

/-- The names that a module declares as values are the ones that its items introduce. -/
theorem values_items : ((items ops baseUrl).filterMap Item.value?).Perm (valueNames ops) := by
  have parts : (items ops baseUrl).filterMap Item.value? = ["z"] ++ schemaNames ops ++
      ["clientConfig", "configure", "HttpError", "ResponseValidationError", "resolveHeaders"] ++
        ops.filterMap (fun op => some op.camel) ++ ["schemas"] :=
    filterMap_items ops baseUrl _
  have camels : ops.filterMap (fun op => some op.camel) = ops.map (·.camel) := by
    simp
  rw [parts, camels, valueNames]
  generalize schemaNames ops = schemas, ops.map (·.camel) = functions
  have moved := List.perm_append_comm_assoc schemas
    ["clientConfig", "configure", "HttpError", "ResponseValidationError", "resolveHeaders"]
    (functions ++ ["schemas"])
  have behind : (schemas ++ functions ++ ["schemas"]).Perm
      (["schemas"] ++ (schemas ++ functions)) :=
    List.perm_append_comm
  rw [List.append_assoc] at behind
  simpa [runtimeValues] using moved.trans (behind.append_left _)

/-- So are the names that it declares as types. -/
theorem types_items : ((items ops baseUrl).filterMap Item.type?).Perm (typeNames ops) := by
  have parts : (items ops baseUrl).filterMap Item.type? = [] ++
      (ops.flatMap fun op => [op.inputTypeName, op.resultTypeName]) ++ runtimeTypes ++
        ops.filterMap (fun _ => none) ++ [] :=
    filterMap_items ops baseUrl _
  rw [parts, typeNames, List.filterMap_none]
  simp only [List.append_nil, List.nil_append]
  exact List.perm_append_comm

end Names

end Module
end ClientGen
