import ClientGen.TypeScript.Literal

/-!
Syntax of generated code, as far as generated modules use it, with two views of it: its text and
the names that occur free in it. A name is free where code reads a value by it that no parameter
and no constant around stands for. Names of properties, types and keywords are no such names.
-/
namespace ClientGen.TypeScript

/-- A part of a template literal. -/
inductive Piece (ε : Type) where
  | chunk (raw : List Char)
  | hole (expression : ε)

/-- An entry of an object literal. -/
inductive Entry (ε : Type) where
  | property (name : String) (value : ε)
  | spread (value : ε)

inductive UnaryOperator where
  | not
  | await
  | typeOf

/-- How an operator is written in front of its operand. -/
def UnaryOperator.chars : UnaryOperator → List Char
  | .not => "!".toList
  | .await => "await ".toList
  | .typeOf => "typeof ".toList

inductive Expression where
  | name (name : String)
  | this
  | super
  | value (value : Json.Value)
  /-- A string literal. -/
  | text (text : String)
  /-- Characters between quotes, as they are. -/
  | quoted (raw : String)
  | member (object : Expression) (property : String)
  | call (callee : Expression) (arguments : List Expression)
  | construct (callee : Expression) (arguments : List Expression)
  | unary (operator : UnaryOperator) (operand : Expression)
  | comparison (isEquality : Bool) (left right : Expression)
  | conditional (condition whenTrue whenFalse : Expression)
  | arrow (parameters : List String) (body : Expression)
  | template (pieces : List (Piece Expression))
  | list (items : List Expression)
  /-- An object literal on one line. -/
  | object (entries : List (Entry Expression))
  /-- An object literal with a line for each entry. -/
  | block (entries : List (Entry Expression))
  /-- An expression in parentheses. -/
  | grouped (inner : Expression)

def Expression.method (object : Expression) (name : String) (arguments : List Expression) :
    Expression :=
  .call (.member object name) arguments

/-- The start of a line in blocks nested to a depth. -/
def indent (depth : Nat) : List Char := List.replicate (2 * depth) ' '

theorem propertyKeyChars_plain (plain : Identifier.isPlainChars name = true) :
    propertyKeyChars name = name :=
  if_pos plain

theorem propertyAccessChars_plain (plain : Identifier.isPlainChars name = true) :
    propertyAccessChars object name = object ++ '.' :: name :=
  if_pos plain

/-- Texts with commas between them. -/
def listed (texts : List (List Char)) : List Char := List.intercalate [',', ' '] texts

@[simp] theorem listed_nil : listed [] = [] := rfl

@[simp] theorem listed_singleton (text : List Char) : listed [text] = text :=
  List.append_nil text

@[simp] theorem listed_cons_cons (first second : List Char) (rest : List (List Char)) :
    listed (first :: second :: rest) = first ++ [',', ' '] ++ listed (second :: rest) := by
  simp [listed, List.intercalate]

def parametersChars (parameters : List String) : List Char :=
  '(' :: listed (parameters.map String.toList) ++ [')']

/-- The text of an object literal with a line for each entry, in blocks nested to a depth. -/
def blockChars (depth : Nat) : List (List Char) → List Char
  | [] => "\x7b\x7d".toList
  | first :: rest =>
    "\x7b\n".toList ++ (first :: rest).flatMap
      (fun line => indent (depth + 1) ++ line ++ ",\n".toList) ++ indent depth ++ ['\x7d']

mutual
/-- The text of an expression in blocks nested to a depth. -/
def Expression.chars (depth : Nat) : Expression → List Char
  | .name name => name.toList
  | .this => ['t', 'h', 'i', 's']
  | .super => ['s', 'u', 'p', 'e', 'r']
  | .value value => value.chars
  | .text text => stringLiteralChars text.toList
  | .quoted raw => '"' :: raw.toList ++ ['"']
  | .member object property => propertyAccessChars (object.chars depth) property.toList
  | .call callee arguments =>
    callee.chars depth ++ '(' :: listed (expressionsChars depth arguments) ++ [')']
  | .construct callee arguments =>
    ['n', 'e', 'w', ' '] ++ callee.chars depth ++
      '(' :: listed (expressionsChars depth arguments) ++ [')']
  | .unary operator operand => operator.chars ++ operand.chars depth
  | .comparison isEquality left right =>
    left.chars depth ++ (if isEquality then " === " else " !== ").toList ++ right.chars depth
  | .conditional condition whenTrue whenFalse =>
    condition.chars depth ++ " ? ".toList ++ whenTrue.chars depth ++ " : ".toList ++
      whenFalse.chars depth
  | .arrow parameters body => parametersChars parameters ++ " => ".toList ++ body.chars depth
  | .template pieces => '\x60' :: piecesChars depth pieces ++ ['\x60']
  | .list items => '[' :: listed (expressionsChars depth items) ++ [']']
  | .object entries =>
    ['\x7b', ' '] ++ listed (entriesChars depth entries) ++ [' ', '\x7d']
  | .block entries => blockChars depth (entriesChars (depth + 1) entries)
  | .grouped inner => '(' :: inner.chars depth ++ [')']
def expressionsChars (depth : Nat) : List Expression → List (List Char)
  | [] => []
  | first :: rest => first.chars depth :: expressionsChars depth rest
def piecesChars (depth : Nat) : List (Piece Expression) → List Char
  | [] => []
  | first :: rest => pieceChars depth first ++ piecesChars depth rest
def pieceChars (depth : Nat) : Piece Expression → List Char
  | .chunk raw => raw
  | .hole expression => '$' :: '\x7b' :: expression.chars depth ++ ['\x7d']
def entriesChars (depth : Nat) : List (Entry Expression) → List (List Char)
  | [] => []
  | first :: rest => entryChars depth first :: entriesChars depth rest
/-- The text of an entry of an object literal. -/
def entryChars (depth : Nat) : Entry Expression → List Char
  | .property name value => propertyKeyChars name.toList ++ ": ".toList ++ value.chars depth
  | .spread value => ['.', '.', '.'] ++ value.chars depth
end

theorem Expression.chars_method (depth : Nat) (object : Expression) (name : String)
    (arguments : List Expression) (plain : Identifier.isPlainChars name.toList = true) :
    (object.method name arguments).chars depth = object.chars depth ++
      '.' :: (name.toList ++ '(' :: listed (expressionsChars depth arguments) ++ [')']) := by
  simp only [method, chars, propertyAccessChars_plain plain, List.append_assoc, List.cons_append]

/-- The names of a list that others leave free. -/
def unbound (bound names : List String) : List String := names.filter (!bound.contains ·)

mutual
/-- The names that occur free in an expression. -/
def Expression.free : Expression → List String
  | .name name => [name]
  | .this | .super | .value _ | .text _ | .quoted _ => []
  | .member object _ => object.free
  | .call callee arguments => callee.free ++ expressionsFree arguments
  | .construct callee arguments => callee.free ++ expressionsFree arguments
  | .unary _ operand => operand.free
  | .comparison _ left right => left.free ++ right.free
  | .conditional condition whenTrue whenFalse => condition.free ++ whenTrue.free ++ whenFalse.free
  | .arrow parameters body => unbound parameters body.free
  | .template pieces => piecesFree pieces
  | .list items => expressionsFree items
  | .object entries => entriesFree entries
  | .block entries => entriesFree entries
  | .grouped inner => inner.free
def expressionsFree : List Expression → List String
  | [] => []
  | first :: rest => first.free ++ expressionsFree rest
def piecesFree : List (Piece Expression) → List String
  | [] => []
  | first :: rest => pieceFree first ++ piecesFree rest
def pieceFree : Piece Expression → List String
  | .chunk _ => []
  | .hole expression => expression.free
def entriesFree : List (Entry Expression) → List String
  | [] => []
  | first :: rest => entryFree first ++ entriesFree rest
/-- The names that occur free in an entry of an object literal. -/
def entryFree : Entry Expression → List String
  | .property _ value => value.free
  | .spread value => value.free
end

inductive Statement where
  | constant (name : String) (value : Expression)
  | assign (target value : Expression)
  | evaluate (expression : Expression)
  | giveBack (result : Expression)
  | throw (error : Expression)
  /-- Statements under a condition. -/
  | provided (condition : Expression) (body : List Statement)

mutual
/-- The lines of a statement in blocks nested to a depth. -/
def Statement.chars (depth : Nat) : Statement → List Char
  | .constant name value =>
    indent depth ++ "const ".toList ++ name.toList ++ " = ".toList ++ value.chars depth ++
      ";\n".toList
  | .assign target value =>
    indent depth ++ target.chars depth ++ " = ".toList ++ value.chars depth ++ ";\n".toList
  | .evaluate expression => indent depth ++ expression.chars depth ++ ";\n".toList
  | .giveBack result => indent depth ++ "return ".toList ++ result.chars depth ++ ";\n".toList
  | .throw error => indent depth ++ "throw ".toList ++ error.chars depth ++ ";\n".toList
  | .provided condition body =>
    indent depth ++ "if (".toList ++ condition.chars depth ++ ") \x7b\n".toList ++
      statementsChars (depth + 1) body ++ indent depth ++ "\x7d\n".toList
def statementsChars (depth : Nat) : List Statement → List Char
  | [] => []
  | first :: rest => first.chars depth ++ statementsChars depth rest
end

def Statement.declares : Statement → List String
  | .constant name _ => [name]
  | _ => []

mutual
/-- The names that a statement reads or writes and that it does not declare inside. -/
def Statement.free : Statement → List String
  | .constant _ value => value.free
  | .assign target value => target.free ++ value.free
  | .evaluate expression => expression.free
  | .giveBack result => result.free
  | .throw error => error.free
  | .provided condition body =>
    condition.free ++ unbound (body.flatMap Statement.declares) (statementsFree body)
/-- The names that statements read or write. -/
def statementsFree : List Statement → List String
  | [] => []
  | first :: rest => first.free ++ statementsFree rest
end

/-- The names that occur free in a block. -/
def blockFree (body : List Statement) : List String :=
  unbound (body.flatMap Statement.declares) (statementsFree body)

/-- A parameter of a function, with the value that it has where none is given. -/
structure Parameter where
  name : String
  type : String
  fallback : Option Expression

def Parameter.chars (parameter : Parameter) : List Char :=
  parameter.name.toList ++ ": ".toList ++ parameter.type.toList ++
    match parameter.fallback with
    | some value => " = ".toList ++ value.chars 0
    | none => []

inductive Declaration where
  | constant (name type : String) (value : Expression)
  | function (modifiers name : String) (parameters : List Parameter) (result : String)
      (body : List Statement)
  /-- A class with one constructor, whose parameters are the fields of the class. -/
  | classOf (name parent : String) (fields : List (String × String)) (body : List Statement)

namespace Declaration

def chars : Declaration → List Char
  | .constant name type value =>
    "export const ".toList ++ name.toList ++ ": ".toList ++ type.toList ++ " = ".toList ++
      value.chars 0 ++ ";\n".toList
  | .function modifiers name parameters result body =>
    modifiers.toList ++ "function ".toList ++ name.toList ++
      '(' :: listed (parameters.map Parameter.chars) ++ "): ".toList ++ result.toList ++
      " \x7b\n".toList ++ statementsChars 1 body ++ "\x7d\n".toList
  | .classOf name parent fields body =>
    "export class ".toList ++ name.toList ++ " extends ".toList ++ parent.toList ++
      " \x7b\n  constructor(\n".toList ++
      fields.flatMap (fun field => indent 2 ++ "public readonly ".toList ++ field.1.toList ++
        ": ".toList ++ field.2.toList ++ ",\n".toList) ++
      "  ) \x7b\n".toList ++ statementsChars 2 body ++ "  \x7d\n\x7d\n".toList

theorem chars_constant (name type : String) (value : Expression) :
    (constant name type value).chars = "export const ".toList ++ name.toList ++ ": ".toList ++
      type.toList ++ " = ".toList ++ value.chars 0 ++ ";\n".toList :=
  rfl

theorem chars_function (modifiers name : String) (parameters : List Parameter) (result : String)
    (body : List Statement) :
    (function modifiers name parameters result body).chars =
      modifiers.toList ++ "function ".toList ++ name.toList ++
        '(' :: listed (parameters.map Parameter.chars) ++ "): ".toList ++ result.toList ++
        " \x7b\n".toList ++ statementsChars 1 body ++ "\x7d\n".toList :=
  rfl

def declares : Declaration → String
  | .constant name _ _ | .function _ name _ _ _ | .classOf name _ _ _ => name

def free : Declaration → List String
  | .constant _ _ value => value.free
  | .function _ _ parameters _ body =>
    unbound (parameters.map Parameter.name)
      (expressionsFree (parameters.filterMap Parameter.fallback) ++ blockFree body)
  | .classOf _ parent fields body => parent :: unbound (fields.map Prod.fst) (blockFree body)

end Declaration

/-- Declarations with empty lines between them. -/
def declarationsChars (declarations : List Declaration) : List Char :=
  List.intercalate ['\n'] (declarations.map Declaration.chars)

structure Source (text : String) where
  declarations : List Declaration
  printed : declarationsChars declarations = text.toList

def Source.single {text : String} (declaration : Declaration)
    (printed : declaration.chars = text.toList) : Source text where
  declarations := [declaration]
  printed := (List.append_nil declaration.chars).trans printed

def Source.free (source : Source text) : List String := source.declarations.flatMap Declaration.free

theorem Expression.free_method (object : Expression) (name : String)
    (arguments : List Expression) :
    (object.method name arguments).free = object.free ++ expressionsFree arguments :=
  rfl

@[simp] theorem Source.free_single {text : String} (declaration : Declaration)
    (printed : declaration.chars = text.toList) :
    (Source.single declaration printed).free = declaration.free :=
  List.append_nil _

theorem expressionsFree_singleton (expression : Expression) :
    expressionsFree [expression] = expression.free :=
  List.append_nil _

@[simp] theorem mem_unbound {name : String} {bound names : List String} :
    name ∈ unbound bound names ↔ name ∈ names ∧ name ∉ bound := by
  simp [unbound]

end ClientGen.TypeScript
