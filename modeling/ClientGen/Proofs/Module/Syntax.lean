import ClientGen.Module.Emit
import ClientGen.Proofs.TypeScript.Syntax

/-!
Modules as syntax: the values of the fixed part of a module, and the client functions. Each text of
the generator comes with the declarations of which it is the text, so that the names that they read
are the names that the text reads.
-/
namespace ClientGen
open TypeScript

/-- A list of texts of which the first is given by its characters. -/
theorem toList_join_ofList_cons (chars : List Char) (rest : List String) :
    (String.join (String.ofList chars :: rest)).toList = chars ++ (String.join rest).toList := by
  rw [String.join_cons, String.toList_append, String.toList_ofList]

theorem toList_join_cons (first : String) (rest : List String) :
    (String.join (first :: rest)).toList = first.toList ++ (String.join rest).toList := by
  rw [String.join_cons, String.toList_append]

namespace Module

/-- The default configuration. -/
def clientConfigCode (baseUrl : Option String) : Declaration :=
  .constant "clientConfig" "ClientConfig" (.block [
    .property "baseUrl" (.text (baseUrl.getD "")),
    .property "headers" (.block [])])

/-- The function that changes the default configuration. -/
def configureCode : Declaration :=
  .function "export " "configure" [⟨"options", "Partial<ClientConfig>", none⟩] "ClientConfig" [
    .provided (.comparison false (.member (.name "options") "baseUrl") (.name "undefined")) [
      .assign (.member (.name "clientConfig") "baseUrl") (.member (.name "options") "baseUrl")],
    .provided (.comparison false (.member (.name "options") "headers") (.name "undefined")) [
      .assign (.member (.name "clientConfig") "headers") (.member (.name "options") "headers")],
    .giveBack (.name "clientConfig")]

/-- The error classes and the resolution of headers. -/
def runtimeCode : List Declaration := [
  .classOf "HttpError" "Error" [("status", "number"), ("body", "string")] [
    .evaluate (.call .super [.template [
      .chunk "Request failed with status ".toList, .hole (.name "status")]]),
    .assign (.member .this "name") (.text "HttpError")],
  .classOf "ResponseValidationError" "Error" [("operation", "string"), ("issues", "z.ZodError")] [
    .evaluate (.call .super [.template [
      .chunk "Response of ".toList, .hole (.name "operation"),
      .chunk " failed validation: ".toList, .hole (.member (.name "issues") "message")]]),
    .assign (.member .this "name") (.text "ResponseValidationError")],
  .function "async " "resolveHeaders" [⟨"headers", "HeaderProvider", none⟩]
    "Promise<Record<string, string>>" [
    .giveBack (.conditional (.comparison true (.unary .typeOf (.name "headers")) (.text "function"))
      (.unary .await (.call (.name "headers") [])) (.name "headers"))]]

theorem chars_clientConfigCode (baseUrl : Option String) :
    (clientConfigCode baseUrl).chars = (clientConfig baseUrl).toList := by
  rw [clientConfig, stringLiteral]
  repeat rw [toList_join_ofList_cons]
  rw [clientConfigCode, Declaration.chars_constant]
  simp (disch := decide) only [Expression.chars, entriesChars, entryChars, blockChars,
    propertyKeyChars_plain, List.flatMap_cons, List.flatMap_nil, List.append_assoc]
  repeat rw [String.toList_ofList]
  rfl

theorem chars_configureCode : configureCode.chars = configure.toList := by
  rw [configure]
  repeat rw [toList_join_ofList_cons]
  decide +kernel

theorem chars_runtimeCode : TypeScript.declarationsChars runtimeCode = runtime.toList := by
  rw [runtime]
  repeat rw [toList_join_ofList_cons]
  decide +kernel

/-- The default configuration. -/
def clientConfigSource (baseUrl : Option String) : Source (clientConfig baseUrl) :=
  .single (clientConfigCode baseUrl) (chars_clientConfigCode baseUrl)

/-- The function that changes the default configuration. -/
def configureSource : Source configure := .single configureCode chars_configureCode

/-- The error classes and the resolution of headers. -/
def runtimeSource : Source runtime where
  declarations := runtimeCode
  printed := chars_runtimeCode

end Module

namespace PathTemplate

/-- A segment of a path in the template literal of the URL. -/
def Segment.piece : Segment → Piece Expression
  | .literal text => .chunk (escapeLiteral text)
  | .parameter name => .hole (.call (.name "encodeURIComponent") [
      .call (.name "String") [.member (.name "input") (String.ofList name)]])

def urlCode (path : String) : Expression :=
  .template (.hole (.member (.name "config") "baseUrl") ::
    (segments path.toList).map Segment.piece)

theorem chars_piece (depth : Nat) (segment : Segment) :
    pieceChars depth segment.piece = segment.template "input".toList := by
  cases segment with
  | literal text => rfl
  | parameter name =>
    have expression : parameterExpression "input".toList name =
        "encodeURIComponent(String(".toList ++ propertyAccessChars "input".toList name ++
          "))".toList :=
      rfl
    simp only [Segment.piece, pieceChars, Expression.chars, expressionsChars, listed_singleton,
      String.toList_ofList, Segment.template, substitution, expression, List.append_assoc,
      List.cons_append]
    repeat rw [String.toList_ofList]
    rfl

theorem chars_pieces (depth : Nat) (all : List Segment) :
    piecesChars depth (all.map Segment.piece) =
      all.flatMap (Segment.template "input".toList) := by
  induction all with
  | nil => rfl
  | cons first rest ih =>
    rw [List.map_cons, List.flatMap_cons, ← ih, ← chars_piece depth]
    rfl

theorem chars_urlCode (depth : Nat) (path : String) :
    (urlCode path).chars depth = urlChars path.toList := by
  rw [urlCode, Expression.chars, piecesChars, chars_pieces, pieceChars]
  rfl

end PathTemplate

namespace CompiledOperation

/-- The entries of a request's options: the verb, the headers and, where it has one, the body. -/
def optionsCode (op : CompiledOperation) : List (Entry Expression) :=
  .property "method" (.quoted op.verb.name) ::
  .property "headers" (.block [
    .property "Content-Type" (.text "application/json"),
    .spread (.grouped (.unary .await (.call (.name "resolveHeaders") [
      .member (.name "config") "headers"])))]) ::
  if op.includesBody then
    [.property "body" ((Expression.name "JSON").method "stringify" [.name "input"])]
  else []

def requestCode (op : CompiledOperation) : Statement :=
  .constant "response" (.unary .await (.call (.name "fetch") [
    PathTemplate.urlCode op.path, .block op.optionsCode]))

/-- The statement that refuses answers that report a failure. -/
def refusalCode : Statement :=
  .provided (.unary .not (.member (.name "response") "ok")) [
    .throw (.construct (.name "HttpError") [.member (.name "response") "status",
      .unary .await ((Expression.name "response").method "text" [])])]

/-- The statements that check the answer's body and give it back. -/
def answerCode (op : CompiledOperation) : List Statement := [
  .constant "parsed" ((Expression.name op.resultSchemaName).method "safeParse" [
    .unary .await ((Expression.name "response").method "json" [])]),
  .provided (.unary .not (.member (.name "parsed") "success")) [
    .throw (.construct (.name "ResponseValidationError") [
      .quoted op.camel, .member (.name "parsed") "error"])],
  .giveBack (.member (.name "parsed") "data")]

/-- The statements of the client function. -/
def bodyCode (op : CompiledOperation) : List Statement :=
  .constant "input" ((Expression.name op.inputSchemaName).method "parse" [.name "args"]) ::
    op.requestCode :: refusalCode :: op.answerCode

/-- The client function. -/
def code (op : CompiledOperation) : Declaration :=
  .function "export async " op.camel
    [⟨"args", op.inputTypeName, none⟩, ⟨"config", "ClientConfig", some (.name "clientConfig")⟩]
    ("Promise<" ++ op.resultTypeName ++ ">") op.bodyCode

set_option maxRecDepth 2000 in
theorem chars_optionsCode (op : CompiledOperation) :
    blockChars 1 (entriesChars 2 op.optionsCode) = (String.join [
      "\x7b\n",
      "    method: \"", op.verb.name, "\",\n",
      "    headers: \x7b\n",
      "      \"Content-Type\": \"application/json\",\n",
      "      ...(await resolveHeaders(config.headers)),\n",
      "    \x7d,\n",
      if op.includesBody then "    body: JSON.stringify(input),\n" else "",
      "  \x7d"]).toList := by
  rw [optionsCode]
  cases op.includesBody
  all_goals
    simp (disch := decide) only [entriesChars, entryChars, blockChars, Expression.chars,
      expressionsChars, Expression.method, propertyKeyChars_plain, propertyAccessChars_plain,
      listed_singleton, List.flatMap_cons, List.flatMap_nil, List.append_assoc, List.cons_append,
      if_true, Bool.false_eq_true, if_false]
    repeat first | rw [toList_join_ofList_cons] | rw [toList_join_cons] | rw [String.toList_ofList]
    rfl

theorem chars_requestCode (op : CompiledOperation) :
    op.requestCode.chars 1 = "  const response = await fetch(".toList ++
      PathTemplate.urlChars op.path.toList ++ ", ".toList ++
        blockChars 1 (entriesChars 2 op.optionsCode) ++ ");\n".toList := by
  simp only [requestCode, Statement.chars, Expression.chars, expressionsChars,
    PathTemplate.chars_urlCode, listed_singleton, listed_cons_cons, List.append_assoc,
    List.cons_append]
  repeat rw [String.toList_ofList]
  rfl

theorem chars_refusalCode : refusalCode.chars 1 = (String.join [
    "  if (!response.ok) \x7b\n",
    "    throw new HttpError(response.status, await response.text());\n",
    "  \x7d\n"]).toList := by
  repeat rw [toList_join_ofList_cons]
  decide +kernel

set_option maxRecDepth 2000 in
theorem chars_answerCode (op : CompiledOperation) :
    statementsChars 1 op.answerCode = (String.join [
      "  const parsed = ", op.resultSchemaName, ".safeParse(await response.json());\n",
      "  if (!parsed.success) \x7b\n",
      "    throw new ResponseValidationError(\"", op.camel, "\", parsed.error);\n",
      "  \x7d\n",
      "  return parsed.data;\n"]).toList := by
  simp (disch := decide) only [answerCode, statementsChars, Statement.chars, Expression.chars,
    expressionsChars, Expression.method, propertyAccessChars_plain, listed_singleton,
    listed_cons_cons, List.append_assoc, List.cons_append]
  repeat first | rw [toList_join_ofList_cons] | rw [toList_join_cons] | rw [String.toList_ofList]
  rfl

set_option maxRecDepth 2000 in
theorem chars_code (op : CompiledOperation) : op.code.chars = op.functionText.toList := by
  rw [code, Declaration.chars_function, functionText, url, PathTemplate.url]
  simp (disch := decide) only [bodyCode, statementsChars, chars_requestCode, chars_optionsCode,
    chars_refusalCode, chars_answerCode, Statement.chars, Expression.method, Expression.chars,
    expressionsChars, Parameter.chars, propertyAccessChars_plain, List.map_cons, List.map_nil,
    listed_singleton, listed_cons_cons, String.toList_append, List.append_assoc, List.cons_append]
  repeat first | rw [toList_join_ofList_cons] | rw [toList_join_cons] | rw [String.toList_ofList]
  -- With the printers opened and all texts in one row, the sides agree character by character.
  simp only [List.append_assoc]
  rfl

/-- The client function. -/
def source (op : CompiledOperation) : Source op.functionText :=
  .single op.code op.chars_code

end CompiledOperation
end ClientGen
