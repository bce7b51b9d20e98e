import ClientGen.Operation.Verb
import ClientGen.Schema.Basic

/-!
Diagnostics: what a run reports besides its result. A diagnostic is data; its level, its words and
its fields are read off it. Positions of schemas are named by hints.
-/
namespace ClientGen

inductive Level where
  | trace
  | debug
  | info
  | warn
  deriving DecidableEq, Repr

inductive FieldValue where
  | text (s : String)
  | count (n : Nat)
  | flag (b : Bool)
  deriving DecidableEq, Repr

inductive Diagnostic where
  /-- A schema whose shape is unknown. -/
  | unknownShape (hint : String)
  /-- An enumeration of no values. -/
  | emptyEnumeration (hint : String)
  /-- A union of no members. -/
  | emptyUnion (how : Combination) (hint : String)
  /-- A member of a merge that is no object. -/
  | skippedMember (hint : String) (index : Nat)
  /-- A merge without any object. -/
  | nothingToMerge (hint : String)
  /-- A path parameter that the input need not have. -/
  | undeclaredParameter (operation path parameter : String)
  | compiledOperation (operation : String) (verb : Verb) (path : String) (parameters : Nat)
      (includesBody : Bool)
  /-- An operation whose function cannot have its name. -/
  | reservedName (identifier : String)
  /-- An operation whose names a later one takes. -/
  | duplicateName (identifier : String)
  | emittedModule (operations bytes : Nat)
  | failedAttempt (url message : String) (attempt : Nat) (delay : String)
  | fetchedPayload (operations : Nat)
  | loadedConfiguration (path : String)
  | unchangedOutput (path : String)
  | wroteModule (path : String) (operations : Nat)
  deriving DecidableEq, Repr

namespace Diagnostic

/-- How serious a diagnostic is. -/
def level : Diagnostic → Level
  | unknownShape .. => .trace
  | undeclaredParameter .. | reservedName .. | duplicateName .. | failedAttempt .. => .warn
  | emittedModule .. | wroteModule .. => .info
  | _ => .debug

def message : Diagnostic → String
  | unknownShape _ => "unsupported schema shape, using z.unknown()"
  | emptyEnumeration _ => "empty enumeration, using z.unknown()"
  | emptyUnion how _ => "empty " ++ how.name ++ " combinator, using z.unknown()"
  | skippedMember .. => "skipping non-object allOf member"
  | nothingToMerge _ => "allOf without object members, using z.unknown()"
  | undeclaredParameter .. => "path parameter is not a required input field"
  | compiledOperation .. => "compiled operation"
  | reservedName _ => "operation name is reserved in the generated module, skipping it"
  | duplicateName _ => "duplicate operation identifier, keeping the later definition"
  | emittedModule .. => "emitted client module"
  | failedAttempt url message attempt delay =>
    "Introspection request to " ++ url ++ " failed (" ++ message ++ "), retry " ++
      toString attempt ++ " after " ++ delay
  | fetchedPayload _ => "fetched introspection payload"
  | loadedConfiguration _ => "loaded configuration"
  | unchangedOutput _ => "output unchanged, skipping write"
  | wroteModule .. => "wrote client module"

def fields : Diagnostic → List (String × FieldValue)
  | unknownShape hint | emptyEnumeration hint | emptyUnion _ hint | nothingToMerge hint =>
    [("hint", .text hint)]
  | skippedMember hint index => [("hint", .text hint), ("index", .count index)]
  | undeclaredParameter operation path parameter =>
    [("operation", .text operation), ("path", .text path), ("param", .text parameter)]
  | compiledOperation operation verb path parameters includesBody =>
    [("operation", .text operation), ("verb", .text verb.name), ("path", .text path),
      ("params", .count parameters), ("includes_body", .flag includesBody)]
  | reservedName identifier | duplicateName identifier => [("identifier", .text identifier)]
  | emittedModule operations bytes => [("operations", .count operations), ("bytes", .count bytes)]
  | failedAttempt .. => []
  | fetchedPayload operations => [("operations", .count operations)]
  | loadedConfiguration path | unchangedOutput path => [("path", .text path)]
  | wroteModule path operations => [("path", .text path), ("operations", .count operations)]

def isWarning (d : Diagnostic) : Bool := d.level == .warn

end Diagnostic

/-- A result with the diagnostics reported on the way to it, in order. -/
structure Traced (α : Type) where
  result : α
  diagnostics : List Diagnostic
  deriving Inhabited

namespace Traced

def pure (result : α) : Traced α := ⟨result, []⟩

/-- Go on from a result; the diagnostics of both parts follow each other. -/
def bind (first : Traced α) (next : α → Traced β) : Traced β :=
  ⟨(next first.result).result, first.diagnostics ++ (next first.result).diagnostics⟩

instance : Monad Traced where
  pure := pure
  bind := bind

def report (d : Diagnostic) : Traced Unit := ⟨(), [d]⟩

@[simp] theorem pure_result (a : α) : (Pure.pure a : Traced α).result = a := rfl

@[simp] theorem pure_diagnostics (a : α) : (Pure.pure a : Traced α).diagnostics = [] := rfl

@[simp] theorem bind_result (first : Traced α) (next : α → Traced β) :
    (first >>= next).result = (next first.result).result := rfl

@[simp] theorem bind_diagnostics (first : Traced α) (next : α → Traced β) :
    (first >>= next).diagnostics = first.diagnostics ++ (next first.result).diagnostics := rfl

@[simp] theorem map_result (f : α → β) (first : Traced α) :
    (f <$> first).result = f first.result := rfl

@[simp] theorem map_diagnostics (f : α → β) (first : Traced α) :
    (f <$> first).diagnostics = first.diagnostics := by
  change first.diagnostics ++ [] = _
  simp

@[simp] theorem report_diagnostics (d : Diagnostic) : (report d).diagnostics = [d] := rfl

end Traced

end ClientGen
