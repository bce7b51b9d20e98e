import ClientGen.Attempt
import ClientGen.Json.Reader

/-!
Taking operations from where they are described: a file, or a service that is asked again a limited
number of times when it gives no answer. An answer that is no payload is not asked for again.
-/
namespace ClientGen.Introspection
open Files

/-- How often a service is asked, and how long to wait in between. Only waits of whole seconds are
covered, as the standard one is: a shorter wait is written in another unit. -/
structure RetryPolicy where
  maxAttempts : Nat
  delaySeconds : Nat
  deriving DecidableEq, Repr

namespace RetryPolicy

/-- Three attempts, a second apart. -/
def standard : RetryPolicy := ⟨3, 1⟩

/-- How many attempts are made: at least one. -/
def attempts (policy : RetryPolicy) : Nat := max policy.maxAttempts 1

def delayText (policy : RetryPolicy) : String :=
  if policy.delaySeconds = 0 then "0ns" else toString policy.delaySeconds ++ "s"

end RetryPolicy

/-- The operations of a payload in JSON. -/
def operationsOfText (text : String) : Except Error (List Operation) := do
  let payload ← (Json.parse text).mapError .json
  (Operation.ofPayload payload).mapError .payload

/-- Ask a service, for the given time and up to as many times again as `left` says. Each failure
that is not the last is reported. -/
def askFrom (policy : RetryPolicy) (headers : List (String × String)) (url : String)
    (attempt : Nat) : Nat → Attempt String
  | 0 => do
    match ← Attempt.request (.send url headers) with
    | .ok body => return body
    | .error message => throw (.transport url attempt message)
  | left + 1 => do
    match ← Attempt.request (.send url headers) with
    | .ok body => return body
    | .error message =>
      Attempt.report (.failedAttempt url message attempt policy.delayText)
      Attempt.request (.wait policy.delaySeconds)
      askFrom policy headers url (attempt + 1) left

/-- Ask a service for its answer. -/
def ask (policy : RetryPolicy) (headers : List (String × String)) (url : String) : Attempt String :=
  askFrom policy headers url 1 (policy.attempts - 1)

/-- The operations that a service describes. -/
def fetch (policy : RetryPolicy) (headers : List (String × String)) (url : String) :
    Attempt (List Operation) := do
  let text ← ask policy headers url
  let operations ← Attempt.ofExcept id (operationsOfText text)
  Attempt.report (.fetchedPayload operations.length)
  return operations

def loadFile (path : FilePath) : Attempt (List Operation) := do
  let text ← Attempt.readText path
  Attempt.ofExcept id (operationsOfText text)

end ClientGen.Introspection
