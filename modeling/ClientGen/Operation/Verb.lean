/-!
The verbs of remote operations.
-/
namespace ClientGen

inductive Verb where
  | get
  | post
  | put
  | patch
  | delete
  | head
  | options
  deriving DecidableEq, Repr, Inhabited

namespace Verb

def all : List Verb := [.get, .post, .put, .patch, .delete, .head, .options]

def name : Verb → String
  | .get => "GET"
  | .post => "POST"
  | .put => "PUT"
  | .patch => "PATCH"
  | .delete => "DELETE"
  | .head => "HEAD"
  | .options => "OPTIONS"

/-- The verb with a name, whatever the case of its ASCII letters. -/
def ofName? (text : String) : Option Verb :=
  all.find? fun verb => verb.name.toList == text.toList.map Char.toUpper

def sendsBody : Verb → Bool
  | .get | .head => false
  | _ => true

end Verb

end ClientGen
