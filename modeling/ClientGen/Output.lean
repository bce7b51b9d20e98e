import ClientGen.Attempt
import ClientGen.Module.Timestamp

/-!
Writing modules to files. A module is staged in a hidden file beside its target, stored, and moved
over the target in one step, so a reader finds the old module or the new one. When a step fails the
staged file is removed again. A file that holds the same module already, stamps apart, is left
alone.
-/
namespace ClientGen.Output
open Files

/-- Make a directory, given as a path and the ones it lies in, from the inside out. The outer ones
are made first where they are missing, and one that is there already is no fault. -/
def makeDirectories : List FilePath → Plan (Except Fault Unit)
  | [] => return .error .missing
  | path :: outer => do
    if path.text = "" then return .ok ()
    match ← Plan.request (.makeDirectory path) with
    | .ok () => return .ok ()
    | .error .missing =>
      match ← makeDirectories outer with
      | .error fault => return .error fault
      | .ok () => acceptExisting path (← Plan.request (.makeDirectory path))
    | .error fault => acceptExisting path (.error fault)
where
  /-- A directory that is there already is as good as one that was made. -/
  acceptExisting (path : FilePath) : Except Fault Unit → Plan (Except Fault Unit)
    | .ok () => return .ok ()
    | .error fault => do
      if ← Plan.request (.isDirectory path) then return .ok () else return .error fault

/-- The directory of a target. -/
def directory (target : FilePath) : FilePath :=
  match target.parent? with
  | some outer => if outer.text = "" then ⟨"."⟩ else outer
  | none => ⟨"."⟩

/-- The hidden file beside a target in which its content is staged. -/
def staging (target : FilePath) : FilePath :=
  target.withFileName ("." ++ target.fileName?.getD "" ++ ".routegen-tmp")

/-- Write pieces of content at the end of a file, one after the other. -/
def appendAll (path : FilePath) : List ByteArray → Plan (Except Fault Unit)
  | [] => return .ok ()
  | piece :: rest => do
    match ← Plan.request (.appendFile path piece) with
    | .ok () => appendAll path rest
    | .error fault => return .error fault

/-- Fill a file with content and store it. -/
def fill (path : FilePath) (pieces : List ByteArray) : Plan (Except Fault Unit) := do
  match ← Plan.request (.createFile path) with
  | .error fault => return .error fault
  | .ok () =>
    match ← appendAll path pieces with
    | .error fault => return .error fault
    | .ok () => Plan.request (.syncFile path)

def stageAndMove (target : FilePath) (pieces : List ByteArray) : Plan (Except Error Unit) := do
  match ← fill (staging target) pieces with
  | .error fault => return .error (.write (staging target) fault)
  | .ok () =>
    match ← Plan.request (.rename (staging target) target) with
    | .error fault => return .error (.write target fault)
    | .ok () => return .ok ()

/-- Replace the content of a target, which is given in pieces, in one step. -/
def replacePieces (target : FilePath) (pieces : List ByteArray) : Plan (Except Error Unit) := do
  match ← makeDirectories (directory target).ancestors with
  | .error fault => return .error (.write (directory target) fault)
  | .ok () =>
    match ← stageAndMove target pieces with
    | .ok () => return .ok ()
    | .error error =>
      let _ ← Plan.request (.remove (staging target))
      return .error error

/-- Replace the content of a target in one step. -/
def replace (target : FilePath) (content : String) : Attempt Unit :=
  ExceptT.mk (replacePieces target [content.toUTF8])

/-- Whether bytes are a text with the same content, stamps apart. -/
def holds (bytes : Except Fault ByteArray) (content : String) : Bool :=
  match bytes with
  | .ok bytes => (String.fromUTF8? bytes).any (Module.sameContent · content)
  | .error _ => false

/-- Replace the content of a target unless it holds the same content already. Gives whether it was
replaced. -/
def replaceIfChanged (target : FilePath) (content : String) : Attempt Bool := do
  if holds (← Attempt.request (.readFile target)) content then
    Attempt.report (.unchangedOutput target.text)
    return false
  else
    replace target content
    return true

end ClientGen.Output
