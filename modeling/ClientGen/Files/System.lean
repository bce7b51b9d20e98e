import ClientGen.Files.Fault
import ClientGen.Files.FilePath
import ClientGen.Ordered

/-!
A file system: files and directories at locations, and a directory that relative paths start from.
A path is followed name by name; every name but the last must lead to a directory. An operation that
fails changes nothing.

These are trees of plain files and directories. There are no links, so every entry has one location,
and no owners or modes, except that a directory can be sealed. A statement about all states of a
file system is about these states.
-/
namespace ClientGen.Files

inductive Entry where
  | file (bytes : ByteArray)
  | directory
  /-- A directory in which nothing can be made. -/
  | sealedDirectory

def Entry.isDirectory : Entry → Bool
  | .file _ => false
  | _ => true

/-- Whether an entry is a directory in which nothing can be made. -/
def Entry.isSealed : Entry → Bool
  | .sealedDirectory => true
  | _ => false

/-- The names that lead to an entry, the last one first. -/
abbrev Location := List String

structure FileSystem where
  entries : List (Location × Entry)
  workingDirectory : Location

namespace FileSystem

/-- What stands at a location. The root is always a directory. -/
def at? (fs : FileSystem) : Location → Option Entry
  | [] => some .directory
  | name :: outer => fs.entries.lookup (name :: outer)

def put (fs : FileSystem) (location : Location) (entry : Entry) : FileSystem :=
  { fs with entries := Ordered.insert location entry fs.entries }

def clear (fs : FileSystem) (location : Location) : FileSystem :=
  { fs with entries := Ordered.erase location fs.entries }

def maxNameBytes : Nat := 255

def maxPathBytes : Nat := 4095

def checkText (p : FilePath) : Except Fault Unit :=
  if p.text.toList.contains '\x00' then .error .nulInPath
  else if p.text = "" then .error .missing
  else if maxPathBytes < p.text.utf8ByteSize then .error .nameTooLong
  else .ok ()

def checkDirectory (fs : FileSystem) (location : Location) : Except Fault Unit :=
  match fs.at? location with
  | none => .error .missing
  | some entry => if entry.isDirectory then .ok () else .error .notDirectory

/-- Follow names from a location. -/
def walk (fs : FileSystem) (location : Location) : List String → Except Fault Location
  | [] => .ok location
  | name :: rest => do
    fs.checkDirectory location
    if name = "." then fs.walk location rest
    else if name = ".." then fs.walk location.tail rest
    else if maxNameBytes < name.utf8ByteSize then .error .nameTooLong
    else if (fs.at? (name :: location)).isNone then .error .missing
    else fs.walk (name :: location) rest

def start (fs : FileSystem) (p : FilePath) : Location :=
  if p.isAbsolute then [] else fs.workingDirectory

/-- The location that a path leads to. A slash at the end asks for a directory. -/
def locate (fs : FileSystem) (p : FilePath) : Except Fault Location := do
  checkText p
  fs.walk (fs.start p) (p.names ++ if p.endsInSlash then ["."] else [])

/-- The directory that the last name of a path stands in, and this name unless it is a dot or two
or the path is the root. -/
def locateLast (fs : FileSystem) (p : FilePath) : Except Fault (Location × Option String) := do
  checkText p
  match p.names.getLast? with
  | none => return ([], none)
  | some name =>
    let outer ← fs.walk (fs.start p) p.names.dropLast
    fs.checkDirectory outer
    if name = "." ∨ name = ".." then return (outer, none)
    else if maxNameBytes < name.utf8ByteSize then .error .nameTooLong
    else return (outer, some name)

/-- Refuse a directory in which nothing can be made. -/
def checkUnsealed (fs : FileSystem) (location : Location) : Except Fault Unit :=
  if (fs.at? location).any Entry.isSealed then .error .missing else .ok ()

/-- The bytes of a file. -/
def read (fs : FileSystem) (p : FilePath) : Except Fault ByteArray := do
  match fs.at? (← fs.locate p) with
  | none => .error .missing
  | some (.file bytes) => .ok bytes
  | some _ => .error .isDirectory

/-- What a path leads to, if anything. -/
def find? (fs : FileSystem) (p : FilePath) : Option Entry :=
  match fs.locate p with
  | .ok location => fs.at? location
  | .error _ => none

def isDirectory (fs : FileSystem) (p : FilePath) : Bool := (fs.find? p).any Entry.isDirectory

def isFile (fs : FileSystem) (p : FilePath) : Bool := (fs.find? p).any (!·.isDirectory)

def makeDirectory (fs : FileSystem) (p : FilePath) : Except Fault FileSystem := do
  let (outer, last) ← fs.locateLast p
  match last with
  | none => .error .exists
  | some name =>
    if (fs.at? (name :: outer)).isSome then .error .exists
    else
      fs.checkUnsealed outer
      return fs.put (name :: outer) .directory

/-- Make an empty file, or empty one that is there. -/
def createFile (fs : FileSystem) (p : FilePath) : Except Fault FileSystem := do
  let (outer, last) ← fs.locateLast p
  match last with
  | none => .error .isDirectory
  | some name =>
    if p.endsInSlash ∨ (fs.at? (name :: outer)).any Entry.isDirectory then .error .isDirectory
    else
      fs.checkUnsealed outer
      return fs.put (name :: outer) (.file .empty)

/-- Write at the end of a file. -/
def appendFile (fs : FileSystem) (p : FilePath) (bytes : ByteArray) : Except Fault FileSystem := do
  let location ← fs.locate p
  match fs.at? location with
  | none => .error .missing
  | some (.file before) => return fs.put location (.file (before ++ bytes))
  | some _ => .error .isDirectory

/-- Store a file; everything is stored at once. -/
def syncFile (fs : FileSystem) (p : FilePath) : Except Fault FileSystem := do
  let _ ← fs.read p
  return fs

/-- Move a file, also in place of another one. Directories are not moved. -/
def rename (fs : FileSystem) (source target : FilePath) : Except Fault FileSystem := do
  let (sourceOuter, sourceLast) ← fs.locateLast source
  let (targetOuter, targetLast) ← fs.locateLast target
  match sourceLast, targetLast with
  | some sourceName, some targetName =>
    match fs.at? (sourceName :: sourceOuter) with
    | none => .error .missing
    | some (.file bytes) =>
      if source.endsInSlash ∨ target.endsInSlash then .error .notDirectory
      else if (fs.at? (targetName :: targetOuter)).any Entry.isDirectory then .error .isDirectory
      else if targetName :: targetOuter = sourceName :: sourceOuter then .ok fs
      else
        fs.checkUnsealed targetOuter
        return (fs.clear (sourceName :: sourceOuter)).put (targetName :: targetOuter) (.file bytes)
    | some _ => .error .isDirectory
  | _, _ => .error .busy

def remove (fs : FileSystem) (p : FilePath) : Except Fault FileSystem := do
  let (outer, last) ← fs.locateLast p
  match last with
  | none => .error .isDirectory
  | some name =>
    match fs.at? (name :: outer) with
    | none => .error .missing
    | some (.file _) =>
      if p.endsInSlash then .error .notDirectory else return fs.clear (name :: outer)
    | some _ => .error .isDirectory

/-- Everything below the working directory, with the names that lead to it from there. -/
def contents (fs : FileSystem) : List (List String × Entry) :=
  fs.entries.filterMap fun entry =>
    if fs.workingDirectory.isSuffixOf entry.1 ∧ entry.1 ≠ fs.workingDirectory then
      some ((entry.1.take (entry.1.length - fs.workingDirectory.length)).reverse, entry.2)
    else none

@[simp] theorem at?_root (fs : FileSystem) : fs.at? [] = some .directory := rfl

theorem at?_put_self (fs : FileSystem) (name : String) (outer : Location) (entry : Entry) :
    (fs.put (name :: outer) entry).at? (name :: outer) = some entry :=
  Ordered.lookup_insert_self ..

theorem at?_put_of_ne (fs : FileSystem) {location other : Location} (entry : Entry)
    (different : other ≠ location) : (fs.put location entry).at? other = fs.at? other := by
  cases other with
  | nil => rfl
  | cons name outer => exact Ordered.lookup_insert_of_ne entry fs.entries different

theorem at?_clear_self (fs : FileSystem) (name : String) (outer : Location) :
    (fs.clear (name :: outer)).at? (name :: outer) = none :=
  Ordered.lookup_erase_self ..

theorem at?_clear_of_ne (fs : FileSystem) {location other : Location}
    (different : other ≠ location) : (fs.clear location).at? other = fs.at? other := by
  cases other with
  | nil => rfl
  | cons name outer => exact Ordered.lookup_erase_of_ne fs.entries different

end FileSystem

end ClientGen.Files
