import ClientGen.CommandLine.Run
import ClientGen.Http.Request
import Std.Time.DateTime.Timestamp

/-!
The command line program: plans are carried out on the machine. There is no network behind it, so a
service can never be reached, and a configuration needs a file with the operations.
-/
namespace ClientGen.Program
open Files

/-- The number and the words that the system gives for an error. -/
def systemError : IO.Error → UInt32 × String
  | .alreadyExists _ code details | .interrupted _ code details | .noFileOrDirectory _ code details
  | .invalidArgument _ code details | .permissionDenied _ code details
  | .resourceExhausted _ code details | .inappropriateType _ code details
  | .noSuchThing _ code details | .otherError code details | .resourceBusy code details
  | .resourceVanished code details | .unsupportedOperation code details
  | .hardwareFault code details | .unsatisfiedConstraints code details
  | .illegalOperation code details | .protocolError code details | .timeExpired code details =>
    (code, details)
  | .unexpectedEof => (0, "unexpected end of file")
  | .userError message => (0, message)

/-- The number of an error counted upward; some come counted downward from zero. -/
def errorNumber (code : UInt32) : UInt32 := if code ≤ 0x7FFFFFFF then code else 0 - code

/-- The fault that the system reports. -/
def faultOf (error : IO.Error) : Fault :=
  let (code, details) := systemError error
  match errorNumber code with
  | 2 => .missing
  | 16 => .busy
  | 17 => .exists
  | 20 => .notDirectory
  | 21 => .isDirectory
  | 36 => .nameTooLong
  | number => .other (details ++ " (os error " ++ toString number ++ ")")

/-- Do something with files. -/
def attempt (action : IO α) : IO (Except Fault α) := do
  match ← action.toBaseIO with
  | .ok result => return .ok result
  | .error error => return .error (faultOf error)

/-- Do something with a path that has no NUL character. -/
def withPath (path : FilePath) (action : IO α) : IO (Except Fault α) :=
  if path.text.toList.contains '\x00' then return .error .nulInPath else attempt action

/-- Write at the end of a file. -/
def appendBytes (path : FilePath) (bytes : ByteArray) : IO Unit := do
  let handle ← IO.FS.Handle.mk path.text .append
  handle.write bytes
  handle.flush

/-- The least serious level that is shown. -/
def isShown (verbosity : Nat) : Level → Bool
  | .warn => true
  | .info => 1 ≤ verbosity
  | .debug => 2 ≤ verbosity
  | .trace => 3 ≤ verbosity

def levelName : Level → String
  | .trace => "TRACE"
  | .debug => "DEBUG"
  | .info => "INFO"
  | .warn => "WARN"

def fieldText (field : String × FieldValue) : String :=
  " " ++ field.1 ++ "=" ++
    match field.2 with
    | .text s => s
    | .count n => toString n
    | .flag b => toString b

def diagnosticLine (d : Diagnostic) : String :=
  levelName d.level ++ " " ++ d.message ++ String.join (d.fields.map fieldText)

/-- Answer a request. A file that has been written to is flushed already when it is to be stored. -/
def answer (verbosity : Nat) : (r : Request) → IO r.Answer
  | .readFile path => withPath path (IO.FS.readBinFile path.text)
  | .isDirectory path => do return path.text ≠ "" && (← ((← IO.currentDir) / path.text).isDir)
  | .isFile path => do
    let place := (← IO.currentDir) / path.text
    return path.text ≠ "" && (← place.pathExists) && !(← place.isDir)
  | .makeDirectory path => withPath path (IO.FS.createDir path.text)
  | .createFile path => withPath path (do let _ ← IO.FS.Handle.mk path.text .write)
  | .appendFile path bytes => withPath path (appendBytes path bytes)
  | .syncFile _ => return .ok ()
  | .rename source target => withPath target (IO.FS.rename source.text target.text)
  | .remove path => withPath path (IO.FS.removeFile path.text)
  | .send url headers => return Http.offline url headers
  | .wait seconds => IO.sleep (1000 * seconds.toUInt32)
  | .report d => if isShown verbosity d.level then IO.eprintln (diagnosticLine d) else return ()

/-- Carry out a plan. -/
def perform (verbosity : Nat) : Plan α → IO α
  | .done result => return result
  | .ask request next => do perform verbosity (next (← answer verbosity request))

/-- The seconds since 1970. -/
def now : IO Int := do return (← Std.Time.Timestamp.now).toSecondsSinceUnixEpoch.val

/-- How many seconds pass between two runs while watching. -/
def watchSeconds : UInt32 := 2

/-- Generate again and again. -/
partial def watch (verbosity : Nat) (config : Config) : IO UInt32 := do
  let (output, complaint) ← perform verbosity (CommandLine.generateWatching config (← now))
  IO.print output
  (← IO.getStdout).flush
  IO.eprint complaint
  IO.sleep (1000 * watchSeconds)
  watch verbosity config

def finish (outcome : CommandLine.Outcome) : IO UInt32 := do
  IO.print outcome.output
  IO.eprint outcome.complaint
  return outcome.code

def run (arguments : List String) : IO UInt32 := do
  let verbosity := ((CommandLine.Arguments.read arguments).map (·.verbosity)).toOption.getD 0
  match ← perform verbosity (CommandLine.start arguments ⟨(← IO.currentDir).toString⟩) with
  | .ended outcome => finish outcome
  | .once config => finish (← perform verbosity (CommandLine.generateOnce config (← now)))
  | .watching config => watch verbosity config

end ClientGen.Program

/-- Run the program. -/
def main (arguments : List String) : IO UInt32 := ClientGen.Program.run arguments
