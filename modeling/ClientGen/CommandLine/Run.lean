import ClientGen.CommandLine.Arguments
import ClientGen.Config.Load
import ClientGen.Generate

/-!
Runs of the command line: what is printed and how the process ends. A run generates once, or watches
and generates again and again; while it watches, a failure is reported and does not end it.
-/
namespace ClientGen.CommandLine
open Files

/-- What a process has printed, on its output and on its error output, and the code it ends with. -/
structure Outcome where
  code : UInt32
  output : String
  complaint : String
  deriving DecidableEq, Repr

/-- The line that tells the version. -/
def versionText : String := "routegen 0.1.0\n"

/-- How to call the program. -/
def usageText : String := "Usage: routegen [OPTIONS]\n"

def helpText : String := String.join [
  "Generate typed zod/TypeScript clients from RPC introspection data\n\n",
  usageText, "\n",
  "Options:\n",
  "  -c, --config <PATH>  Path to the config file ",
  "(defaults to routegen.config.json or routegen.toml)\n",
  "  -w, --watch          Keep running and regenerate whenever the introspection data changes\n",
  "  -v, --verbose...     Increase verbosity ",
  "(-v INFO, -vv DEBUG, -vvv TRACE, -vvvv TRACE with file/line)\n",
  "  -h, --help           Print help\n",
  "  -V, --version        Print version\n"]

/-- The outcome of arguments that end the run before it starts. -/
def Stop.outcome : Stop → Outcome
  | .help => ⟨0, helpText, ""⟩
  | .version => ⟨0, versionText, ""⟩
  | .misuse reason => ⟨2, "", "error: " ++ reason.message ++ "\n\n" ++ usageText⟩

def failure (error : Error) : Outcome := ⟨1, "", "Error: " ++ error.message ++ "\n"⟩

/-- Find and load the configuration of a run. -/
def configure (args : Arguments) (workingDirectory : FilePath) : Attempt Config := do
  Config.load (← Config.discover args.config workingDirectory)

/-- What a run that generates once prints. -/
def doneText (report : Report) : String :=
  if report.isWritten then
    "Generated " ++ toString report.operations ++ " operation(s) into " ++ report.path.text ++ "\n"
  else report.path.text ++ " is up to date\n"

/-- Generate once with a loaded configuration. -/
def generateOnce (config : Config) (seconds : Int) : Plan Outcome := do
  match ← (generate .standard config seconds).run with
  | .ok report => return ⟨0, doneText report, ""⟩
  | .error error => return failure error

/-- Generate while watching: what is printed, on the output and on the error output. -/
def generateWatching (config : Config) (seconds : Int) : Plan (String × String) := do
  match ← (generate .standard config seconds).run with
  | .ok report =>
    if report.isWritten then
      return ("Regenerated " ++ toString report.operations ++ " operation(s) into " ++
        report.path.text ++ "\n", "")
    else return ("", "")
  | .error error => return ("", "Generation failed: " ++ error.message ++ "\n")

/-- How a run goes on once its configuration is loaded. -/
inductive Start where
  | ended (outcome : Outcome)
  | once (config : Config)
  | watching (config : Config)

/-- Read the arguments and load the configuration. -/
def start (arguments : List String) (workingDirectory : FilePath) : Plan Start :=
  match Arguments.read arguments with
  | .error stop => return .ended stop.outcome
  | .ok args => do
    match ← (configure args workingDirectory).run with
    | .error error => return .ended (failure error)
    | .ok config => return if args.isWatching then .watching config else .once config

end ClientGen.CommandLine
