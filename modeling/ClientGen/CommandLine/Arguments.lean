import ClientGen.Files.FilePath

/-!
Arguments of the command line. Options are read from left to right and the first one that ends the
run decides: asking for help or the version, or a fault. Letters of options without values can stand
together behind one hyphen.
-/
namespace ClientGen.CommandLine
open Files

/-- What is asked for. -/
structure Arguments where
  /-- The configuration to use instead of the one of the working directory. -/
  config : Option FilePath
  /-- Whether to go on and generate again and again. -/
  isWatching : Bool
  /-- How much to report. -/
  verbosity : Nat
  deriving DecidableEq, Repr

/-- What can be wrong with arguments. -/
inductive Misuse where
  | unexpected (argument : String)
  | missingValue (option : String)
  | unneededValue (option : String)
  | repeated (option : String)
  deriving DecidableEq, Repr

def Misuse.message : Misuse → String
  | .unexpected argument => "unexpected argument '" ++ argument ++ "' found"
  | .missingValue option => "a value is required for '" ++ option ++ "' but none was supplied"
  | .unneededValue option => "unexpected value for '" ++ option ++ "' found; no more were expected"
  | .repeated option => "the argument '" ++ option ++ "' cannot be used multiple times"

/-- What ends the reading of arguments early. -/
inductive Stop where
  | help
  | version
  | misuse (reason : Misuse)
  deriving DecidableEq, Repr

namespace Arguments

/-- Nothing asked for. -/
def none : Arguments := ⟨.none, false, 0⟩

/-- Take the path of a configuration, which is given once and not empty. -/
def takeConfig (args : Arguments) (value : String) : Except Stop Arguments :=
  if value = "" then .error (.misuse (.missingValue "--config <PATH>"))
  else if args.config.isSome then .error (.misuse (.repeated "--config <PATH>"))
  else .ok { args with config := some ⟨value⟩ }

/-- Take the wish to watch, which is given once. -/
def takeWatch (args : Arguments) : Except Stop Arguments :=
  if args.isWatching then .error (.misuse (.repeated "--watch"))
  else .ok { args with isWatching := true }

/-- Take a wish for more reports. -/
def takeVerbose (args : Arguments) : Arguments := { args with verbosity := args.verbosity + 1 }

/-- What an argument with options leaves to read: nothing, or the value of its last option. -/
inductive Need where
  | nothing
  | path
  deriving DecidableEq, Repr

/-- Read the letters behind a single hyphen. -/
def readLetters (args : Arguments) : List Char → Except Stop (Arguments × Need)
  | [] => .ok (args, .nothing)
  | 'c' :: [] => .ok (args, .path)
  | 'c' :: '=' :: value => do return (← args.takeConfig (String.ofList value), .nothing)
  | 'c' :: value => do return (← args.takeConfig (String.ofList value), .nothing)
  | 'w' :: rest => do readLetters (← args.takeWatch) rest
  | 'v' :: rest => readLetters args.takeVerbose rest
  | 'h' :: _ => .error .help
  | 'V' :: _ => .error .version
  | other :: _ => .error (.misuse (.unexpected (String.ofList ['-', other])))

/-- Read the word behind two hyphens, and the value that may stand behind an equals sign. -/
def readWord (args : Arguments) (word : String) (value : Option String) :
    Except Stop (Arguments × Need) :=
  match word, value with
  | "config", some value => do return (← args.takeConfig value, .nothing)
  | "config", .none => .ok (args, .path)
  | "watch", .none => do return (← args.takeWatch, .nothing)
  | "verbose", .none => .ok (args.takeVerbose, .nothing)
  | "help", .none => .error .help
  | "version", .none => .error .version
  | word, some _ =>
    if word ∈ ["watch", "verbose", "help", "version"] then
      .error (.misuse (.unneededValue ("--" ++ word)))
    else .error (.misuse (.unexpected ("--" ++ word)))
  | word, .none => .error (.misuse (.unexpected ("--" ++ word)))

/-- Whether an argument holds options. A lone hyphen does not. -/
def isOption (argument : String) : Bool :=
  match argument.toList with
  | '-' :: _ :: _ => true
  | _ => false

/-- Read an argument, which is taken only if it holds options. -/
def readOption (args : Arguments) (argument : String) : Except Stop (Arguments × Need) :=
  match argument.toList with
  | '-' :: '-' :: rest =>
    let word := String.ofList (rest.takeWhile (· != '='))
    match rest.dropWhile (· != '=') with
    | [] => args.readWord word .none
    | _ :: value => args.readWord word (some (String.ofList value))
  | '-' :: first :: letters => args.readLetters (first :: letters)
  | _ => .error (.misuse (.unexpected argument))

/-- Read arguments. Behind two hyphens alone nothing is an option, and nothing but options is
taken. -/
def readFrom (args : Arguments) : List String → Except Stop Arguments
  | [] => .ok args
  | argument :: rest =>
    if argument = "--" then
      match rest with
      | [] => .ok args
      | extra :: _ => .error (.misuse (.unexpected extra))
    else
      match args.readOption argument with
      | .error stop => .error stop
      | .ok (args, .nothing) => readFrom args rest
      | .ok (args, .path) =>
        match rest with
        | [] => .error (.misuse (.missingValue "--config <PATH>"))
        | value :: rest =>
          if isOption value then .error (.misuse (.missingValue "--config <PATH>"))
          else
            match args.takeConfig value with
            | .error stop => .error stop
            | .ok args => readFrom args rest

def read (arguments : List String) : Except Stop Arguments := readFrom none arguments

end Arguments

end ClientGen.CommandLine
