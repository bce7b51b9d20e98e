import ClientGen.Files.System
import ClientGen.Plan

/-!
A model of the surroundings of a run: a file system, a network whose answers are given, and the
diagnostics reported so far. Running a plan against it is a function.
-/
namespace ClientGen
open Files

/-- The answer to the n-th request that is sent, counted from zero, by its URL and headers. -/
abbrev Network := Nat → String → List (String × String) → Except String String

structure Host where
  files : FileSystem
  network : Network
  /-- How many requests have been sent. -/
  sent : Nat
  diagnostics : List Diagnostic

namespace Host

/-- Change the files, or leave them as they are when that fails. -/
def change (host : Host) (changed : Except Fault FileSystem) : Except Fault Unit × Host :=
  match changed with
  | .ok files => (.ok (), { host with files })
  | .error fault => (.error fault, host)

def answer : (r : Request) → Host → r.Answer × Host
  | .readFile path, host => (host.files.read path, host)
  | .isDirectory path, host => (host.files.isDirectory path, host)
  | .isFile path, host => (host.files.isFile path, host)
  | .makeDirectory path, host => host.change (host.files.makeDirectory path)
  | .createFile path, host => host.change (host.files.createFile path)
  | .appendFile path bytes, host => host.change (host.files.appendFile path bytes)
  | .syncFile path, host => host.change (host.files.syncFile path)
  | .rename source target, host => host.change (host.files.rename source target)
  | .remove path, host => host.change (host.files.remove path)
  | .send url headers, host =>
    (host.network host.sent url headers, { host with sent := host.sent + 1 })
  | .wait _, host => ((), host)
  | .report diagnostic, host => ((), { host with diagnostics := host.diagnostics ++ [diagnostic] })

def run (host : Host) (plan : Plan α) : α × Host := Plan.run answer plan host

end Host

end ClientGen
