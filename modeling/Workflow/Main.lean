import Std.Time.DateTime.Timestamp
import Workflow.Command.Run

/-!
# Entry point

Gathers what a command needs, which is the environment, the files that it names, the time and random
bytes, and prints what comes of it. The programs that handle resources are those of the library's
own shell.
-/

namespace Workflow.Main

/-- The variables of the environment that commands look at. -/
def variableNames : List String :=
  ["STATELANG_RESOURCES", "STATELANG_CONFIG", "STATELANG_CONFIG_DIR"]

def readEnvironment : IO Command.Environment :=
  variableNames.filterMapM fun name => do
    return (← IO.getEnv name).map fun value => (name, value)

def namedPaths : Command.Order → List String
  | .validate definition => [definition]
  | .run order =>
    let input := match order.input with
      | .file path => [path]
      | _ => []
    order.definition :: (input ++ order.resources.toList ++ order.config.toList)

/-- Adds a file that lies at one path as if it lay at another, if it can be read. -/
def addFile (files : Files) (source target : String) : IO Files := do
  try
    return files.add target (← IO.FS.readFile source)
  catch _ => return files

/-- Reads the files that a command names, and the user's own settings. -/
def readFiles (environment : Command.Environment) (order : Command.Order) : IO Files := do
  let files ← (namedPaths order).foldlM (fun files path => addFile files path path) {}
  let target := Command.defaultConfigPath environment
  let home ← IO.getEnv "HOME"
  let source := match environment.lookup "STATELANG_CONFIG_DIR", home with
    | none, some home => Command.joined home target
    | _, _ => target
  addFile files source target

def readTime : IO Instant := do
  let now ← Std.Time.Timestamp.now
  let nanos := now.toNanosecondsSinceUnixEpoch.val
  return ⟨nanos / 1000000000, (nanos % 1000000000).toNat⟩

/-- A source with a random seed. -/
def readSource : IO Random.Source := do
  let bytes ← IO.getRandomBytes 8
  return .ofSeed (bytes.toList.foldl (fun seed byte => seed * 256 + byte.toUInt64) 0)

/-- How command lines are written. -/
def usage : String :=
  "Usage: statelang [--json] [--quiet] [-v] run DEFINITION [--input TEXT | --input-file FILE]\n" ++
  "         [--resources FILE] [--config FILE] [--skip-waits]\n" ++
  "       statelang [--json] [--quiet] [-v] validate DEFINITION"

/-- Prints a trouble with its cause. -/
def printTrouble (trouble : Command.Trouble) : IO Unit := do
  IO.eprintln ("Error: " ++ trouble.message)
  match trouble.cause with
  | .none => return
  | .reading => IO.eprintln "\nCaused by:\n    it cannot be read"
  | .definition error => IO.eprintln ("\nCaused by:\n    " ++ error.message)

end Workflow.Main

open Workflow in
/-- Does what a command line asks for. The status is zero when all went well. -/
def main (arguments : List String) : IO UInt32 := do
  let environment ← Main.readEnvironment
  match Command.Invocation.parse? environment arguments with
  | none =>
    IO.eprintln Main.usage
    return 2
  | some invocation =>
    let files ← Main.readFiles environment invocation.order
    match Command.execute environment files (← Main.readTime) (← Main.readSource) invocation with
    | .ok report =>
      IO.eprint report.errors
      IO.print report.output
      return if report.succeeded then 0 else 1
    | .error trouble =>
      Main.printTrouble trouble
      return 1
