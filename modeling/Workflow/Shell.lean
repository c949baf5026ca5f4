import Workflow.Schedule.Host
import Workflow.Shell.Eval

/-!
# Starting programs

A program is started with arguments, variables and something to read. It ends with a status or by a
signal, and leaves what it printed. The programs that can be started are the shell and its tools;
other files are not programs.
-/

namespace Workflow.Shell

/-- Why a program cannot be started. -/
inductive Refusal where
  | missing
  | notPermitted
  | notDirectory
  | hasNul
deriving DecidableEq, Inhabited

def Refusal.message : Refusal → String
  | .missing => "No such file or directory (os error 2)"
  | .notPermitted => "Permission denied (os error 13)"
  | .notDirectory => "Not a directory (os error 20)"
  | .hasNul => "nul byte found in provided data"

/-- How a program ends. -/
inductive End where
  | status (number : Nat)
  | signal (number : Nat)
deriving DecidableEq, Inhabited

namespace End

/-- Whether a program succeeded. -/
def isSuccess : End → Bool
  | .status number => number == 0
  | .signal _ => false

def shown : End → String
  | .status number => "exit status: " ++ Decimal.natText number
  | .signal number =>
    let name := (signals.lookup number).map fun name => " (SIG" ++ name ++ ")"
    "signal: " ++ Decimal.natText number ++ name.getD ""

end End

/-- What a program leaves. -/
structure Remains where
  stop : End
  output : List UInt8
  errors : List UInt8
deriving Inhabited

/-- How many steps a script may take. -/
def maxSteps : Nat := 1000000000

/-- The milliseconds that it takes to start a program. -/
def startTime : Nat := 2

/-- The program of a name or path. The shell and its tools lie in two directories. -/
def program? (files : Files) (name : String) : Except Refusal (List String → Effect Unit) :=
  let plain := plainName name
  if plain.contains '/' then
    match files.find name with
    | .nothing => .error .missing
    | .vacant _ => .error .missing
    | .blocked => .error .notDirectory
    | _ => .error .notPermitted
  else if plain = "." || plain = ".." then .error .notPermitted
  else if plain = "sh" then .ok (runShell maxSteps name)
  else
    match Tool.find? plain with
    | some tool => .ok fun arguments => do Effect.setStatus (← tool arguments)
    | none => .error .missing

/-- Starts a program in a working directory, with variables and bytes to read. -/
def start (name : String) (arguments : List String) (bindings : List (String × String))
    (input : List UInt8) (files : Files) : Except Refusal (Step Remains) := do
  let hasNul (text : String) : Bool := text.contains '\x00'
  if hasNul name || arguments.any hasNul then throw .hasNul
  let program ← program? files name
  let session : Session :=
    { files, bindings, sources := [(0, input)], sinks := [(1, []), (2, [])], fresh := 3
      channels := [(0, .source 0), (1, .sink 1), (2, .sink 2)] }
  let run : Effect Remains := do
    Effect.pause startTime
    program arguments
    let session ← Effect.session
    let stop := match session.signal with
      | some number => End.signal number
      | none => .status session.status
    return { stop, output := session.written 1, errors := session.written 2 }
  return run session

/-- What is left to do of a call that a program handles. -/
def Step.activity {α : Type} (result : α → Except Failure Json) :
    Step α → Activity Files × Files
  | .done value session => (.finished (result value), session.files)
  | .pause milliseconds files next =>
    (.pause milliseconds fun files => (next files).activity result, files)

end Workflow.Shell
