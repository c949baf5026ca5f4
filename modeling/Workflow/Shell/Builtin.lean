import Workflow.Shell.Field
import Workflow.Shell.Session
import Workflow.Shell.Signal

/-!
# Commands of the shell itself

Commands that change the session, and how commands make the ones around them go on.
-/

namespace Workflow.Shell

/-- How the commands around a command go on. -/
inductive Flow where
  | next
  /-- The script ends. -/
  | over
  /-- The function ends. -/
  | returned
  /-- So many loops end. -/
  | broken (loops : Nat)
  /-- So many loops but one end, and the last goes on with its next round. -/
  | skipped (loops : Nat)
deriving DecidableEq, Inhabited

/-- Ends with a status. -/
def finish (status : Nat) (flow : Flow) : Effect Flow := do
  Effect.setStatus status
  return flow

/-- Reads a line into variables. -/
def readInto (arguments : List String) : Effect Nat := do
  let (keeps, names) := match arguments with
    | "-r" :: names => (true, names)
    | names => (false, names)
  if names.isEmpty then
    Effect.complain "read: arg count"
    return 2
  let (line, ended) ← Effect.readLine
  let text := (Encoding.shown line).toList
  let text := if keeps then text else withoutBackslashes text
  Effect.modify fun session =>
    (splitFor names text).foldl (fun session (name, value) => session.assign name value) session
  return if ended then 0 else 1

/-- Sends a signal. -/
def kill (arguments : List String) : Effect Nat := do
  let session ← Effect.session
  match signalled? arguments with
  | none =>
    let letter := ((arguments.headD "").toList.getD 1 '-')
    Effect.complain ("kill: Illegal option -" ++ String.singleton letter)
    return 2
  | some (number, receivers) =>
    if receivers.any fun receiver => receiver.toNat? == some session.identity then
      if number != 0 then Effect.modify fun session => { session with signal := some number }
      return 0
    else
      Effect.complain "kill: No such process\n"
      return 1

/-- Sets variables from texts that are assignments. -/
def declare (arguments : List String) : Effect Nat := do
  arguments.forM fun argument =>
    let name := argument.toList.takeWhile fun c => c != '='
    match argument.toList.drop name.length with
    | [] => pure ()
    | _ :: value =>
      Effect.modify fun session => session.assign (String.ofList name) (String.ofList value)
  return 0

/-- A number that may be given to a command, else another one. -/
def countOr (initial : Nat) (arguments : List String) : Nat :=
  ((arguments.head?.bind String.toNat?)).getD initial

/-- Ends a script or a function, with the status of the last command unless one is given. -/
def leave (arguments : List String) (flow : Flow) (status : Nat) : Effect Flow := do
  match arguments with
  | [] => finish status flow
  | argument :: _ =>
    match argument.toNat? with
    | some status => finish (status % 256) flow
    | none =>
      let name := if flow == .over then "exit" else "return"
      Effect.complain (name ++ ": Illegal number: " ++ argument)
      finish 2 .over

end Workflow.Shell
