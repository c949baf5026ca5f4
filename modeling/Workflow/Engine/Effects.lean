import Workflow.Engine.Frame
import Workflow.Rule.Eval

/-!
# Effects of states

What each attempt of a state does between its input and its output, for the states that hold no
graphs.
-/

namespace Workflow.Engine

/-- One attempt of a state. -/
structure Visit where
  name : String
  common : Common
  /-- The input as the graph passed it on. -/
  raw : Json
  /-- The input as the state narrowed it. -/
  effective : Json
  env : Env
  frame : Frame

/-- What a state leaves behind: its output, the variables, and the state to go on with, if any. -/
structure Ended where
  output : Json
  bindings : Variables
  next : Option String
deriving Inhabited

namespace Visit

/-- The scope of expressions that read the effective input. -/
def scope (visit : Visit) : Scope := visit.env.scope visit.effective

/-- The one of two templates that belongs to the dialect. -/
def template (visit : Visit) (path functional : Option Json) : Option Json :=
  match visit.env.dialect with
  | .path => path
  | .functional => functional

/-- The arguments that the template of the dialect makes. -/
def arguments (visit : Visit) : Action Json :=
  Action.evaluate <| Pipeline.buildArguments
    (visit.template visit.common.parameters visit.common.arguments) visit.effective visit.env

/-- The value of a dynamic field. -/
def resolve {α : Type} (visit : Visit) (expected : Pipeline.Expected α) (field : String)
    (dynamic : Option (Dynamic α)) : Action (Option α) :=
  Action.ofExcept (Pipeline.resolveOptional expected field dynamic visit.scope)

/-- The next state that is declared, none at the end. -/
def declaredNext (visit : Visit) : Except Fault (Option String) :=
  match visit.common.next, visit.common.ends with
  | some next, _ => .ok (some next)
  | none, some true => .ok none
  | none, _ => .error (.malformed (.noTransition visit.name))

/-- Completes the state and goes where it is declared to go. -/
def complete (visit : Visit) (result : Json) : Action Ended := do
  let done ← Action.evaluate (Pipeline.complete visit.common visit.raw result visit.env)
  let next ← Action.ofExcept visit.declaredNext
  return { output := done.output, bindings := done.bindings, next }

/-! ## Task -/

/-- Asks whether the heartbeat of a task is accepted, if it has one. -/
def checkHeartbeat (visit : Visit) (task : Task) : Action Unit := do
  match ← visit.resolve .unsigned "HeartbeatSeconds" task.heartbeat.dynamic with
  | none => return
  | some seconds =>
    if !(← Action.ask (.heartbeat visit.name seconds)) then
      throw <| .reserved .heartbeatTimeout <|
        "heartbeat of " ++ Decimal.natText seconds ++ " seconds rejected for state '" ++
          visit.name ++ "'"

/-- Asks whether the credentials of a task are accepted, if it has any. -/
def checkCredentials (visit : Visit) (task : Task) : Action Unit := do
  match task.credentials with
  | none => return
  | some template =>
    let resolved ← Action.evaluate (visit.env.dialect.expand template visit.scope)
    if !(← Action.ask (.credentials visit.name resolved)) then
      throw (.reserved .permissions ("credentials rejected for state '" ++ visit.name ++ "'"))

/-- Calls the resource of a task. -/
def runTask (visit : Visit) (task : Task) : Action Json := do
  let arguments ← visit.arguments
  visit.checkHeartbeat task
  visit.checkCredentials task
  let timeout ← match task.timeout.dynamic with
    | none => pure visit.env.config.taskTimeout
    | some timeout => visit.resolve .unsigned "TimeoutSeconds" (some timeout)
  invoke task.resource arguments timeout

/-! ## Pass, Wait and Fail -/

/-- The result of a Pass: the one it declares, else its arguments. -/
def passResult (visit : Visit) (result : Option Json) : Action Json := do
  let arguments ← match visit.env.dialect with
    | .path => visit.arguments
    | .functional => pure visit.effective
  return result.getD arguments

/-- The end of a wait that starts at a time, and its seconds if it is given in seconds. -/
def waitEnd (visit : Visit) (now : Instant) (seconds : Setting Nat) (timestamp : TextSetting) :
    Action (Instant × Option Nat) := do
  match ← visit.resolve .unsigned "Seconds" seconds.dynamic with
  | some seconds =>
    match now.addSeconds? seconds with
    | some stop => return (stop, some seconds)
    | none =>
      throw <| .reserved .runtime <|
        "Seconds value " ++ Decimal.natText seconds ++ " is out of range"
  | none =>
    match ← visit.resolve .text "Timestamp" timestamp.dynamic with
    | some text =>
      match Instant.parse? text with
      | some (stop, _) => return (stop, none)
      | none => throw (.reserved .runtime ("invalid Timestamp '" ++ text ++ "'"))
    | none => throw (.malformed (.noTime visit.name))

def runWait (visit : Visit) (seconds : Setting Nat) (timestamp : TextSetting) : Action Unit := do
  let now ← Action.ask .now
  let (stop, seconds) ← visit.waitEnd now seconds timestamp
  Action.ask (.wait { state := visit.name, stop, seconds, now })

/-- The failure of a Fail; its name is that of the state unless it declares one. -/
def runFail (visit : Visit) (error cause : TextSetting) : Action Failure := do
  let name ← visit.resolve .text "Error" error.dynamic
  let cause ← visit.resolve .text "Cause" cause.dynamic
  return ⟨name.getD visit.name, cause⟩

/-! ## Choice -/

/-- Goes to the target of the first branch whose rule holds, else to the default. -/
def runChoice (visit : Visit) (branches : List Branch) (fallback : Option String) :
    Action Ended := do
  let matched ← Action.ofExcept <|
    (Rule.firstMatch visit.scope 0 branches).mapError Rule.Error.fault
  match matched, fallback with
  | none, none =>
    throw <| .reserved .noChoiceMatched <|
      "no choice rule matched in state '" ++ visit.name ++ "' and it has no Default"
  | none, some next =>
    let done ← completed
    return { output := done.output, bindings := done.bindings, next := some next }
  | some (_, branch), _ =>
    let done ← completed
    let done ← Action.evaluate <|
      Pipeline.completeBranch branch visit.raw visit.effective visit.env done
    return { output := done.output, bindings := done.bindings, next := some branch.next }
where
  /-- The Choice itself, completed. -/
  completed : Action Completed :=
    Action.evaluate (Pipeline.complete visit.common visit.raw visit.effective visit.env)

end Visit

end Workflow.Engine
