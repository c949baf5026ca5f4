import Workflow.Pipeline
import Workflow.Program

/-!
# Frames

A frame is what a graph knows besides its input: the context object, the variables, the states it
is nested in and the dialect it inherits. Nested graphs get frames of their own, so nothing they
assign is seen outside.
-/

namespace Workflow.Engine

/-- What an invocation of a graph knows besides its input. -/
structure Frame where
  context : Json
  bindings : Variables
  /-- The names of the enclosing states, outermost first. -/
  stack : List String
  dialect : Dialect
deriving Inhabited

/-- What all invocations of a run share. -/
structure Shared where
  config : Config
  /-- How many retries may be granted beyond what the retriers allow. -/
  extraRetries : Nat
deriving Inhabited

/-- A graph, ready to be run on an input. -/
abbrev Runner := Json → Frame → Program Outcome

/-- The bindings of the expressions of a state written in a dialect. -/
def Frame.env (frame : Frame) (shared : Shared) (dialect : Dialect) : Env where
  context := frame.context
  bindings := frame.bindings
  config := shared.config
  dialect := dialect

/-- Sets a member of a context; one that is no object stays as it is. -/
def setMember (context : Json) (key : String) (value : Json) : Json :=
  match context with
  | .object members => .object (Json.insert key value members)
  | other => other

/-- A context with the item of a Map. -/
def withItem (context : Json) (index : Nat) (value : Json) : Json :=
  setMember context "Map" (.object [("Item", .object [("Index", .nat index), ("Value", value)])])

/-- A context with the state that is being run. -/
def withState (context : Json) (name : String) (entered : Instant) (retries : Nat) : Json :=
  setMember context "State" <| .object
    [("EnteredTime", .string (entered.timestamp 3)), ("Name", .string name),
     ("RetryCount", .nat retries)]

/-- The frame of a graph nested in a state. -/
def Frame.child (frame : Frame) (state : String) : Frame :=
  { frame with stack := frame.stack ++ [state] }

/-- The frame of a graph that processes an item. -/
def Frame.itemChild (frame : Frame) (state : String) (index : Nat) (value : Json) : Frame :=
  { frame.child state with context := withItem frame.context index value }

/-- Writes a member over a context; two objects are merged. -/
def mergeMember (base : List (String × Json)) (key : String) (value : Json) :
    List (String × Json) :=
  match Json.lookup key base, value with
  | some (.object existing), .object fields =>
    Json.insert key (.object (Json.overlay existing fields)) base
  | _, value => Json.insert key value base

/-- The context object that a run starts with. The caller's members come over it. -/
def initialContext (id : String) (input : Json) (started : Instant) (caller : Option Json) :
    Json :=
  let base : List (String × Json) :=
    [("Execution", .object
      [("Id", .string id), ("Input", input), ("Name", .string id),
       ("StartTime", .string (started.timestamp 3))]),
     ("StateMachine", .object [("Name", .string "statelang")])]
  match caller with
  | some (.object extra) =>
    .object (extra.foldl (fun merged (key, value) => mergeMember merged key value) base)
  | _ => .object base

/-- Calls a resource. What comes of it other than an output is a fault. -/
def invoke (resource : String) (input : Json) (timeout : Option Nat) : Action Json := do
  match ← Action.ask (.call resource input timeout) with
  | .output value => return value
  | .failed failure => throw (.failed failure)
  | .crashed =>
    throw (.reserved .taskFailed ("resource '" ++ resource ++ "' did not complete: "))
  | .late =>
    throw <| .reserved .timeout <|
      "resource '" ++ resource ++ "' did not complete within " ++
        Decimal.natText (timeout.getD 0) ++ " seconds"
  | .unknown => throw (.unknownResource resource)

end Workflow.Engine
