import Workflow.Engine.Map
import Workflow.Engine.Parallel

/-!
# Running graphs

A graph enters its first state and follows the states' own choice of the next until one ends it.
Every entry is asked for, so a run that may enter only so many states is refused the next one; the
limit is also fuel enough for the walk. A state is attempted, retried and caught; only what it
finally leaves behind is seen by the graph.
-/

namespace Workflow.Engine

/-- A state, ready to be run on an input. -/
abbrev StateRunner := Json → Frame → Program (Except Fault Ended)

/-- What one attempt of a state does. -/
abbrev Act := Visit → Action Ended

/-! ## States -/

def attempt (name : String) (common : Common) (act : Act) (raw : Json) (env : Env)
    (frame : Frame) : Action Ended := do
  let effective ← Action.evaluated (Pipeline.selectInput common raw env)
  act { name, common, raw, effective, env, frame }

def reportCompleted (name : String) (type : StateType) (raw : Json) (frame : Frame)
    (ended : Ended) : Program (Except Fault Ended) :=
  .ask (.completed { state := name, type, input := raw, output := ended.output,
                     stack := frame.stack })
    fun () => .done (.ok ended)

/-- Goes where the first catcher that claims a failure says; an error of its own is not caught. -/
def catchFailure (name : String) (type : StateType) (catchers : List Catcher) (raw : Json)
    (env : Env) (frame : Frame) (failure : Failure) : Program (Except Fault Ended) :=
  match findCatcher catchers failure with
  | none => return .error (.failed failure)
  | some catcher => do
    match ← (Action.evaluate (Pipeline.catchOutput catcher raw failure env)).run with
    | .ok done =>
      reportCompleted name type raw frame
        { output := done.output, bindings := done.bindings, next := some catcher.next }
    | .error fault => return .error fault

/-- The retriers of the attempts of a state; those of a Parallel are for its branches. -/
def stateRetriers (type : StateType) (common : Common) : List Retrier :=
  if type = .parallel then [] else common.retriers

/-- Runs a state: attempts, retries and catches. -/
def runState (shared : Shared) (name : String) (type : StateType) (common : Common) (act : Act) :
    StateRunner := fun raw frame => do
  let entered ← Program.ask .now Program.done
  let dialect := common.dialect.getD frame.dialect
  let visited (retries : Nat) : Frame :=
    { frame with context := withState frame.context name entered retries }
  let retriers := stateRetriers type common
  let (result, retries) ← retrying name retriers
    (fun retries =>
      attempt name common act raw ((visited retries).env shared dialect) (visited retries))
    (shared.patience retriers) (retriers.map fun _ => 0) 0
  match result with
  | .ok ended => reportCompleted name type raw frame ended
  | .error (.failed failure) =>
    catchFailure name type common.catchers raw ((visited retries).env shared dialect) frame failure
  | .error fault => return .error fault

/-! ## Graphs -/

def findRunner (name : String) : List (String × StateRunner) → Option StateRunner
  | [] => none
  | (other, runner) :: rest => if other = name then some runner else findRunner name rest

/-- Walks from a state to the end of the graph. -/
def walk (limit : Nat) (runners : List (String × StateRunner)) :
    (fuel : Nat) → (name : String) → Json → Frame → Program Outcome
  | 0, _, _, _ => return .error (.tooManyTransitions limit)
  | fuel + 1, name, input, frame => do
    if !(← Program.ask .enter Program.done) then return .error (.tooManyTransitions limit)
    match findRunner name runners with
    | none => return .error (.malformed (.unknownTarget name))
    | some runner =>
      match ← runner input frame with
      | .error fault => return .error fault
      | .ok ended =>
        match ended.next with
        | none => return .ok ended.output
        | some next =>
          walk limit runners fuel next ended.output { frame with bindings := ended.bindings }

mutual

def runGraph (shared : Shared) : Graph → Runner
  | .mk startAt states _ _ => fun input frame =>
    let limit := shared.config.maxTransitions
    walk limit (runnersOf shared states) (limit + 1) startAt input frame

/-- The runners of states, by name. -/
def runnersOf (shared : Shared) : List (String × State) → List (String × StateRunner)
  | [] => []
  | (name, .mk common kind) :: rest =>
    (name, runState shared name (State.mk common kind).type common (actOf shared kind)) ::
      runnersOf shared rest

/-- What the attempts of a state do. -/
def actOf (shared : Shared) : StateKind → Act
  | .task task => fun visit => do
    let result ← visit.runTask task
    visit.complete result
  | .pass result => fun visit => do
    let result ← visit.passResult result
    visit.complete result
  | .choice branches fallback => fun visit => visit.runChoice branches fallback
  | .wait seconds timestamp => fun visit => do
    visit.runWait seconds timestamp
    visit.complete visit.effective
  | .succeed => fun visit => do
    let done ← Action.evaluate <|
      Pipeline.complete visit.common visit.raw visit.effective visit.env
    return { output := done.output, bindings := done.bindings, next := none }
  | .fail error cause => fun visit => do
    let failure ← visit.runFail error cause
    throw (.failed failure)
  | .map processor iterator mapping =>
    let runner := (runnerOf shared processor).or (runnerOf shared iterator)
    fun visit => do
      let result ← visit.runMap mapping runner
      visit.complete result
  | .parallel branches =>
    let runners := runnersOfAll shared branches
    fun visit => do
      let result ← runParallel shared visit runners
      visit.complete result

def runnerOf (shared : Shared) : Option Graph → Option Runner
  | none => none
  | some graph => some (runGraph shared graph)

def runnersOfAll (shared : Shared) : List Graph → List Runner
  | [] => []
  | graph :: rest => runGraph shared graph :: runnersOfAll shared rest

end

/-! ## Machines -/

/-- The dialect of a machine's states that declare none, given the dialect of machines that declare
none. -/
def Machine.dialectOr (machine : Machine) (inherited : Dialect) : Dialect :=
  machine.dialect.getD inherited

/-- Runs a machine on an input, with the members that the caller adds to the context object. -/
def runMachine (shared : Shared) (machine : Machine) (inherited : Dialect) (id : String)
    (caller : Option Json) (input : Json) : Program Outcome := do
  let started ← Program.ask .now Program.done
  runGraph shared machine.graph input
    { context := initialContext id input started caller
      bindings := []
      stack := []
      dialect := Machine.dialectOr machine inherited }

end Workflow.Engine
