import Workflow.Definition.Check
import Workflow.Json.Reader

/-!
# Loading definitions

A definition is loaded in three steps: its document is checked, the machine is read, and every
graph is validated. In a valid graph the entry and every target exist, states that go on declare
exactly one of Next and End, the rules of a Choice fit its dialect, and every state can be reached
from the entry.
-/

namespace Workflow.Definition

/-! ## Reachability -/

/-- Walks along successors from the pending names. Every step takes one pending name; a state met
for the first time adds its successors. -/
def reach (states : List (String × State)) : (fuel : Nat) → (pending seen : List String) →
    List String
  | 0, _, seen => seen
  | _, [], seen => seen
  | fuel + 1, name :: pending, seen =>
    if seen.contains name then reach states fuel pending seen
    else
      match Graph.find? name states with
      | some state => reach states fuel (state.successors ++ pending) (name :: seen)
      | none => reach states fuel pending (name :: seen)

/-- How many steps a walk over all states may take. -/
def walkLength (states : List (String × State)) : Nat :=
  states.foldl (fun length (_, state) => length + state.successors.length) 1

/-- The names that can be reached from a state. -/
def reachable (states : List (String × State)) (start : String) : List String :=
  reach states (walkLength states) [start] []

/-- The states that cannot be reached from a state. -/
def unreached (states : List (String × State)) (start : String) : List String :=
  let reached := reachable states start
  (states.map Prod.fst).filter fun name => !reached.contains name

/-- The first of names in byte order. -/
def least? : List String → Option String
  | [] => none
  | name :: rest =>
    match least? rest with
    | some other => if other < name then some other else some name
    | none => some name

/-- Refuses a graph without its entry, and the first state in byte order that cannot be reached from
the entry. -/
def checkReachable (states : List (String × State)) (startAt : String) : Except Error Unit :=
  if (Graph.find? startAt states).isNone then .error (.missingStart startAt)
  else
    match least? (unreached states startAt) with
    | some name => .error (.unreachable name)
    | none => .ok ()

/-! ## States -/

/-- States that go on declare a next state or that they end, and not both. -/
def checkTransition (name : String) (state : State) : Except Error Unit :=
  if !state.type.hasTransition then .ok ()
  else
    match state.common.next, state.common.ends with
    | some _, none => .ok ()
    | none, some true => .ok ()
    | _, _ => .error (.transition name)

/-- Refuses the first successor that is no state of the graph. -/
def checkTargets (states : List (String × State)) (name : String) (state : State) :
    Except Error Unit :=
  match state.successors.find? fun target => (Graph.find? target states).isNone with
  | some target => .error (.unknownTarget name target)
  | none => .ok ()

/-- In the functional dialect every rule is a condition, in the path dialect none is. -/
def checkRule (name : String) (dialect : Dialect) (rule : Rule) : Except Error Unit :=
  match dialect with
  | .functional =>
    if rule.isCondition then .ok () else .error (.invalidValue name "Choices" .notCondition)
  | .path =>
    if rule.hasCondition then .error (.invalidValue name "Choices" .strayCondition) else .ok ()

mutual

/-- Validates a graph and the graphs nested in it. -/
def validate (inherited : Dialect) : Graph → Except Error Unit
  | .mk startAt states _ _ => do
    if (Graph.find? startAt states).isNone then throw (.missingStart startAt)
    validateStates inherited states states
    checkReachable states startAt

/-- Validates states of a graph, in order. -/
def validateStates (inherited : Dialect) (all : List (String × State)) :
    List (String × State) → Except Error Unit
  | [] => .ok ()
  | (name, .mk common kind) :: rest => do
    checkTransition name (.mk common kind)
    checkTargets all name (.mk common kind)
    validateKind inherited name (common.dialect.getD inherited) kind
    validateStates inherited all rest

/-- Validates the rules of a Choice and the graphs nested in a state. -/
def validateKind (inherited : Dialect) (name : String) (dialect : Dialect) :
    StateKind → Except Error Unit
  | .choice branches _ => branches.forM fun branch => checkRule name dialect branch.rule
  | .map (some processor) _ _ => validate inherited processor
  | .map none (some iterator) _ => validate inherited iterator
  | .parallel branches => validateAll inherited branches
  | _ => .ok ()

/-- Validates graphs, in order. -/
def validateAll (inherited : Dialect) : List Graph → Except Error Unit
  | [] => .ok ()
  | graph :: rest => do
    validate inherited graph
    validateAll inherited rest

end

/-! ## Loading -/

/-- Loads a machine from a document. The dialect given is that of a machine that declares none. -/
def load (document : Json) (inherited : Dialect) : Except Error Machine := do
  match document with
  | .object members =>
    checkKeys "" "StateMachine" "any" machineFields.contains members
    let dialect ← declaredDialect "" inherited members
    checkGraph document.depth dialect members
    let machine ← (machineOf document).mapError .misfit
    validate dialect machine.graph
    return machine
  | _ => throw (.misfit .machine)

def loadText (text : String) (inherited : Dialect) : Except Error Machine :=
  match Json.parse? text with
  | some document => load document inherited
  | none => .error (.misfit .noDocument)

end Workflow.Definition
