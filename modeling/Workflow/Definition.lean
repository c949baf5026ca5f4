import Workflow.Functional
import Workflow.Policy
import Workflow.Rule

/-!
# Definitions

A machine is a graph of named states with an entry. Map states hold the graph that processes an
item, Parallel states hold one graph for each branch, so graphs and states are defined together.
What states of several types have in common is one record; a state fills in only the fields that
its type knows.
-/

namespace Workflow

/-! ## Dynamic fields -/

/-- A field as a definition gives it: a literal, or the text of an expression. -/
inductive Given (α : Type) where
  | literal (value : α)
  | expression (text : String)
deriving Inhabited

/-- A field and its sibling that names a path. -/
structure Setting (α : Type) where
  given : Option (Given α) := none
  path : Option String := none
deriving Inhabited

/-- A text field and its sibling that names a path. -/
structure TextSetting where
  text : Option String := none
  path : Option String := none
deriving DecidableEq, Inhabited

/-- How the value of a field is found. -/
inductive Dynamic (α : Type) where
  | literal (value : α)
  | path (text : String)
  | expression (text : String)
deriving Inhabited

/-- How the value of a setting is found, if it is set; the path comes second. -/
def Setting.dynamic {α : Type} (setting : Setting α) : Option (Dynamic α) :=
  match setting.given, setting.path with
  | some (.literal value), _ => some (.literal value)
  | some (.expression text), _ => some (.expression text)
  | none, some text => some (.path text)
  | none, none => none

/-- How the text of a setting is found, if it is set; the path comes second. -/
def TextSetting.dynamic (setting : TextSetting) : Option (Dynamic String) :=
  match setting.text, setting.path with
  | some text, _ =>
    if Functional.isExpression text then some (.expression text) else some (.literal text)
  | none, some text => some (.path text)
  | none, none => none

/-! ## State types -/

inductive StateType where
  | task | pass | choice | wait | succeed | fail | map | parallel
deriving DecidableEq, Inhabited

namespace StateType

def name : StateType → String
  | .task => "Task"
  | .pass => "Pass"
  | .choice => "Choice"
  | .wait => "Wait"
  | .succeed => "Succeed"
  | .fail => "Fail"
  | .map => "Map"
  | .parallel => "Parallel"

def list : List StateType := [.task, .pass, .choice, .wait, .succeed, .fail, .map, .parallel]

def ofName? (text : String) : Option StateType := list.find? fun type => type.name == text

/-- Whether states of a type go on to a next state or end. -/
def hasTransition : StateType → Bool
  | .task | .pass | .wait | .map | .parallel => true
  | .choice | .succeed | .fail => false

end StateType

/-! ## Parts of states -/

/-- What states of several types have in common. -/
structure Common where
  comment : Option String := none
  dialect : Option Dialect := none
  next : Option String := none
  ends : Option Bool := none
  /-- An explicit `null` is kept, here and in the other two paths. -/
  inputPath : Option (Option String) := none
  outputPath : Option (Option String) := none
  resultPath : Option (Option String) := none
  parameters : Option Json := none
  resultSelector : Option Json := none
  arguments : Option Json := none
  output : Option Json := none
  assign : Option Json := none
  retriers : List Retrier := []
  catchers : List Catcher := []
deriving Inhabited

/-- What a Task calls. -/
structure Task where
  resource : String
  timeout : Setting Nat := {}
  heartbeat : Setting Nat := {}
  credentials : Option Json := none
deriving Inhabited

/-- How an item reader reads; settings that are not known are passed on. -/
structure ReaderConfig where
  maxItems : Setting Nat := {}
  extra : List (String × Json) := []
deriving Inhabited

/-- A resource that gives a Map its items. -/
structure ItemReader where
  resource : String
  config : Option ReaderConfig := none
  parameters : Option Json := none
  arguments : Option Json := none
deriving Inhabited

/-- How a Map groups its items. -/
structure ItemBatcher where
  maxItems : Setting Nat := {}
  maxBytes : Setting Nat := {}
  batchInput : Option Json := none
deriving Inhabited

/-- A resource that every output of a Map is sent through. -/
structure ResultWriter where
  resource : String
  config : Option Json := none
  parameters : Option Json := none
  arguments : Option Json := none
deriving Inhabited

/-- What a Map does beside running its processor. -/
structure Mapping where
  items : Option Json := none
  itemsPath : Option String := none
  itemSelector : Option Json := none
  reader : Option ItemReader := none
  batcher : Option ItemBatcher := none
  writer : Option ResultWriter := none
  maxConcurrency : Setting Nat := {}
  toleratedCount : Setting Nat := {}
  toleratedPercentage : Setting Float := {}
  label : Option String := none
deriving Inhabited

/-! ## Graphs and states -/

mutual

/-- Named states with an entry. -/
inductive Graph where
  | mk (startAt : String) (states : List (String × State)) (comment : Option String)
    (processorConfig : Option Json)

inductive State where
  | mk (common : Common) (kind : StateKind)

/-- What a state is besides what states have in common. -/
inductive StateKind where
  | task (task : Task)
  | pass (result : Option Json)
  | choice (branches : List Branch) (fallback : Option String)
  | wait (seconds : Setting Nat) (timestamp : TextSetting)
  | succeed
  | fail (error cause : TextSetting)
  /-- A Map with its processor and the older name for it. -/
  | map (processor iterator : Option Graph) (mapping : Mapping)
  | parallel (branches : List Graph)

end

namespace Graph

/-- The name of the state a graph starts at. -/
def startAt : Graph → String
  | .mk startAt _ _ _ => startAt

/-- The states of a graph by name. -/
def states : Graph → List (String × State)
  | .mk _ states _ _ => states

def find? (name : String) : List (String × State) → Option State
  | [] => none
  | (other, state) :: rest => if other = name then some state else find? name rest

def get? (graph : Graph) (name : String) : Option State := find? name graph.states

instance : Inhabited Graph := ⟨.mk "" [] none none⟩

end Graph

/-- Where a state goes when it is done. -/
inductive Transition where
  | next (name : String)
  | finish
deriving DecidableEq, Inhabited

namespace State

instance : Inhabited State := ⟨.mk {} .succeed⟩

def common : State → Common
  | .mk common _ => common

/-- What the state is besides. -/
def kind : State → StateKind
  | .mk _ kind => kind

def type (state : State) : StateType :=
  match state.kind with
  | .task _ => .task
  | .pass _ => .pass
  | .choice _ _ => .choice
  | .wait _ _ => .wait
  | .succeed => .succeed
  | .fail _ _ => .fail
  | .map _ _ _ => .map
  | .parallel _ => .parallel

/-- The dialect the state is written in. -/
def dialectOr (state : State) (inherited : Dialect) : Dialect :=
  state.common.dialect.getD inherited

/-- Where the state goes when it is done, if it says. Choice states say it in their branches. -/
def transition (state : State) : Option Transition :=
  match state.common.next, state.common.ends with
  | some name, _ => some (.next name)
  | none, some true => some .finish
  | _, _ => none

/-- The branch targets and the default of a Choice. -/
def choiceTargets : StateKind → List String
  | .choice branches fallback => branches.map Branch.next ++ fallback.toList
  | _ => []

/-- Every state that the state can go to. -/
def successors (state : State) : List String :=
  state.common.next.toList ++ state.common.catchers.map Catcher.next ++ choiceTargets state.kind

end State

namespace Mapping

/-- The template of a Map's items; the older name for it comes second. -/
def selector (mapping : Mapping) (common : Common) : Option Json :=
  mapping.itemSelector.or common.parameters

end Mapping

/-- A workflow definition. -/
structure Machine where
  graph : Graph
  dialect : Option Dialect := none
  /-- The time limit in seconds of a whole run. -/
  timeout : Option Nat := none
  version : Option String := none
deriving Inhabited

/-! ## Counting states -/

mutual

/-- The number of states of a graph, nested graphs included. -/
def Graph.count : Graph → Nat
  | .mk _ states _ _ => Graph.countStates states

/-- The number of states in a list, nested graphs included. -/
def Graph.countStates : List (String × State) → Nat
  | [] => 0
  | (_, state) :: rest => state.count + Graph.countStates rest

/-- One for the state itself, and the states nested in it. -/
def State.count : State → Nat
  | .mk _ kind => kind.countNested + 1

/-- The number of states nested in a state; of a Map's two names for its processor only one
counts. -/
def StateKind.countNested : StateKind → Nat
  | .map (some processor) _ _ => processor.count
  | .map none (some iterator) _ => iterator.count
  | .parallel branches => Graph.countAll branches
  | _ => 0

/-- The number of states of several graphs. -/
def Graph.countAll : List Graph → Nat
  | [] => 0
  | graph :: rest => graph.count + Graph.countAll rest

end

end Workflow
