import Workflow.Engine.Run
import Workflow.Proofs.Attempts

/-!
# Graphs

What a run of a graph may be blamed for, given what its states, and the states of all graphs that
run in them, may be blamed for. A completed state leaves for one of its successors, or it is the
last one of its graph; both are part of the contract of a state, so a walk along states only has to
look at where it is.
-/

namespace Workflow

/-! ## Nested graphs -/

/-- The graphs that run in a state. Of the two names for the processor of a Map one counts. -/
def StateKind.graphs : StateKind → List Graph
  | .map processor iterator _ => (processor.or iterator).toList
  | .parallel branches => branches
  | _ => []

/-- A graph itself, and every graph that runs in one of its states, at any depth. -/
inductive Graph.Nests : Graph → Graph → Prop where
  | self (graph : Graph) : Graph.Nests graph graph
  | inner {graph inner nested : Graph} {name : String} {state : State}
      (isState : (name, state) ∈ graph.states) (runs : inner ∈ state.kind.graphs)
      (nests : Graph.Nests inner nested) : Graph.Nests graph nested

theorem Graph.Nests.trans {graph middle nested : Graph} (nests : graph.Nests middle)
    (further : middle.Nests nested) : graph.Nests nested := by
  induction nests with
  | self graph => exact further
  | inner isState runs nests ih => exact .inner isState runs (ih further)

namespace Graph

theorem sizeOf_lt_of_runs {graph inner : Graph} {name : String} {state : State}
    (isState : (name, state) ∈ graph.states) (runs : inner ∈ state.kind.graphs) :
    sizeOf inner < sizeOf graph := by
  rcases graph with ⟨startAt, states, comment, processorConfig⟩
  rcases state with ⟨common, kind⟩
  have inStates := List.sizeOf_lt_of_mem isState
  simp only [Graph.states, Prod.mk.sizeOf_spec, State.mk.sizeOf_spec] at inStates
  have inKind : sizeOf inner < sizeOf kind := by
    cases kind with
    | map processor iterator mapping =>
        simp only [State.kind, StateKind.graphs, Option.mem_toList] at runs
        cases processor with
        | some processor =>
            cases runs
            simp
            omega
        | none =>
            cases runs
            simp
            omega
    | parallel branches =>
        have inBranches : sizeOf inner < sizeOf branches := List.sizeOf_lt_of_mem runs
        simp only [StateKind.parallel.sizeOf_spec]
        omega
    | _ => cases runs
  simp only [Graph.mk.sizeOf_spec]
  omega

/-- What holds of a graph when it holds of the graphs that run in its states, holds of all. -/
theorem nested_induction {motive : Graph → Prop}
    (step : ∀ graph : Graph, (∀ name state, (name, state) ∈ graph.states →
      ∀ inner ∈ state.kind.graphs, motive inner) → motive graph) (graph : Graph) :
    motive graph :=
  step graph fun _ _ isState inner runs =>
    have := sizeOf_lt_of_runs isState runs
    nested_induction step inner
termination_by sizeOf graph

theorem mem_of_find? {name : String} {states : List (String × State)} {state : State}
    (found : find? name states = some state) : (name, state) ∈ states := by
  induction states with
  | nil => cases found
  | cons entry rest ih =>
      rcases entry with ⟨other, first⟩
      rw [find?] at found
      split at found
      case isTrue same =>
        cases found
        exact same ▸ List.mem_cons_self
      case isFalse _ => exact List.mem_cons_of_mem _ (ih found)

end Graph

/-! ## Blame -/

/-- A state that need not be caught goes where it says or where a Choice can lead, or it ends its
graph because it is a Succeed or says so. -/
def State.Departs (state : State) : Option String → Prop
  | some next => state.common.next = some next ∨ next ∈ choiceTargets state.kind
  | none => state.type = .succeed ∨ state.transition = some .finish

/-- A state leaves for one of its successors, or ends its graph. -/
def State.Leaves (state : State) : Option String → Prop
  | some next => next ∈ state.successors
  | none => state.type = .succeed ∨ state.transition = some .finish

theorem State.Departs.leaves {state : State} {next : Option String}
    (departs : state.Departs next) : state.Leaves next := by
  cases next with
  | none => exact departs
  | some next =>
      rcases departs with same | isTarget
      · exact List.mem_append_left _ (List.mem_append_left _ (Option.mem_toList.mpr same))
      · exact List.mem_append_right _ isTarget

theorem State.leaves_catcher {state : State} {catcher : Catcher}
    (isCatcher : catcher ∈ state.common.catchers) : state.Leaves (some catcher.next) :=
  List.mem_append_left _ (List.mem_append_right _ (List.mem_map_of_mem isCatcher))

/-- What a state may be blamed for is to blame. -/
structure State.Owns (blame : Fault → Prop) (config : Config) (name : String) (state : State) :
    Prop where
  transition : state.type.hasTransition = true → state.transition = none →
    blame (.malformed (.noTransition name))
  rules : ∀ branches fallback, state.kind = .choice branches fallback → ∀ branch ∈ branches,
    config.maxChoiceDepth < branch.rule.depth →
      blame (.malformed (.deepRule config.maxChoiceDepth))
  time : ∀ seconds timestamp, state.kind = .wait seconds timestamp → seconds.dynamic = none →
    timestamp.dynamic = none → blame (.malformed (.noTime name))
  processor : ∀ processor iterator mapping, state.kind = .map processor iterator mapping →
    processor.or iterator = none → blame (.malformed (.noProcessor name))

/-- What a graph may be blamed for, the graphs that run in its states apart, is to blame. -/
structure Graph.Owns (blame : Fault → Prop) (config : Config) (graph : Graph) : Prop where
  entry : Graph.find? graph.startAt graph.states = none →
    blame (.malformed (.unknownTarget graph.startAt))
  targets : ∀ name state, (name, state) ∈ graph.states → ∀ target ∈ state.successors,
    Graph.find? target graph.states = none → blame (.malformed (.unknownTarget target))
  states : ∀ name state, (name, state) ∈ graph.states → state.Owns blame config name

namespace Engine

open Workflow.Action (ensures_pure ensures_throw ensures_bind ensures_evaluated)

variable {blame : Fault → Prop} {asks : Request → Prop}

/-- Whatever it is run on, a graph may be blamed only for what is to blame. -/
abbrev Behaves (blame : Fault → Prop) (runner : Runner) : Prop :=
  ∀ input frame, (runner input frame).Ensures (.free blame)
    (Settles blame fun _ => True)

/-! ## States -/

theorem runnerOf_or (shared : Shared) (processor iterator : Option Graph) :
    (runnerOf shared processor).or (runnerOf shared iterator) =
      (processor.or iterator).map (runGraph shared) := by
  cases processor <;> cases iterator <;> rfl

theorem mem_runnersOfAll {shared : Shared} {graphs : List Graph} {runner : Runner}
    (isRunner : runner ∈ runnersOfAll shared graphs) :
    ∃ graph ∈ graphs, runner = runGraph shared graph := by
  induction graphs with
  | nil => cases isRunner
  | cons graph rest ih =>
      rw [runnersOfAll] at isRunner
      rcases List.mem_cons.mp isRunner with same | isRest
      · exact ⟨graph, List.mem_cons_self, same⟩
      · rcases ih isRest with ⟨other, isGraph, same⟩
        exact ⟨other, List.mem_cons_of_mem _ isGraph, same⟩

theorem ensures_declared (tolerant : Tolerant blame asks) {config : Config} {state : State}
    {visit : Visit} (sameCommon : visit.common = state.common)
    (owns : state.Owns blame config visit.name) (goes : state.type.hasTransition = true)
    (result : Json) :
    (visit.complete result).Ensures blame asks fun ended => state.Departs ended.next := by
  have undeclared : state.common.next = none → state.common.ends ≠ some true →
      state.transition = none := by
    intro noNext noEnd
    rw [State.transition]
    split <;> simp_all
  refine (visit.ensures_complete tolerant result ?_).mono ?_
  · rw [sameCommon]
    exact fun noNext noEnd => owns.transition goes (undeclared noNext noEnd)
  · intro ended
    rw [sameCommon]
    rintro ⟨same, ends⟩
    cases goal : ended.next with
    | some next => exact Or.inl (same ▸ goal)
    | none =>
        right
        simp [State.transition, ← same, goal, ends goal]

/-- An attempt goes on as its state may, and is blamed only for what is to blame. -/
theorem ensures_actOf (tolerant : Tolerant blame asks) (shared : Shared) {visit : Visit}
    {kind : StateKind} (sameConfig : visit.env.config = shared.config)
    (owns : (State.mk visit.common kind).Owns blame shared.config visit.name)
    (nested : ∀ graph ∈ kind.graphs, Behaves blame (runGraph shared graph)) :
    (actOf shared kind visit).Ensures blame asks fun ended =>
      (State.mk visit.common kind).Departs ended.next := by
  cases kind with
  | task task =>
      rw [actOf]
      refine ensures_bind (visit.ensures_runTask tolerant task) fun result _ => ?_
      exact ensures_declared tolerant rfl owns rfl result
  | pass result =>
      rw [actOf]
      refine ensures_bind (visit.ensures_passResult tolerant result) fun result _ => ?_
      exact ensures_declared tolerant rfl owns rfl result
  | choice branches fallback =>
      rw [actOf]
      refine (visit.ensures_runChoice tolerant branches fallback ?_).mono ?_
      · rw [sameConfig]
        exact owns.rules branches fallback rfl
      · rintro ended ⟨target, isTarget, same⟩
        rw [same]
        exact Or.inr isTarget
  | wait seconds timestamp =>
      rw [actOf]
      refine ensures_bind (visit.ensures_runWait tolerant seconds timestamp
        (owns.time seconds timestamp rfl)) fun _ _ => ?_
      exact ensures_declared tolerant rfl owns rfl visit.effective
  | succeed =>
      rw [actOf]
      refine ensures_bind (ensures_evaluation tolerant (Pipeline.complete_genuine _ _ _ _)) ?_
      exact fun done _ => ensures_pure (Or.inl rfl)
  | fail error cause =>
      rw [actOf]
      refine ensures_bind (visit.ensures_runFail tolerant error cause) fun failure _ => ?_
      exact ensures_throw (tolerant.failed _)
  | map processor iterator mapping =>
      rw [actOf, runnerOf_or]
      refine ensures_bind (visit.ensures_runMap tolerant mapping _ ?_ ?_) fun result _ => ?_
      · intro runner same
        rcases Option.map_eq_some_iff.mp same with ⟨graph, isGraph, same⟩
        exact same ▸ nested graph (Option.mem_toList.mpr isGraph)
      · intro missing
        exact owns.processor processor iterator mapping rfl (Option.map_eq_none_iff.mp missing)
      · exact ensures_declared tolerant rfl owns rfl result
  | parallel branches =>
      rw [actOf]
      refine ensures_bind (ensures_runParallel tolerant shared visit _ ?_) fun result _ => ?_
      · intro runner isRunner
        rcases mem_runnersOfAll isRunner with ⟨graph, isGraph, same⟩
        exact same ▸ nested graph isGraph
      · exact ensures_declared tolerant rfl owns rfl result

theorem ensures_catchFailure (tolerant : Tolerant blame fun _ => True) (name : String)
    (type : StateType) (state : State) (raw : Json) (env : Env) (frame : Frame)
    (failure : Failure) :
    (catchFailure name type state.common.catchers raw env frame failure).Ensures
      (.free blame) (Settles blame fun ended => state.Leaves ended.next) := by
  rw [catchFailure]
  split
  case h_1 => exact tolerant.failed failure
  case h_2 catcher found =>
    refine Program.ensures_bind (Program.Ensures.mono
      (ensures_evaluation tolerant (Pipeline.catchOutput_genuine catcher raw failure env)) ?_)
    intro result settles
    cases result with
    | error fault => exact settles
    | ok done =>
        have isCatcher := List.mem_of_find?_eq_some found
        exact ⟨trivial, fun _ => State.leaves_catcher isCatcher⟩

/-- The frame of a state that was entered at some time and retried some number of times. -/
def Frame.visited (frame : Frame) (name : String) (entered : Instant) (retries : Nat) : Frame :=
  { frame with context := withState frame.context name entered retries }

def visitedEnv (shared : Shared) (name : String) (common : Common) (frame : Frame)
    (entered : Instant) (retries : Nat) : Env :=
  (frame.visited name entered retries).env shared (common.dialect.getD frame.dialect)

def attempts (shared : Shared) (name : String) (type : StateType) (common : Common) (act : Act)
    (raw : Json) (frame : Frame) (entered : Instant) : Program (Except Fault Ended × Nat) :=
  retrying name (stateRetriers type common)
    (fun retries =>
      (attempt name common act raw (visitedEnv shared name common frame entered retries)
        (frame.visited name entered retries)).run)
    (shared.patience (stateRetriers type common)) ((stateRetriers type common).map fun _ => 0) 0

/-- Goes on from the result of the last attempt. -/
def settle (shared : Shared) (name : String) (type : StateType) (common : Common) (raw : Json)
    (frame : Frame) (entered : Instant) :
    Except Fault Ended × Nat → Program (Except Fault Ended)
  | (.ok ended, _) => reportCompleted name type raw frame ended
  | (.error (.failed failure), retries) =>
    catchFailure name type common.catchers raw
      (visitedEnv shared name common frame entered retries) frame failure
  | (.error fault, _) => .done (.error fault)

/-- A state asks for the time, is attempted until it need not be retried, and is caught. -/
theorem runState_eq (shared : Shared) (name : String) (type : StateType) (common : Common)
    (act : Act) (raw : Json) (frame : Frame) :
    runState shared name type common act raw frame = .ask .now fun entered =>
      (attempts shared name type common act raw frame entered).bind
        (settle shared name type common raw frame entered) := by
  refine congrArg (Program.ask .now) (funext fun entered => ?_)
  apply congrArg (Program.bind (attempts shared name type common act raw frame entered))
  funext result
  rcases result with ⟨fault | ended, retries⟩
  · cases fault <;> rfl
  · rfl

theorem ensures_attempt (tolerant : Tolerant blame asks) (shared : Shared) {name : String}
    {state : State} (owns : state.Owns blame shared.config name)
    (nested : ∀ graph ∈ state.kind.graphs, Behaves blame (runGraph shared graph)) (raw : Json)
    (env : Env) (sameConfig : env.config = shared.config) (frame : Frame) :
    (attempt name state.common (actOf shared state.kind) raw env frame).Ensures blame asks
      fun ended => state.Departs ended.next := by
  rcases state with ⟨common, kind⟩
  refine ensures_bind (ensures_evaluated ?_) fun effective _ => ?_
  · exact fun error failed => tolerant.evaluation error (Pipeline.selectInput_genuine failed)
  · exact ensures_actOf tolerant shared sameConfig owns nested

theorem ensures_attempts (tolerant : Tolerant blame asks) (retried : ∀ report, asks (.retry report))
    (shared : Shared) {name : String} {state : State} (owns : state.Owns blame shared.config name)
    (nested : ∀ graph ∈ state.kind.graphs, Behaves blame (runGraph shared graph)) (raw : Json)
    (frame : Frame) (entered : Instant) :
    (attempts shared name state.type state.common (actOf shared state.kind) raw frame
      entered).Ensures (.blaming blame asks) fun result =>
        Settles blame (fun ended => state.Departs ended.next) result.1 := by
  apply ensures_retrying retried
  · exact fun span => tolerant.ordinary (.sleep span) trivial
  · exact fun retries => ensures_attempt tolerant shared owns nested raw _ rfl _

theorem ensures_settle (tolerant : Tolerant blame fun _ => True) (shared : Shared) (name : String)
    (state : State) (raw : Json) (frame : Frame) (entered : Instant)
    {result : Except Fault Ended × Nat}
    (settles : Settles blame (fun ended => state.Departs ended.next) result.1) :
    (settle shared name state.type state.common raw frame entered result).Ensures (.free blame)
      (Settles blame fun ended => state.Leaves ended.next) := by
  match result with
  | (.ok ended, _) => exact ⟨trivial, fun _ => State.Departs.leaves settles⟩
  | (.error (.failed failure), _) =>
      exact ensures_catchFailure tolerant name _ state _ _ _ failure
  | (.error (.malformed _), _) => exact settles
  | (.error (.unknownResource _), _) => exact settles
  | (.error (.noBatching _), _) => exact settles
  | (.error (.tooManyTransitions _), _) => exact settles
  | (.error .crashed, _) => exact settles

/-- A state leaves as it may, however often it is attempted, whether it is caught or not. -/
theorem ensures_runState (tolerant : Tolerant blame fun _ => True) (shared : Shared)
    {name : String} {state : State} (owns : state.Owns blame shared.config name)
    (nested : ∀ graph ∈ state.kind.graphs, Behaves blame (runGraph shared graph))
    (raw : Json) (frame : Frame) :
    (runState shared name state.type state.common (actOf shared state.kind) raw frame).Ensures
      (.free blame) (Settles blame fun ended => state.Leaves ended.next) := by
  rw [runState_eq]
  refine ⟨trivial, fun entered => ?_⟩
  have tried := ensures_attempts tolerant (fun _ => trivial) shared owns nested raw frame entered
  refine Program.ensures_bind (tried.mono fun result settles => ?_)
  exact ensures_settle tolerant shared name state raw frame entered settles

/-! ## Walks -/

/-- The runner of a state. -/
abbrev stateRunner (shared : Shared) (name : String) (state : State) : StateRunner :=
  runState shared name state.type state.common (actOf shared state.kind)

theorem findRunner_runnersOf (shared : Shared) (name : String)
    (states : List (String × State)) :
    findRunner name (runnersOf shared states) = (Graph.find? name states).map fun state =>
      runState shared name state.type state.common (actOf shared state.kind) := by
  induction states with
  | nil => rfl
  | cons entry rest ih =>
      rcases entry with ⟨other, common, kind⟩
      simp only [runnersOf, findRunner, Graph.find?]
      by_cases same : other = name
      · subst same
        simp [State.common, State.kind]
      · simp [same, ih]

def passOn (limit : Nat) (runners : List (String × StateRunner)) (fuel : Nat) (frame : Frame) :
    Except Fault Ended → Program Outcome
  | .error fault => .done (.error fault)
  | .ok ended =>
    match ended.next with
    | none => .done (.ok ended.output)
    | some next =>
      walk limit runners fuel next ended.output { frame with bindings := ended.bindings }

/-- A walk enters a state, runs it, and goes on from what it leaves behind. -/
theorem walk_succ (limit : Nat) (runners : List (String × StateRunner)) (fuel : Nat)
    (name : String) (input : Json) (frame : Frame) :
    walk limit runners (fuel + 1) name input frame = .ask .enter fun granted =>
      if granted then
        match findRunner name runners with
        | none => .done (.error (.malformed (.unknownTarget name)))
        | some runner => (runner input frame).bind (passOn limit runners fuel frame)
      else .done (.error (.tooManyTransitions limit)) := by
  rw [walk]
  refine congrArg (Program.ask .enter) (funext fun granted => ?_)
  cases granted with
  | false => rfl
  | true =>
      cases findRunner name runners with
      | none => rfl
      | some runner =>
          apply congrArg (Program.bind (runner input frame))
          funext result
          cases result <;> rfl

theorem ensures_walk (tolerant : Tolerant blame fun _ => True) (limit : Nat)
    {runners : List (String × StateRunner)}
    (leaves : ∀ name runner, findRunner name runners = some runner → ∀ raw frame,
      (runner raw frame).Ensures (.free blame) (Settles blame fun ended =>
        ∀ next, ended.next = some next → findRunner next runners = none →
          blame (.malformed (.unknownTarget next))))
    (fuel : Nat) (name : String) (input : Json) (frame : Frame)
    (known : findRunner name runners = none → blame (.malformed (.unknownTarget name))) :
    (walk limit runners fuel name input frame).Ensures (.free blame)
      (Settles blame fun _ => True) := by
  have refused : blame (.tooManyTransitions limit) :=
    tolerant.plain _ fun _ same => by cases same
  induction fuel generalizing name input frame with
  | zero => exact refused
  | succ fuel ih =>
      rw [walk_succ]
      refine ⟨trivial, fun granted => ?_⟩
      cases granted with
      | false => exact refused
      | true =>
          simp only [if_true]
          split
          case h_1 missing => exact known missing
          case h_2 runner found =>
            refine Program.ensures_bind ((leaves name runner found input frame).mono ?_)
            intro result settles
            cases result with
            | error fault => exact settles
            | ok ended =>
                unfold passOn
                dsimp only
                split
                case h_1 => trivial
                case h_2 next goal => exact ih next _ _ (settles next goal)

/-- A graph behaves when it and all graphs that run in it own what they may be blamed for. -/
theorem runGraph_behaves (tolerant : Tolerant blame fun _ => True) (shared : Shared) (graph : Graph)
    (owns : ∀ nested, graph.Nests nested → nested.Owns blame shared.config) :
    Behaves blame (runGraph shared graph) := by
  induction graph using Graph.nested_induction with
  | step graph ih =>
      rcases graph with ⟨startAt, states, comment, processorConfig⟩
      have self := owns _ (.self _)
      intro input frame
      rw [runGraph]
      apply ensures_walk tolerant
      · intro name runner found raw frame
        rw [findRunner_runnersOf] at found
        rcases Option.map_eq_some_iff.mp found with ⟨state, isState, same⟩
        have isState := Graph.mem_of_find? isState
        subst same
        refine (ensures_runState tolerant shared (self.states name state isState)
          (fun inner runs => ih name state isState inner runs fun nested nests =>
            owns nested (.inner isState runs nests)) raw frame).mono ?_
        intro result settles
        cases result with
        | error fault => exact settles
        | ok ended =>
            intro next goal missing
            rw [findRunner_runnersOf, Option.map_eq_none_iff] at missing
            have leaves : state.Leaves ended.next := settles
            rw [goal] at leaves
            exact self.targets name state isState next leaves missing
      · intro missing
        rw [findRunner_runnersOf, Option.map_eq_none_iff] at missing
        exact self.entry missing

/-- A machine behaves when all of its graphs own what they may be blamed for. -/
theorem ensures_runMachine (tolerant : Tolerant blame fun _ => True) (shared : Shared)
    (machine : Machine)
    (owns : ∀ nested, machine.graph.Nests nested → nested.Owns blame shared.config)
    (inherited : Dialect) (id : String) (caller : Option Json) (input : Json) :
    (runMachine shared machine inherited id caller input).Ensures (.free blame)
      (Settles blame fun _ => True) :=
  ⟨trivial, fun _ => runGraph_behaves tolerant shared machine.graph owns input _⟩

/-! ## No blame -/

theorem tolerant_anything {asks : Request → Prop}
    (ordinary : ∀ request : Request, request.Ordinary → asks request) :
    Tolerant (fun _ => True) asks :=
  ⟨fun _ _ => trivial, fun _ _ _ _ => trivial, ordinary⟩

theorem owns_anything (config : Config) (name : String) (state : State) :
    state.Owns (fun _ => True) config name :=
  ⟨fun _ _ => trivial, fun _ _ _ _ _ _ => trivial, fun _ _ _ _ _ => trivial,
    fun _ _ _ _ _ => trivial⟩

theorem graph_owns_anything (config : Config) (graph : Graph) :
    graph.Owns (fun _ => True) config :=
  ⟨fun _ => trivial, fun _ _ _ _ _ _ => trivial, fun _ _ _ => owns_anything _ _ _⟩

theorem behaves_anything (shared : Shared) (graph : Graph) :
    Behaves (fun _ => True) (runGraph shared graph) :=
  runGraph_behaves (tolerant_anything fun _ _ => trivial) shared graph
    fun nested _ => graph_owns_anything _ nested

end Engine

end Workflow
