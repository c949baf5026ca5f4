import Workflow.Proofs.Checking
import Workflow.Proofs.Graphs

/-!
# Loading

What is known of a machine that was loaded. Validation walks over the graphs that run, so what it
finds of one graph it finds of all. That a Map has a processor is checked in the document before it
is read, so this is shown along the reading: wherever a Map comes from, its document has been
looked at.
-/

namespace Workflow

/-! ## Validation -/

/-- A graph starts at one of its states, every state goes on to states of the graph, and states
that go on or end say which. -/
structure Graph.Closed (graph : Graph) : Prop where
  entry : Graph.find? graph.startAt graph.states ≠ none
  targets : ∀ name state, (name, state) ∈ graph.states → ∀ target ∈ state.successors,
    Graph.find? target graph.states ≠ none
  transitions : ∀ name state, (name, state) ∈ graph.states → state.type.hasTransition = true →
    state.transition ≠ none

/-- Every Map of a graph has a processor. -/
def Graph.Equipped (graph : Graph) : Prop :=
  ∀ name common processor iterator mapping,
    (name, State.mk common (.map processor iterator mapping)) ∈ graph.states →
      processor.or iterator ≠ none

namespace Definition

theorem transition_of_checkTransition {name : String} {state : State}
    (checked : checkTransition name state = .ok ()) (goes : state.type.hasTransition = true) :
    state.transition ≠ none := by
  rw [checkTransition] at checked
  simp only [goes, Bool.not_true, Bool.false_eq_true, if_false] at checked
  rw [State.transition]
  split at checked
  case h_1 next noEnd => simp [next]
  case h_2 noNext ends => simp [noNext, ends]
  case h_3 => cases checked

theorem find?_of_checkTargets {states : List (String × State)} {name : String} {state : State}
    (checked : checkTargets states name state = .ok ()) {target : String}
    (isTarget : target ∈ state.successors) : Graph.find? target states ≠ none := by
  rw [checkTargets] at checked
  split at checked
  case h_1 => cases checked
  case h_2 noMissing =>
    have known := List.find?_eq_none.mp noMissing target isTarget
    intro missing
    exact known (by simp [missing])

theorem validate_of_validateAll {inherited : Dialect} {graphs : List Graph}
    (validated : validateAll inherited graphs = .ok ()) {graph : Graph}
    (isGraph : graph ∈ graphs) : validate inherited graph = .ok () := by
  induction graphs with
  | nil => cases isGraph
  | cons first rest ih =>
      rw [validateAll] at validated
      rcases Except.bind_eq_ok.mp validated with ⟨⟨⟩, firstValid, restValid⟩
      rcases List.mem_cons.mp isGraph with same | isRest
      · exact same ▸ firstValid
      · exact ih restValid isRest

theorem validate_of_validateKind {inherited dialect : Dialect} {name : String}
    {kind : StateKind} (validated : validateKind inherited name dialect kind = .ok ())
    {graph : Graph} (runs : graph ∈ kind.graphs) : validate inherited graph = .ok () := by
  cases kind with
  | map processor iterator mapping =>
      cases processor with
      | some processor =>
          rw [List.mem_singleton.mp runs]
          exact validated
      | none =>
          cases iterator with
          | some iterator =>
              rw [List.mem_singleton.mp runs]
              exact validated
          | none => cases runs
  | parallel branches =>
      rw [validateKind] at validated
      exact validate_of_validateAll validated runs
  | _ => cases runs

theorem checks_of_validateStates {inherited : Dialect} {all states : List (String × State)}
    (validated : validateStates inherited all states = .ok ()) {name : String} {state : State}
    (isState : (name, state) ∈ states) :
    checkTransition name state = .ok () ∧ checkTargets all name state = .ok () ∧
      validateKind inherited name (state.common.dialect.getD inherited) state.kind = .ok () := by
  induction states with
  | nil => cases isState
  | cons entry rest ih =>
      rcases entry with ⟨other, common, kind⟩
      rw [validateStates] at validated
      rcases Except.bind_eq_ok.mp validated with ⟨⟨⟩, transition, validated⟩
      rcases Except.bind_eq_ok.mp validated with ⟨⟨⟩, targets, validated⟩
      rcases Except.bind_eq_ok.mp validated with ⟨⟨⟩, kindValid, validated⟩
      rcases List.mem_cons.mp isState with same | isRest
      · cases same
        exact ⟨transition, targets, kindValid⟩
      · exact ih validated isRest

theorem states_of_validate {inherited : Dialect} {graph : Graph}
    (validated : validate inherited graph = .ok ()) :
    Graph.find? graph.startAt graph.states ≠ none ∧
      validateStates inherited graph.states graph.states = .ok () := by
  rcases graph with ⟨startAt, states, comment, processorConfig⟩
  rw [validate] at validated
  split at validated
  case isTrue => cases validated
  case isFalse present =>
    rcases Except.bind_eq_ok.mp validated with ⟨⟨⟩, statesValid, _⟩
    exact ⟨fun missing => present (Option.isNone_iff_eq_none.mpr missing), statesValid⟩

/-- Every graph that runs somewhere in a valid graph is closed. -/
theorem closed_of_validate {inherited : Dialect} {graph nested : Graph}
    (validated : validate inherited graph = .ok ()) (nests : graph.Nests nested) :
    nested.Closed := by
  induction nests with
  | self graph =>
      rcases states_of_validate validated with ⟨entry, statesValid⟩
      refine ⟨entry, ?_, ?_⟩
      · intro name state isState target isTarget
        rcases checks_of_validateStates statesValid isState with ⟨_, targets, _⟩
        exact find?_of_checkTargets targets isTarget
      · intro name state isState goes
        rcases checks_of_validateStates statesValid isState with ⟨transition, _, _⟩
        exact transition_of_checkTransition transition goes
  | inner isState runs nests ih =>
      rcases states_of_validate validated with ⟨_, statesValid⟩
      rcases checks_of_validateStates statesValid isState with ⟨_, _, kindValid⟩
      exact ih (validate_of_validateKind kindValid runs)

/-! ## Processors -/

/-- A checked graph is an object of checked states, all of which are objects. -/
theorem states_of_checkGraph {fuel : Nat} {inherited : Dialect} {members : List (String × Json)}
    (checked : checkGraph fuel inherited members = .ok ()) :
    ∃ below states, fuel = below + 1 ∧ Json.lookup "States" members = some (.object states) ∧
      ∀ name raw, (name, raw) ∈ states →
        ∃ fields, raw = .object fields ∧ checkState below name inherited fields = .ok () := by
  cases fuel with
  | zero => cases checked
  | succ fuel =>
      rcases checkGraph_eq_ok.mp checked with ⟨states, found, each⟩
      exact ⟨fuel, states, rfl, found, fun name raw isState => (each name raw isState).2⟩

/-- The document of a graph lists that of a state. -/
def Lists (members : List (String × Json)) (name : String) (fields : List (String × Json)) : Prop :=
  ∃ states, Json.lookup "States" members = some (.object states) ∧ (name, .object fields) ∈ states

/-- The document of a state holds that of a graph, which processes its items or is a branch. -/
inductive Holds (fields : List (String × Json)) : List (String × Json) → Prop where
  | processor {key : String} {members : List (String × Json)}
      (isKey : key ∈ ["ItemProcessor", "Iterator"])
      (found : Json.lookup key fields = some (.object members)) : Holds fields members
  | branch {branches : List Json} {members : List (String × Json)}
      (found : Json.lookup "Branches" fields = some (.array branches))
      (isBranch : .object members ∈ branches) : Holds fields members

/-- What a checked state says of the graphs in its document: each is an object that was checked, and
a Map has one of the two that process its items. -/
structure Inspected (fuel : Nat) (name : String) (inherited : Dialect)
    (members : List (String × Json)) : Prop where
  processor : declaredType name members = .ok .map →
    ∃ key ∈ ["ItemProcessor", "Iterator"], Json.lookup key members ≠ none
  nested : ∀ key ∈ ["ItemProcessor", "Iterator"], ∀ raw, Json.lookup key members = some raw →
    ∃ fields, raw = .object fields ∧ checkGraph fuel inherited fields = .ok ()
  branches : ∀ branches, Json.lookup "Branches" members = some (.array branches) →
    ∀ raw ∈ branches, ∃ fields, raw = .object fields ∧ checkGraph fuel inherited fields = .ok ()

/-- What is checked of the fields of a state. -/
structure Checks (name : String) (inherited dialect : Dialect) (type : StateType)
    (fields : List (String × Json)) : Prop where
  typed : declaredType name fields = .ok type
  declared : declaredDialect name inherited fields = .ok dialect
  keys : checkKeys name type.name dialect.name (type.allows dialect) fields = .ok ()
  required : checkRequired name type fields = .ok ()
  catchers : checkCatchers name dialect fields = .ok ()

theorem checks_of_checkFields {name : String} {inherited dialect : Dialect}
    {fields : List (String × Json)} (checked : checkFields name inherited fields = .ok dialect) :
    ∃ type, Checks name inherited dialect type fields := by
  rw [checkFields] at checked
  rcases Except.bind_eq_ok.mp checked with ⟨type, typeFound, checked⟩
  rcases Except.bind_eq_ok.mp checked with ⟨found, declared, checked⟩
  rcases Except.bind_eq_ok.mp checked with ⟨⟨⟩, keys, checked⟩
  rcases Except.bind_eq_ok.mp checked with ⟨⟨⟩, required, checked⟩
  rcases Except.bind_eq_ok.mp checked with ⟨⟨⟩, catchers, checked⟩
  cases checked
  exact ⟨type, typeFound, declared, keys, required, catchers⟩

theorem processor_of_checkFields {name : String} {inherited dialect : Dialect}
    {members : List (String × Json)} (checked : checkFields name inherited members = .ok dialect)
    (isMap : declaredType name members = .ok .map) :
    ∃ key ∈ ["ItemProcessor", "Iterator"], Json.lookup key members ≠ none := by
  rcases checks_of_checkFields checked with ⟨type, checks⟩
  have required := checks.required
  cases isMap.symm.trans checks.typed
  by_cases processor : Json.lookup "ItemProcessor" members = none
  · by_cases iterator : Json.lookup "Iterator" members = none
    · simp [checkRequired, StateType.requiredFields, processor, iterator] at required
    · exact ⟨"Iterator", by simp, iterator⟩
  · exact ⟨"ItemProcessor", by simp, processor⟩

theorem checkFields_of_checkState {fuel : Nat} {name : String} {inherited : Dialect}
    {members : List (String × Json)}
    (checked : checkState fuel name inherited members = .ok ()) :
    ∃ dialect, checkFields name inherited members = .ok dialect := by
  cases fuel with
  | zero => cases checked
  | succ fuel =>
      rcases checkState_eq_ok.mp checked with ⟨dialect, fieldsChecked, _⟩
      exact ⟨dialect, fieldsChecked⟩

theorem inspected_of_checkState {fuel : Nat} {name : String} {inherited : Dialect}
    {members : List (String × Json)}
    (checked : checkState fuel name inherited members = .ok ()) :
    ∃ below, fuel = below + 1 ∧ Inspected below name inherited members := by
  cases fuel with
  | zero => cases checked
  | succ fuel =>
      rcases checkState_eq_ok.mp checked with ⟨dialect, fieldsChecked, nested, branches⟩
      refine ⟨fuel, rfl, processor_of_checkFields fieldsChecked, ?_, ?_⟩
      · intro key isKey raw found
        rcases nested key isKey raw found with ⟨fields, same, _, graphChecked⟩
        exact ⟨fields, same, graphChecked⟩
      · intro items found raw isItem
        rcases branches _ found with ⟨listed, same, each⟩
        cases same
        rcases each raw isItem with ⟨fields, isObject, _, graphChecked⟩
        exact ⟨fields, isObject, graphChecked⟩

/-! ## Reading -/

theorem exists_of_readOptional {read : Json → Except Misfit Graph} {raw : Option Json}
    {graph : Graph} (done : readOptional read raw = .ok (some graph)) :
    ∃ document, raw = some document ∧ read document = .ok graph := by
  simp only [readOptional] at done
  split at done
  case h_1 => cases done
  case h_2 => cases done
  case h_3 document _ =>
    cases found : read document with
    | error misfit =>
        rw [found] at done
        cases done
    | ok other =>
        rw [found] at done
        cases done
        exact ⟨document, rfl, found⟩

theorem not_object_of_readOptional {read : Json → Except Misfit Graph} {raw : Option Json}
    (done : readOptional read raw = .ok none) (members : List (String × Json)) :
    raw ≠ some (.object members) := by
  rintro rfl
  simp only [readOptional] at done
  cases found : read (.object members) <;> simp only [found] at done <;> cases done

theorem declaredType_of_required {fields : List (String × Json)} {type : StateType}
    (read : (Record.required Json.string? "Type" fields).bind StateType.ofName? = some type)
    (name : String) : declaredType name fields = .ok type := by
  rw [Record.required] at read
  rw [declaredType]
  cases found : Json.lookup "Type" fields with
  | none => simp [found] at read
  | some value =>
      cases value with
      | string text =>
          simp only [found, Option.bind_some, Json.string?] at read
          simp only [read]
      | _ => simp [found, Json.string?] at read

/-- What the kind of a state is read from. -/
inductive KindRead (nested : Json → Except Misfit Graph) (fields : Record.Fields) :
    StateType → StateKind → Prop where
  | task {task : Task} (read : Task.read? fields = some task) :
      KindRead nested fields .task (.task task)
  | pass : KindRead nested fields .pass (.pass (Record.any "Result" fields))
  | choice {branches : List Branch} {fallback : Option String}
      (branchesRead : readItems readBranch (Json.lookup "Choices" fields) = .ok branches)
      (fallbackRead : Record.optional Json.string? "Default" fields = some fallback) :
      KindRead nested fields .choice (.choice branches fallback)
  | wait {seconds : Setting Nat} {timestamp : TextSetting}
      (secondsRead : Setting.read? Json.toUnsigned? "Seconds" fields = some seconds)
      (timestampRead : TextSetting.read? "Timestamp" fields = some timestamp) :
      KindRead nested fields .wait (.wait seconds timestamp)
  | succeed : KindRead nested fields .succeed .succeed
  | fail {error cause : TextSetting} (errorRead : TextSetting.read? "Error" fields = some error)
      (causeRead : TextSetting.read? "Cause" fields = some cause) :
      KindRead nested fields .fail (.fail error cause)
  | map {processor iterator : Option Graph} {mapping : Mapping}
      (processorRead : readOptional nested (Json.lookup "ItemProcessor" fields) = .ok processor)
      (iteratorRead : readOptional nested (Json.lookup "Iterator" fields) = .ok iterator)
      (mappingRead : Mapping.read? fields = some mapping) :
      KindRead nested fields .map (.map processor iterator mapping)
  | parallel {branches : List Graph}
      (branchesRead : readItems nested (Json.lookup "Branches" fields) = .ok branches) :
      KindRead nested fields .parallel (.parallel branches)

theorem kindRead_of_readKind {nested : Json → Except Misfit Graph} {type : StateType}
    {fields : Record.Fields} {kind : StateKind} (read : readKind nested type fields = .ok kind) :
    KindRead nested fields type kind := by
  cases type with
  | task =>
      rcases Except.bind_eq_ok.mp read with ⟨task, taskRead, read⟩
      cases read
      exact .task (some_of_fit taskRead)
  | pass =>
      cases read
      exact .pass
  | choice =>
      rcases Except.bind_eq_ok.mp read with ⟨branches, branchesRead, read⟩
      rcases Except.bind_eq_ok.mp read with ⟨fallback, fallbackRead, read⟩
      cases read
      exact .choice branchesRead (some_of_fit fallbackRead)
  | wait =>
      rcases Except.bind_eq_ok.mp read with ⟨seconds, secondsRead, read⟩
      rcases Except.bind_eq_ok.mp read with ⟨timestamp, timestampRead, read⟩
      cases read
      exact .wait (some_of_fit secondsRead) (some_of_fit timestampRead)
  | succeed =>
      cases read
      exact .succeed
  | fail =>
      rcases Except.bind_eq_ok.mp read with ⟨error, errorRead, read⟩
      rcases Except.bind_eq_ok.mp read with ⟨cause, causeRead, read⟩
      cases read
      exact .fail (some_of_fit errorRead) (some_of_fit causeRead)
  | map =>
      rcases Except.bind_eq_ok.mp read with ⟨_, _, read⟩
      rcases Except.bind_eq_ok.mp read with ⟨processor, processorRead, read⟩
      rcases Except.bind_eq_ok.mp read with ⟨_, _, read⟩
      rcases Except.bind_eq_ok.mp read with ⟨iterator, iteratorRead, read⟩
      rcases Except.bind_eq_ok.mp read with ⟨mapping, mappingRead, read⟩
      cases read
      exact .map processorRead iteratorRead (some_of_fit mappingRead)
  | parallel =>
      rcases Except.bind_eq_ok.mp read with ⟨branches, branchesRead, read⟩
      cases read
      exact .parallel branchesRead

theorem KindRead.type_eq {nested : Json → Except Misfit Graph} {fields : Record.Fields}
    {type : StateType} {kind : StateKind} (read : KindRead nested fields type kind)
    (common : Common) : (State.mk common kind).type = type := by
  cases read <;> rfl

/-- What a state is read from, given the fuel that is left for its graphs: its type, what it has in
common with others, and its kind. -/
structure Parsed (fuel : Nat) (fields : Record.Fields) (state : State) : Prop where
  declared : ∀ name, declaredType name fields = .ok state.type
  common : Common.read? state.type fields = some state.common
  kind : KindRead (readGraph fuel) fields state.type state.kind

theorem parsed_of_readState {fuel : Nat} {document : Json} {state : State}
    (read : readState fuel document = .ok state) :
    ∃ below fields, fuel = below + 1 ∧ document = .object fields ∧ Parsed below fields state := by
  rw [readState.eq_def] at read
  split at read
  next below fields =>
    rcases Except.bind_eq_ok.mp read with ⟨type, typeRead, read⟩
    rcases Except.bind_eq_ok.mp read with ⟨kind, kindRead, read⟩
    rcases Except.bind_eq_ok.mp read with ⟨common, commonRead, read⟩
    cases read
    have kindRead := kindRead_of_readKind kindRead
    cases kindRead.type_eq common
    exact ⟨below, fields, rfl, rfl, declaredType_of_required (some_of_fit typeRead),
      some_of_fit commonRead, kindRead⟩
  next => cases read

/-- What a graph is read from, given the fuel that is left for its states. -/
inductive Drawn (fuel : Nat) (fields : Record.Fields) : Graph → Prop where
  | intro {startAt : String} {states : List (String × State)} {comment : Option String}
      {documents : List (String × Json)}
      (commentRead : Record.optional Json.string? "Comment" fields = some comment)
      (startRead : Record.orElse (fun value => value.string?.map some) none "StartAt" fields =
        some (some startAt))
      (isField : Json.lookup "States" fields = some (.object documents))
      (statesRead : (documents.mapM fun (name, raw) => do
        let state ← readState fuel raw
        return (name, state)) = .ok states) :
      Drawn fuel fields (.mk startAt states comment (Record.any "ProcessorConfig" fields))

theorem drawn_of_readGraph {fuel : Nat} {document : Json} {graph : Graph}
    (read : readGraph fuel document = .ok graph) :
    ∃ below fields, fuel = below + 1 ∧
      Record.fields? ["StartAt", "States", "Comment", "ProcessorConfig"] document = some fields ∧
        Drawn below fields graph := by
  cases fuel with
  | zero => cases read
  | succ below =>
    rw [readGraph] at read
    rcases Except.bind_eq_ok.mp read with ⟨fields, fieldsRead, read⟩
    rcases Except.bind_eq_ok.mp read with ⟨comment, commentRead, read⟩
    rcases Except.bind_eq_ok.mp read with ⟨start, startRead, read⟩
    split at read
    next documents isField =>
      rcases Except.bind_eq_ok.mp read with ⟨states, statesRead, read⟩
      rcases Except.bind_eq_ok.mp read with ⟨startAt, isStart, read⟩
      cases some_of_fit isStart
      cases read
      exact ⟨below, fields, rfl, some_of_fit fieldsRead, .intro (some_of_fit commentRead)
        (some_of_fit startRead) isField statesRead⟩
    next => cases read

/-- Where a state of a graph was read from. -/
theorem Drawn.source {fuel : Nat} {fields : Record.Fields} {graph : Graph}
    (drawn : Drawn fuel fields graph)
    {name : String} {state : State} (isState : (name, state) ∈ graph.states) :
    ∃ documents raw, Json.lookup "States" fields = some (.object documents) ∧
      (name, raw) ∈ documents ∧ readState fuel raw = .ok state := by
  cases drawn with
  | @intro _ _ _ documents commentRead startRead isField statesRead =>
    rcases Except.exists_of_mapM statesRead isState with ⟨⟨other, raw⟩, isRaw, done⟩
    rcases Except.bind_eq_ok.mp done with ⟨found, stateRead, done⟩
    cases done
    exact ⟨documents, raw, isField, isRaw, stateRead⟩

/-- What a state that was inspected and read holds: a Map has a processor, and every graph that
runs in the state stands in its document, where it was checked and read. -/
theorem nested_of_readState {below fuel : Nat} {name : String} {inherited : Dialect}
    {members : List (String × Json)} {state : State}
    (inspected : Inspected below name inherited members)
    (read : readState fuel (.object members) = .ok state) :
    (∀ processor iterator mapping, state.kind = .map processor iterator mapping →
      processor.or iterator ≠ none) ∧
    ∀ graph ∈ state.kind.graphs, ∃ fuel fields, Holds members fields ∧
      readGraph fuel (.object fields) = .ok graph ∧ checkGraph below inherited fields = .ok () := by
  rcases parsed_of_readState read with ⟨fuel, _, _, same, parsed⟩
  cases same
  have processed : ∀ key ∈ ["ItemProcessor", "Iterator"], ∀ graph,
      readOptional (readGraph fuel) (Json.lookup key members) = .ok (some graph) →
        ∃ fuel fields, Holds members fields ∧ readGraph fuel (.object fields) = .ok graph ∧
          checkGraph below inherited fields = .ok () := by
    intro key isKey graph done
    rcases exists_of_readOptional done with ⟨document, found, graphRead⟩
    rcases inspected.nested key isKey document found with ⟨fields, rfl, checked⟩
    exact ⟨fuel, fields, .processor isKey found, graphRead, checked⟩
  -- The type is set free, so that each kind of reading can settle it.
  have kindRead := parsed.kind
  have declared := parsed.declared
  generalize state.type = type at kindRead declared
  rcases state with ⟨common, kind⟩
  cases kindRead with
  | @map processor iterator mapping processorRead iteratorRead =>
      refine ⟨?_, ?_⟩
      · rintro _ _ _ ⟨⟩ missing
        rcases Option.or_eq_none_iff.mp missing with ⟨rfl, rfl⟩
        rcases inspected.processor (declared name) with ⟨key, isKey, found⟩
        rcases Option.ne_none_iff_exists'.mp found with ⟨document, found⟩
        rcases inspected.nested key isKey document found with ⟨fields, rfl, _⟩
        simp only [List.mem_cons, List.not_mem_nil, or_false] at isKey
        rcases isKey with rfl | rfl
        · exact not_object_of_readOptional processorRead fields found
        · exact not_object_of_readOptional iteratorRead fields found
      · intro graph runs
        cases processor with
        | some processor =>
            rw [List.mem_singleton.mp runs]
            exact processed "ItemProcessor" (by simp) processor processorRead
        | none =>
            cases iterator with
            | some iterator =>
                rw [List.mem_singleton.mp runs]
                exact processed "Iterator" (by simp) iterator iteratorRead
            | none => cases runs
  | parallel branchesRead =>
      refine ⟨by simp [State.kind], ?_⟩
      intro graph runs
      simp only [readItems] at branchesRead
      split at branchesRead
      case h_1 items found =>
        rcases Except.exists_of_mapM branchesRead runs with ⟨document, isItem, graphRead⟩
        rcases inspected.branches items found document isItem with ⟨fields, rfl, checked⟩
        exact ⟨fuel, fields, .branch found isItem, graphRead, checked⟩
      case h_2 => cases branchesRead
  | _ => exact ⟨by simp [State.kind], by simp [State.kind, StateKind.graphs]⟩

/-- A state of a graph that was checked and read was checked and read too. -/
theorem state_of_readGraph {inherited : Dialect} {checkFuel readFuel : Nat}
    {members : List (String × Json)} {graph : Graph}
    (checked : checkGraph checkFuel inherited members = .ok ())
    (read : readGraph readFuel (.object members) = .ok graph) {name : String} {state : State}
    (isState : (name, state) ∈ graph.states) :
    ∃ below fuel fields, Lists members name fields ∧
      checkState below name inherited fields = .ok () ∧
        readState fuel (.object fields) = .ok state := by
  rcases states_of_checkGraph checked with ⟨below, states, rfl, found, each⟩
  rcases drawn_of_readGraph read with ⟨fuel, fields, rfl, fieldsRead, drawn⟩
  cases fieldsRead
  rcases drawn.source isState with ⟨documents, raw, isField, isRaw, stateRead⟩
  cases found.symm.trans isField
  rcases each name raw isRaw with ⟨fields, rfl, stateChecked⟩
  exact ⟨below, fuel, fields, ⟨states, found, isRaw⟩, stateChecked, stateRead⟩

/-- Every graph that runs somewhere in a graph that was checked and read has processors for its
Maps. -/
theorem equipped_of_readGraph {inherited : Dialect} {graph nested : Graph}
    (nests : graph.Nests nested) {checkFuel readFuel : Nat} {members : List (String × Json)}
    (checked : checkGraph checkFuel inherited members = .ok ())
    (read : readGraph readFuel (.object members) = .ok graph) : nested.Equipped := by
  induction nests generalizing checkFuel readFuel members with
  | self graph =>
      intro name common processor iterator mapping isState
      rcases state_of_readGraph checked read isState with
        ⟨_, _, fields, _, stateChecked, stateRead⟩
      rcases inspected_of_checkState stateChecked with ⟨below, _, inspected⟩
      exact (nested_of_readState inspected stateRead).1 processor iterator mapping rfl
  | inner isState runs nests ih =>
      rcases state_of_readGraph checked read isState with
        ⟨_, _, fields, _, stateChecked, stateRead⟩
      rcases inspected_of_checkState stateChecked with ⟨below, _, inspected⟩
      rcases (nested_of_readState inspected stateRead).2 _ runs with
        ⟨fuel, fields, _, innerRead, innerChecked⟩
      exact ih innerChecked innerRead

/-! ## Loading -/

/-- What loading has found in a document, given the dialect of machines that declare none. -/
structure Loaded (members : List (String × Json)) (inherited dialect : Dialect)
    (machine : Machine) : Prop where
  declared : declaredDialect "" inherited members = .ok dialect
  checked : ∃ fuel, checkGraph fuel dialect members = .ok ()
  own : Record.optional Dialect.read? "QueryLanguage" members = some machine.dialect
  read : ∃ fuel, readGraph fuel (.object members) = .ok machine.graph
  validated : validate dialect machine.graph = .ok ()

theorem loaded_of_load {document : Json} {inherited : Dialect} {machine : Machine}
    (loaded : load document inherited = .ok machine) :
    ∃ members dialect, document = .object members ∧ Loaded members inherited dialect machine := by
  cases document with
  | object members =>
    rcases load_eq_ok.mp loaded with ⟨_, dialect, declared, checked, machineRead, validated⟩
    rcases machineOf_eq_ok.mp machineRead with ⟨own, _, _, graphRead⟩
    exact ⟨members, dialect, rfl, declared, ⟨_, checked⟩, own, ⟨_, graphRead⟩, validated⟩
  | _ => cases loaded

/-- Every graph that runs somewhere in a loaded machine is closed, and its Maps have
processors. -/
theorem sound_of_load {document : Json} {inherited : Dialect} {machine : Machine}
    (loaded : load document inherited = .ok machine) {nested : Graph}
    (nests : machine.graph.Nests nested) : nested.Closed ∧ nested.Equipped := by
  rcases loaded_of_load loaded with ⟨members, dialect, _, found⟩
  rcases found.checked with ⟨checkFuel, checked⟩
  rcases found.read with ⟨readFuel, read⟩
  exact ⟨closed_of_validate found.validated nests, equipped_of_readGraph nests checked read⟩

end Definition

end Workflow
