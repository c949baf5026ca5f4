import Workflow.Command.Run
import Workflow.Proofs.Dialects
import Workflow.Proofs.Texts

/-!
# Verdicts on definitions

When the two commands agree on a definition. Validating knows no settings: it loads a definition in
the path dialect unless the definition says otherwise. Running loads it in the dialect of the
settings. So they agree when the settings keep the path dialect, and when every state has a dialect
of its own or that of the machine; otherwise a definition may be valid in the one dialect only.
-/

namespace Workflow

namespace Definition

/-! ## States with a dialect of their own -/

/-- The document of a machine declares a dialect, or every state in it does, at every depth. -/
def Settled (root : List (String × Json)) : Prop :=
  Json.lookup "QueryLanguage" root ≠ none ∨
    ∀ stack name fields, StateAt root stack name fields → Json.lookup "QueryLanguage" fields ≠ none

theorem declaredDialect_eq {name : String} {fields : List (String × Json)}
    (declares : Json.lookup "QueryLanguage" fields ≠ none) (inherited other : Dialect) :
    declaredDialect name inherited fields = declaredDialect name other fields := by
  rcases Option.ne_none_iff_exists'.mp declares with ⟨value, found⟩
  simp only [declaredDialect, found]

theorem checkFields_eq {name : String} {fields : List (String × Json)}
    (declares : Json.lookup "QueryLanguage" fields ≠ none) (inherited other : Dialect) :
    checkFields name inherited fields = checkFields name other fields := by
  simp only [checkFields, declaredDialect_eq declares inherited other]

variable {root : List (String × Json)} {inherited : Dialect}

mutual

/-- Documents whose states all declare a dialect are checked alike whatever they inherit. -/
theorem checkGraph_of_own (own : ∀ stack name fields, StateAt root stack name fields →
      Json.lookup "QueryLanguage" fields ≠ none) (other : Dialect) {fuel : Nat}
    {stack : List String} {members : List (String × Json)} (stands : GraphAt root stack members)
    (checked : checkGraph fuel inherited members = .ok ()) :
    checkGraph fuel other members = .ok () := by
  match fuel with
  | 0 => cases checked
  | fuel + 1 =>
    rcases checkGraph_eq_ok.mp checked with ⟨states, found, each⟩
    refine checkGraph_eq_ok.mpr ⟨states, found, fun name raw isState => ?_⟩
    rcases each name raw isState with ⟨fits, fields, rfl, checked⟩
    exact ⟨fits, fields, rfl, checkState_of_own own other stands ⟨states, found, isState⟩ checked⟩
termination_by fuel

theorem checkState_of_own (own : ∀ stack name fields, StateAt root stack name fields →
      Json.lookup "QueryLanguage" fields ≠ none) (other : Dialect) {fuel : Nat}
    {stack : List String} {members fields : List (String × Json)} {name : String}
    (stands : GraphAt root stack members) (lists : Lists members name fields)
    (checked : checkState fuel name inherited fields = .ok ()) :
    checkState fuel name other fields = .ok () := by
  match fuel with
  | 0 => cases checked
  | fuel + 1 =>
    rcases checkState_eq_ok.mp checked with ⟨dialect, fieldsChecked, nested, branches⟩
    have declares := own stack name fields ⟨members, stands, lists⟩
    have part : ∀ {key raw}, (∀ inner, raw = .object inner → Holds fields inner) →
        PartChecked fuel name key inherited dialect raw →
          PartChecked fuel name key other dialect raw := by
      rintro key raw holds ⟨inner, rfl, keys, checked⟩
      exact ⟨inner, rfl, keys,
        checkGraph_of_own own other (.nested stands lists (holds inner rfl)) checked⟩
    refine checkState_eq_ok.mpr ⟨dialect, ?_, ?_, ?_⟩
    · rwa [checkFields_eq declares other inherited]
    · intro key isKey raw found
      refine part ?_ (nested key isKey raw found)
      rintro inner rfl
      exact .processor isKey found
    · intro raw found
      rcases branches raw found with ⟨items, rfl, each⟩
      refine ⟨items, rfl, fun branch isBranch => part ?_ (each branch isBranch)⟩
      rintro inner rfl
      exact .branch found isBranch
termination_by fuel

end

/-! ## Validation -/

theorem validateAll_eq_ok {graphs : List Graph} :
    validateAll inherited graphs = .ok () ↔
      ∀ graph ∈ graphs, validate inherited graph = .ok () := by
  induction graphs with
  | nil => simp [validateAll]
  | cons graph rest ih => rw [validateAll, Except.bind_unit_eq_ok, ih, List.forall_mem_cons]

theorem validateKind_eq_ok {name : String} {dialect : Dialect} {kind : StateKind} :
    validateKind inherited name dialect kind = .ok () ↔
      (∀ branches fallback, kind = .choice branches fallback →
        ∀ branch ∈ branches, checkRule name dialect branch.rule = .ok ()) ∧
      ∀ graph ∈ kind.graphs, validate inherited graph = .ok () := by
  match kind with
  | .choice branches fallback =>
    simp only [validateKind, Except.forM_eq_ok, StateKind.graphs]
    simp
  | .map (some processor) iterator mapping => simp [validateKind, StateKind.graphs]
  | .map none (some iterator) mapping => simp [validateKind, StateKind.graphs]
  | .map none none mapping => simp [validateKind, StateKind.graphs]
  | .parallel branches => simp [validateKind, StateKind.graphs, validateAll_eq_ok]
  | .task _ | .pass _ | .wait _ _ | .succeed | .fail _ _ => simp [validateKind, StateKind.graphs]

theorem validateStates_eq_ok {all states : List (String × State)} :
    validateStates inherited all states = .ok () ↔
      ∀ name state, (name, state) ∈ states →
        checkTransition name state = .ok () ∧ checkTargets all name state = .ok () ∧
          validateKind inherited name (state.dialectOr inherited) state.kind = .ok () := by
  induction states with
  | nil => simp [validateStates]
  | cons entry rest ih =>
    rcases entry with ⟨name, common, kind⟩
    rw [validateStates]
    simp only [Except.bind_unit_eq_ok, ih]
    constructor
    · rintro ⟨transition, targets, kindValid, others⟩ other state isState
      rcases List.mem_cons.mp isState with same | isRest
      · cases same
        exact ⟨transition, targets, kindValid⟩
      · exact others other state isRest
    · intro each
      rcases each name (.mk common kind) List.mem_cons_self with ⟨transition, targets, kindValid⟩
      exact ⟨transition, targets, kindValid, fun other state isRest =>
        each other state (List.mem_cons_of_mem _ isRest)⟩

theorem validate_eq_ok {graph : Graph} :
    validate inherited graph = .ok () ↔
      Graph.find? graph.startAt graph.states ≠ none ∧
      validateStates inherited graph.states graph.states = .ok () ∧
        checkReachable graph.states graph.startAt = .ok () := by
  rcases graph with ⟨startAt, states, comment, processorConfig⟩
  rw [validate]
  by_cases missing : (Graph.find? startAt states).isNone = true
  · rw [if_pos missing]
    constructor
    · intro failed
      cases failed
    · intro valid
      exact absurd (Option.isNone_iff_eq_none.mp missing) valid.1
  · have entry : Graph.find? startAt states ≠ none := mt Option.isNone_iff_eq_none.mpr missing
    rw [if_neg missing]
    exact Except.bind_unit_eq_ok.trans (and_iff_right entry).symm

/-- Every state that runs somewhere in a graph has a dialect of its own. -/
def OwnDialects (graph : Graph) : Prop :=
  ∀ nested, graph.Nests nested → ∀ name state, (name, state) ∈ nested.states →
    ∀ inherited other, state.dialectOr inherited = state.dialectOr other

/-- Such graphs are valid alike whatever they inherit. -/
theorem validate_of_own (other : Dialect) {graph : Graph} (own : OwnDialects graph)
    (validated : validate inherited graph = .ok ()) : validate other graph = .ok () := by
  rcases validate_eq_ok.mp validated with ⟨entry, states, reachable⟩
  refine validate_eq_ok.mpr
    ⟨entry, validateStates_eq_ok.mpr fun name state isState => ?_, reachable⟩
  rcases validateStates_eq_ok.mp states name state isState with ⟨transition, targets, kind⟩
  rw [own graph (.self graph) name state isState inherited other] at kind
  rcases validateKind_eq_ok.mp kind with ⟨rules, graphs⟩
  refine ⟨transition, targets, validateKind_eq_ok.mpr ⟨rules, fun inner runs => ?_⟩⟩
  have smaller := Graph.sizeOf_lt_of_runs isState runs
  exact validate_of_own other (fun nested nests => own nested (.inner isState runs nests))
    (graphs inner runs)
termination_by sizeOf graph

/-! ## Loading -/

theorem Sited.ownDialects {stack : List String} {graph : Graph}
    (sited : Sited root inherited stack graph)
    (own : ∀ stack name fields, StateAt root stack name fields →
      Json.lookup "QueryLanguage" fields ≠ none) : OwnDialects graph := by
  intro nested nests name state isState first second
  rcases sited.nested nests with ⟨deeper, sited⟩
  rcases (sited.placed isState).1 with ⟨fields, dialect, placed⟩
  rcases placed.read with ⟨fuel, read⟩
  have declares := own deeper name fields placed.stands
  have same : ∀ other, state.dialectOr other = dialect := by
    intro other
    have checked := placed.fieldsChecked
    rw [checkFields_eq declares inherited other] at checked
    exact dialectOr_of_checkFields checked (reads_of_readState read)
  rw [same, same]

/-- What such a document is loaded as does not depend on the dialect that is handed to it. -/
theorem load_of_settled (settled : Settled root) (other : Dialect) {machine : Machine}
    (loaded : load (.object root) inherited = .ok machine) :
    load (.object root) other = .ok machine := by
  rcases load_eq_ok.mp loaded with ⟨keys, dialect, declared, checked, read, validated⟩
  by_cases declares : Json.lookup "QueryLanguage" root = none
  · have own := settled.resolve_left (not_not.mpr declares)
    rcases loaded_of_load loaded with ⟨_, _, ⟨⟩, found⟩
    have alike : OwnDialects machine.graph := found.sited.ownDialects own
    have inherits : declaredDialect "" other root = .ok other := by
      simp only [declaredDialect, declares]
    exact load_eq_ok.mpr ⟨keys, other, inherits, checkGraph_of_own own other .root checked, read,
      validate_of_own other alike validated⟩
  · rw [declaredDialect_eq declares inherited other] at declared
    exact load_eq_ok.mpr ⟨keys, dialect, declared, checked, read, validated⟩

end Definition

namespace Command

open Definition (Settled load)

/-! ## Commands -/

/-- Whether a run ends because its definition is not read or not loaded. -/
def Trouble.RefusesDefinition : Trouble → Prop
  | .unreadable purpose _ => purpose = .definition
  | .malformedFile purpose _ => purpose = .definition
  | .invalidDefinition _ _ => True
  | _ => False

/-- The definition in a file is loaded, given the dialect of machines that declare none. -/
def Loads (files : Files) (path : String) (inherited : Dialect) : Prop :=
  ∃ text document machine, files.text? path = some text ∧ Json.parse? text = some document ∧
    load document inherited = .ok machine

variable {environment : Environment} {files : Files} {order : RunOrder}

theorem orTrouble_eq_ok {α : Type} {trouble : Trouble} {found : Option α} {value : α} :
    orTrouble trouble found = .ok value ↔ found = some value := by
  cases found with
  | none => exact iff_of_false nofun nofun
  | some found => rw [orTrouble, Except.ok.injEq, Option.some.injEq]

theorem readDocument_eq_ok {purpose : Purpose} {path : String} {document : Json} :
    readDocument files purpose path = .ok document ↔
      ∃ text, files.text? path = some text ∧ Json.parse? text = some document := by
  simp only [readDocument, Except.bind_eq_ok, orTrouble_eq_ok]

theorem refuses_of_readDocument {path : String} {trouble : Trouble}
    (failed : readDocument files .definition path = .error trouble) :
    trouble.RefusesDefinition := by
  rcases Except.bind_eq_error.mp failed with unread | ⟨text, _, malformed⟩
  · cases found : files.text? path with
    | none =>
      rw [found] at unread
      cases unread
      exact rfl
    | some text =>
      rw [found] at unread
      cases unread
  · cases parsed : Json.parse? text with
    | none =>
      rw [parsed] at malformed
      cases malformed
      exact rfl
    | some document =>
      rw [parsed] at malformed
      cases malformed

theorem validate_ok_iff {style : Style} {path : String} :
    (∃ report, validate files style path = .ok report) ↔ Loads files path .path := by
  constructor
  · rintro ⟨report, done⟩
    rcases Except.bind_eq_ok.mp done with ⟨text, found, done⟩
    rcases Except.bind_eq_ok.mp done with ⟨machine, loaded, _⟩
    rw [Except.mapError_eq_ok, Definition.loadText] at loaded
    split at loaded
    next document parsed =>
      exact ⟨text, document, machine, orTrouble_eq_ok.mp found, parsed, loaded⟩
    next => cases loaded
  · rintro ⟨text, document, machine, found, parsed, loaded⟩
    refine ⟨validReport style path machine, ?_⟩
    refine Except.bind_eq_ok.mpr ⟨text, orTrouble_eq_ok.mpr found, ?_⟩
    refine Except.bind_eq_ok.mpr ⟨machine, ?_, rfl⟩
    rw [Except.mapError_eq_ok, Definition.loadText, parsed]
    exact loaded

/-- A run whose other inputs are read gets past its definition exactly if that is loaded. -/
theorem run_not_refused_iff {input : Json} {config : Config} {table : List (String × Resource)}
    (inputRead : readInput files order.input = .ok input)
    (configRead : readConfig files environment order.config = .ok config)
    (resourcesRead : readResources files order.resources = .ok table) (started : Instant)
    (source : Random.Source) (style : Style) :
    (∀ trouble, run environment files started source style order = .error trouble →
      ¬trouble.RefusesDefinition) ↔ Loads files order.definition config.dialect := by
  constructor
  · intro passes
    cases read : readDocument files .definition order.definition with
    | error trouble =>
      refine absurd (refuses_of_readDocument read) (passes trouble ?_)
      exact Except.bind_eq_error.mpr (.inl read)
    | ok document =>
      rcases readDocument_eq_ok.mp read with ⟨text, found, parsed⟩
      cases loaded : load document config.dialect with
      | error error =>
        refine absurd trivial (passes (.invalidDefinition order.definition error) ?_)
        refine Except.bind_eq_error.mpr (.inr ⟨document, read, ?_⟩)
        refine Except.bind_eq_error.mpr (.inr ⟨input, inputRead, ?_⟩)
        refine Except.bind_eq_error.mpr (.inr ⟨config, configRead, ?_⟩)
        refine Except.bind_eq_error.mpr (.inr ⟨table, resourcesRead, ?_⟩)
        refine Except.bind_eq_error.mpr (.inl ?_)
        rw [loaded]
        rfl
      | ok machine => exact ⟨text, document, machine, found, parsed, loaded⟩
  · rintro ⟨text, document, machine, found, parsed, loaded⟩ trouble failed
    have read : readDocument files .definition order.definition = .ok document :=
      readDocument_eq_ok.mpr ⟨text, found, parsed⟩
    have failed := Except.error_of_bind read failed
    have failed := Except.error_of_bind inputRead failed
    have failed := Except.error_of_bind configRead failed
    have failed := Except.error_of_bind resourcesRead failed
    have failed := Except.error_of_bind (Except.mapError_eq_ok.mpr loaded) failed
    dsimp only at failed
    split at failed
    next =>
      cases failed
      exact id
    next => cases failed
    next =>
      split at failed
      next => cases failed
      next =>
        cases failed
        exact id

/-- What decides about a definition: the dialect of the settings is that of validating, or the
document does not ask for it. -/
def Agreed (files : Files) (path : String) (config : Config) : Prop :=
  config.dialect = .path ∨ ∀ text root, files.text? path = some text →
    Json.parse? text = some (.object root) → Settled root

/-- Validating reports a definition as valid exactly if running it gets past loading. -/
theorem validate_iff_run {input : Json} {config : Config} {table : List (String × Resource)}
    (inputRead : readInput files order.input = .ok input)
    (configRead : readConfig files environment order.config = .ok config)
    (resourcesRead : readResources files order.resources = .ok table)
    (agreed : Agreed files order.definition config) (started : Instant) (source : Random.Source)
    (style shown : Style) :
    (∃ report, validate files shown order.definition = .ok report) ↔
      ∀ trouble, run environment files started source style order = .error trouble →
        ¬trouble.RefusesDefinition := by
  rw [validate_ok_iff, run_not_refused_iff inputRead configRead resourcesRead started source style]
  rcases agreed with same | settled
  · rw [same]
  · have alike : ∀ inherited other, Loads files order.definition inherited →
        Loads files order.definition other := by
      rintro inherited other ⟨text, document, machine, found, parsed, loaded⟩
      rcases Definition.loaded_of_load loaded with ⟨root, _, rfl, _⟩
      exact ⟨text, _, machine, found, parsed,
        Definition.load_of_settled (settled text root found parsed) other loaded⟩
    exact ⟨alike _ _, alike _ _⟩

/-! ## Settings with the functional dialect -/

def settingsText : String := "query_language = \"JSONata\"\n"

def settings : Config := { dialect := .functional }

def settingsEnvironment : Environment := [("STATELANG_CONFIG_DIR", "cfg")]

/-- The files of a definition and the settings. -/
def filesOf (definition : Json) : Files :=
  (({} : Files).add "cfg/config.toml" settingsText).add "d.json" definition.text

theorem text?_definition (definition : Json) :
    (filesOf definition).text? "d.json" = some definition.text := by
  have bytes : (filesOf definition).bytes? "d.json" = some (Encoding.utf8 definition.text) := rfl
  rw [Files.text?, bytes, Option.bind_some, Encoding.ofUtf8?_eq_some_iff]

set_option maxRecDepth 20000 in
theorem parse?_settings : (Toml.parse? settingsText).bind Config.read? = some settings := by cbv

theorem readConfig_settings (definition : Json) :
    readConfig (filesOf definition) settingsEnvironment none = .ok settings := by
  have bytes : (filesOf definition).bytes? "cfg/config.toml" = some (Encoding.utf8 settingsText) :=
    rfl
  have path : defaultConfigPath settingsEnvironment = "cfg/config.toml" := by decide
  have text : (filesOf definition).text? "cfg/config.toml" = some settingsText := by
    rw [Files.text?, bytes, Option.bind_some, Encoding.ofUtf8?_eq_some_iff]
  simp only [readConfig, path, text, parseConfig, parse?_settings, orTrouble]

/-- The end of a run, with an output that the path dialect does not allow. -/
def functionalEnd : Json :=
  .object [("StartAt", .string "Only"), ("States", .object [("Only", .object [
    ("Output", .bool true), ("Type", .string "Succeed")])])]

def declaredEnd : Json :=
  .object [("QueryLanguage", .string "JSONata"), ("StartAt", .string "Only"),
    ("States", .object [("Only", .object [("Output", .bool true), ("Type", .string "Succeed")])])]

theorem parse?_declaredEnd : Json.parse? declaredEnd.text = some declaredEnd := by
  apply Json.parse?_text
  · simp [declaredEnd, Json.Integral, Json.IntegralMembers]
  · simp only [declaredEnd, Json.Sorted, Json.SortedKeys, Json.SortedMembers, and_true,
      List.pairwise_cons]
    decide
  · decide

theorem parse?_functionalEnd : Json.parse? functionalEnd.text = some functionalEnd := by
  apply Json.parse?_text
  · simp [functionalEnd, Json.Integral, Json.IntegralMembers]
  · simp only [functionalEnd, Json.Sorted, Json.SortedKeys, Json.SortedMembers, and_true,
      List.pairwise_cons]
    decide
  · decide

theorem loads_filesOf_iff {definition : Json}
    (parsed : Json.parse? definition.text = some definition) {inherited : Dialect} :
    Loads (filesOf definition) "d.json" inherited ↔
      ∃ machine, load definition inherited = .ok machine := by
  constructor
  · rintro ⟨text, document, machine, found, read, loaded⟩
    cases (text?_definition definition).symm.trans found
    cases parsed.symm.trans read
    exact ⟨machine, loaded⟩
  · rintro ⟨machine, loaded⟩
    exact ⟨_, _, machine, text?_definition definition, parsed, loaded⟩

theorem load_declaredEnd (inherited : Dialect) :
    ∃ machine, load declaredEnd inherited = .ok machine := by
  cases inherited with
  | path => exact ⟨_, by cbv⟩
  | functional => exact ⟨_, by cbv⟩

theorem validate_iff_run_declared :
    Agreed (filesOf declaredEnd) "d.json" settings ∧
      ∀ trouble, run settingsEnvironment (filesOf declaredEnd) default default {}
        { definition := "d.json" } = .error trouble → ¬trouble.RefusesDefinition := by
  have agreed : Agreed (filesOf declaredEnd) "d.json" settings := by
    right
    intro text root found parsed
    cases (text?_definition declaredEnd).symm.trans found
    cases parse?_declaredEnd.symm.trans parsed
    left
    simp [Json.lookup]
  have valid : ∃ report, validate (filesOf declaredEnd) {} "d.json" = .ok report :=
    validate_ok_iff.mpr ((loads_filesOf_iff parse?_declaredEnd).mpr (load_declaredEnd .path))
  exact ⟨agreed,
    (validate_iff_run rfl (readConfig_settings declaredEnd) rfl agreed _ _ _ _).mp valid⟩

/-- Without that, a definition may be refused by validating only. -/
theorem settings_disagree :
    ¬∀ (environment : Environment) (files : Files) (order : RunOrder) (input : Json)
      (config : Config) (table : List (String × Resource)),
      readInput files order.input = .ok input →
      readConfig files environment order.config = .ok config →
      readResources files order.resources = .ok table →
      ∀ started source style shown,
        (∃ report, validate files shown order.definition = .ok report) ↔
          ∀ trouble, run environment files started source style order = .error trouble →
            ¬trouble.RefusesDefinition := by
  intro agree
  have same := agree settingsEnvironment (filesOf functionalEnd) { definition := "d.json" }
    (.object []) settings [] rfl (readConfig_settings _) rfl default default {} {}
  rw [validate_ok_iff, run_not_refused_iff rfl (readConfig_settings _) rfl,
    loads_filesOf_iff parse?_functionalEnd, loads_filesOf_iff parse?_functionalEnd] at same
  have loaded : ∃ machine, load functionalEnd .functional = .ok machine := ⟨_, by cbv⟩
  have refused : load functionalEnd .path =
      .error (.fieldNotAllowed "Only" "Succeed" "JSONPath" "Output") := by cbv
  rcases same.mpr loaded with ⟨machine, valid⟩
  rw [refused] at valid
  cases valid

end Command

end Workflow
