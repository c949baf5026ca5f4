import Workflow.Proofs.Records

/-!
# Reloading
-/

namespace Workflow

/-! ## Depths -/

namespace Json

theorem depth_le_of_mem_members {members : List (String × Json)} {key : String} {value : Json}
    (mem : (key, value) ∈ members) : value.depth ≤ depthOfMembers members := by
  induction members with
  | nil => cases mem
  | cons first rest ih =>
    rcases first with ⟨name, other⟩
    rw [depthOfMembers]
    rcases List.mem_cons.mp mem with same | mem
    · cases same
      exact Nat.le_max_left _ _
    · exact Nat.le_trans (ih mem) (Nat.le_max_right _ _)

theorem depth_le_of_mem_items {items : List Json} {item : Json} (mem : item ∈ items) :
    item.depth ≤ depthOfItems items := by
  induction items with
  | nil => cases mem
  | cons first rest ih =>
    rw [depthOfItems]
    rcases List.mem_cons.mp mem with same | mem
    · cases same
      exact Nat.le_max_left _ _
    · exact Nat.le_trans (ih mem) (Nat.le_max_right _ _)

theorem depth_le_of_lookup {members : List (String × Json)} {key : String} {value : Json}
    (found : lookup key members = some value) : value.depth ≤ depthOfMembers members :=
  depth_le_of_mem_members (mem_of_lookup found)

end Json

/-! ## Written graphs -/

/-- All graphs that a state is written with, whether they run or not. -/
def StateKind.parts : StateKind → List Graph
  | .map processor iterator _ => processor.toList ++ iterator.toList
  | .parallel branches => branches
  | _ => []

/-- A graph and every graph that it is written with. -/
inductive Graph.Embeds : Graph → Graph → Prop where
  | self (graph : Graph) : Embeds graph graph
  | part {graph part nested : Graph} {name : String} {state : State}
      (isState : (name, state) ∈ graph.states) (isPart : part ∈ state.kind.parts)
      (embeds : Embeds part nested) : Embeds graph nested

def Graph.members (graph : Graph) : List (String × Json) :=
  Json.overlay [] (Record.settled graph.toFields)

/-- The fields of a state as they are written. -/
def State.written (state : State) : List (String × Option Json) :=
  ("Type", some (.string state.type.name)) :: (state.common.toFields ++ state.kind.toFields)

def State.members (state : State) : List (String × Json) :=
  Json.overlay [] (Record.settled state.written)

theorem Graph.statesToMembers_eq (states : List (String × State)) :
    Graph.statesToMembers states =
      states.map fun (name, state) => (name, .object state.members) := by
  induction states with
  | nil => rfl
  | cons first rest ih =>
    rcases first with ⟨name, common, kind⟩
    rw [Graph.statesToMembers, ih]
    rfl

theorem Graph.listToJson_eq (graphs : List Graph) :
    Graph.listToJson graphs = graphs.map fun graph => .object graph.members := by
  induction graphs with
  | nil => rfl
  | cons first rest ih =>
    rw [Graph.listToJson, ih]
    rfl

theorem Graph.names_nodup (graph : Graph) : (graph.toFields.map Prod.fst).Nodup := by
  rcases graph with ⟨startAt, states, comment, config⟩
  simp [Graph.toFields]

/-- The names of the fields that states have in common. -/
def Common.names : List String :=
  ["Comment", "QueryLanguage", "Next", "End", "InputPath", "OutputPath", "ResultPath",
   "Parameters", "ResultSelector", "Arguments", "Output", "Assign", "Retry", "Catch"]

/-- The names of the fields of a state besides those that states have in common. -/
def StateType.names : StateType → List String
  | .task => ["Resource", "Credentials", "TimeoutSeconds", "TimeoutSecondsPath",
      "HeartbeatSeconds", "HeartbeatSecondsPath"]
  | .pass => ["Result"]
  | .choice => ["Choices", "Default"]
  | .wait => ["Seconds", "SecondsPath", "Timestamp", "TimestampPath"]
  | .succeed => []
  | .fail => ["Error", "ErrorPath", "Cause", "CausePath"]
  | .map => ["ItemProcessor", "Iterator", "Items", "ItemsPath", "ItemSelector", "ItemReader",
      "ItemBatcher", "ResultWriter", "Label", "MaxConcurrency", "MaxConcurrencyPath",
      "ToleratedFailureCount", "ToleratedFailureCountPath", "ToleratedFailurePercentage",
      "ToleratedFailurePercentagePath"]
  | .parallel => ["Branches"]

theorem State.names_written (state : State) :
    state.written.map Prod.fst = "Type" :: (Common.names ++ state.type.names) := by
  rcases state with ⟨common, kind⟩
  cases kind <;> rfl

theorem State.names_nodup (state : State) : (state.written.map Prod.fst).Nodup := by
  rw [names_written]
  cases state.type <;> decide

theorem State.shows_written (state : State) : Record.Shows state.members state.written :=
  Record.shows_object state.names_nodup

theorem Graph.shows_fields (graph : Graph) : Record.Shows graph.members graph.toFields :=
  Record.shows_object graph.names_nodup

/-! ## Fewer fields -/

/-- Fields that are read alike where they are there, though some may be missing. -/
def Record.Within (some fields : Record.Fields) : Prop :=
  ∀ name value, Json.lookup name some = Option.some value →
    Json.lookup name fields = Option.some value

namespace Record

variable {α : Type} {read : Json → Option α} {name : String} {part fields : Fields}

theorem within_filter (keep : String → Bool) (fields : Fields) :
    Within (fields.filter fun (key, _) => keep key) fields := by
  intro name value found
  rw [lookup_filter] at found
  split at found
  · exact found
  · cases found

theorem Within.filter (within : Within part fields) (keep : String → Bool) :
    Within (part.filter fun (key, _) => keep key) (fields.filter fun (key, _) => keep key) := by
  intro name value found
  rw [lookup_filter] at found ⊢
  split at found
  next kept =>
    rw [if_pos kept]
    exact within name value found
  next => cases found

theorem Within.eq_or_none (within : Within part fields) (name : String) :
    Json.lookup name part = Json.lookup name fields ∨ Json.lookup name part = none := by
  cases found : Json.lookup name part with
  | none => exact .inr rfl
  | some value => exact .inl (within name value found).symm

theorem Within.optional (within : Within part fields) {found : Option α}
    (was : optional read name fields = some found) :
    ∃ found, Record.optional read name part = some found := by
  rcases within.eq_or_none name with same | missing
  · exact ⟨found, by rwa [Record.optional, same]⟩
  · exact ⟨none, by rw [Record.optional, missing]⟩

theorem Within.nullable (within : Within part fields) {found : Option (Option α)}
    (was : nullable read name fields = some found) :
    ∃ found, Record.nullable read name part = some found := by
  rcases within.eq_or_none name with same | missing
  · exact ⟨found, by rwa [Record.nullable, same]⟩
  · exact ⟨none, by rw [Record.nullable, missing]⟩

theorem Within.orElse (within : Within part fields) {initial found : α}
    (was : orElse read initial name fields = some found) :
    ∃ found, Record.orElse read initial name part = some found := by
  rcases within.eq_or_none name with same | missing
  · exact ⟨found, by rwa [Record.orElse, same]⟩
  · exact ⟨initial, by rw [Record.orElse, missing]⟩

theorem Within.setting (within : Within part fields) {setting : Setting α}
    (was : setting.Read read name fields) : ∃ setting : Setting α, setting.Read read name part := by
  rcases within.optional was.given with ⟨given, givenRead⟩
  rcases within.optional was.path with ⟨path, pathRead⟩
  exact ⟨⟨given, path⟩, givenRead, pathRead⟩

/-- What states have in common is read from fewer fields too. -/
theorem Within.common {type : StateType} (within : Within part fields) {common : Common}
    (was : Common.read? type fields = some common) :
    ∃ common, Common.read? type part = some common := by
  have read := Common.read?_iff.mp was
  have known := within.filter type.knows
  rcases known.optional read.comment with ⟨comment, commentRead⟩
  rcases known.optional read.dialect with ⟨dialect, dialectRead⟩
  rcases known.optional read.next with ⟨next, nextRead⟩
  rcases known.optional read.ends with ⟨ends, endsRead⟩
  rcases known.nullable read.inputPath with ⟨inputPath, inputPathRead⟩
  rcases known.nullable read.outputPath with ⟨outputPath, outputPathRead⟩
  rcases known.nullable read.resultPath with ⟨resultPath, resultPathRead⟩
  rcases known.orElse read.retriers with ⟨retriers, retriersRead⟩
  rcases known.orElse read.catchers with ⟨catchers, catchersRead⟩
  exact ⟨{ comment, dialect, next, ends, inputPath, outputPath, resultPath, retriers, catchers
           parameters := _, resultSelector := _, arguments := _, output := _, assign := _ },
    Common.read?_iff.mpr ⟨commentRead, dialectRead, nextRead, endsRead, inputPathRead,
      outputPathRead, resultPathRead, retriersRead, catchersRead, rfl, rfl, rfl, rfl, rfl⟩⟩

/-- What a Map does is read from fewer fields too. -/
theorem Within.mapping (within : Within part fields) {mapping : Mapping}
    (was : Mapping.read? fields = some mapping) : ∃ mapping, Mapping.read? part = some mapping := by
  have read := Mapping.read?_iff.mp was
  rcases within.optional read.itemsPath with ⟨itemsPath, itemsPathRead⟩
  rcases within.optional read.reader with ⟨reader, readerRead⟩
  rcases within.optional read.batcher with ⟨batcher, batcherRead⟩
  rcases within.optional read.writer with ⟨writer, writerRead⟩
  rcases within.setting read.concurrency with ⟨maxConcurrency, concurrencyRead⟩
  rcases within.setting read.count with ⟨toleratedCount, countRead⟩
  rcases within.setting read.percentage with ⟨toleratedPercentage, percentageRead⟩
  rcases within.optional read.label with ⟨label, labelRead⟩
  exact ⟨{ itemsPath, reader, batcher, writer, maxConcurrency, toleratedCount
           toleratedPercentage, label, items := _, itemSelector := _ },
    Mapping.read?_iff.mpr ⟨rfl, itemsPathRead, rfl, readerRead, batcherRead, writerRead,
      concurrencyRead, countRead, percentageRead, labelRead⟩⟩

end Record

namespace Definition

theorem precede_eq_ok {name : String} {fields : Record.Fields} {common : Common}
    {mapping : Mapping} (commonRead : Common.read? .map fields = some common)
    (mappingRead : Mapping.read? fields = some mapping) : precede name fields = .ok () := by
  have within := Record.within_filter (fun other => decide (other < name)) fields
  rcases within.common commonRead with ⟨_, commonFits⟩
  rcases within.mapping mappingRead with ⟨_, mappingFits⟩
  rw [precede]
  simp only [commonFits, mappingFits]
  rfl

end Definition

/-! ## Reading again -/

theorem Except.mapM_map_eq_ok {ε α β : Type} {read : β → Except ε α} {write : α → β}
    {items : List α} (each : ∀ item ∈ items, read (write item) = .ok item) :
    (items.map write).mapM read = .ok items := by
  induction items with
  | nil => rfl
  | cons first rest ih =>
    rw [List.map_cons, List.mapM_cons, each first List.mem_cons_self,
      ih fun item mem => each item (List.mem_cons_of_mem _ mem)]
    rfl

theorem Branch.restored {items : List Json} (proper : ∀ item ∈ items, item.Proper)
    {branches : List Branch} (was : items.mapM Definition.readBranch = .ok branches) :
    branches.map Branch.toJson = items := by
  induction items generalizing branches with
  | nil =>
    cases was
    rfl
  | cons first rest ih =>
    rw [List.mapM_cons] at was
    rcases Except.bind_eq_ok.mp was with ⟨branch, firstRead, was⟩
    rcases Except.bind_eq_ok.mp was with ⟨others, restRead, was⟩
    cases was
    have below := ih (fun item mem => proper item (List.mem_cons_of_mem _ mem)) restRead
    rw [List.map_cons, below]
    cases first with
    | object members =>
      have sorted := (proper _ List.mem_cons_self).sorted
      cases done : Branch.read members with
      | ok found =>
        simp only [Definition.readBranch, done] at firstRead
        cases firstRead
        rw [Branch.toJson_of_read done sorted]
      | error flaw =>
        simp only [Definition.readBranch, done] at firstRead
        cases firstRead
    | _ => cases firstRead

namespace Definition

variable {fields members : Record.Fields} {type : StateType} {kind : StateKind}

/-- The parts of a kind of state are read from its fields. -/
theorem KindRead.restored {nested again : Json → Except Misfit Graph}
    (read : KindRead nested fields type kind) (own : Record.Proper fields)
    (shown : Record.Shows members kind.toFields) {common : Common}
    (commonRead : Common.read? type members = some common)
    (parts : ∀ part ∈ kind.parts, again (.object part.members) = .ok part) :
    readKind again type members = .ok kind := by
  cases read with
  | task taskRead =>
    have task := (Task.read?_iff.mp taskRead).restored own shown
    rw [readKind, Task.read?_iff.mpr task]
    rfl
  | pass =>
    simp only [StateKind.toFields, Record.shows_cons, Record.shows_nil, and_true] at shown
    rw [readKind, Record.any_restored shown]
    rfl
  | @choice branches fallback branchesRead fallbackRead =>
    simp only [StateKind.toFields, Record.shows_cons, Record.shows_nil, and_true] at shown
    rcases shown with ⟨branchesShown, fallbackShown⟩
    have fallback := Record.optional_restored Record.restores_string own fallbackRead fallbackShown
    rw [readItems.eq_def] at branchesRead
    split at branchesRead
    next items isField =>
      have proper := own _ _ isField
      rw [Branch.restored (fun item mem => proper.item mem) branchesRead] at branchesShown
      rw [readKind, branchesShown, readItems, branchesRead, fallback]
      rfl
    next => cases branchesRead
  | wait secondsRead timestampRead =>
    rw [StateKind.toFields, Record.shows_append] at shown
    have seconds := (Setting.read?_iff.mp secondsRead).restored_unsigned own shown.1
    have timestamp := (TextSetting.read?_iff.mp timestampRead).restored own shown.2
    rw [readKind, Setting.read?_iff.mpr seconds, TextSetting.read?_iff.mpr timestamp]
    rfl
  | succeed => rfl
  | fail errorRead causeRead =>
    rw [StateKind.toFields, Record.shows_append] at shown
    have error := (TextSetting.read?_iff.mp errorRead).restored own shown.1
    have cause := (TextSetting.read?_iff.mp causeRead).restored own shown.2
    rw [readKind, TextSetting.read?_iff.mpr error, TextSetting.read?_iff.mpr cause]
    rfl
  | @map processor iterator mapping processorRead iteratorRead mappingRead =>
    simp only [StateKind.toFields, Record.shows_cons] at shown
    rcases shown with ⟨processorShown, iteratorShown, mappingShown⟩
    have mappingRead := Mapping.read?_iff.mpr
      ((Mapping.read?_iff.mp mappingRead).restored own mappingShown)
    have optional : ∀ found : Option Graph, (∀ part ∈ found.toList, part ∈ (StateKind.map processor
        iterator mapping).parts) → readOptional again (Graph.optionToJson found) = .ok found := by
      intro found isPart
      cases found with
      | none => rfl
      | some part =>
        have partRead := parts part (isPart part (List.mem_singleton_self part))
        rw [Graph.optionToJson, Record.object_eq, ← Graph.members, readOptional, partRead]
        · rfl
        · intro same
          cases same
    have processor := optional processor fun _ mem => List.mem_append_left _ mem
    have iterator := optional iterator fun _ mem => List.mem_append_right _ mem
    rw [readKind, precede_eq_ok commonRead mappingRead, precede_eq_ok commonRead mappingRead,
      processorShown, iteratorShown, processor, iterator, mappingRead]
    rfl
  | parallel branchesRead =>
    simp only [StateKind.toFields, Record.shows_cons, Record.shows_nil, and_true] at shown
    rw [StateKind.parts] at parts
    rw [readKind, shown, readItems, Graph.listToJson_eq, Except.mapM_map_eq_ok parts]
    rfl

/-- The documents that the parts of a state are read from. -/
inductive Source (fields : Record.Fields) (document : Json) : Prop where
  | processor {key : String} (isKey : key ∈ ["ItemProcessor", "Iterator"])
      (isField : Json.lookup key fields = some document)
  | branch {documents : List Json} (isField : Json.lookup "Branches" fields = some (.array documents))
      (isBranch : document ∈ documents)

theorem Source.proper {document : Json} (source : Source fields document)
    (own : Record.Proper fields) : document.Proper := by
  cases source with
  | processor isKey isField => exact own _ document isField
  | branch isField isBranch => exact (own _ _ isField).item isBranch

/-- Where a part of a state was read from. -/
theorem source_of_part {nested : Json → Except Misfit Graph}
    (read : KindRead nested fields type kind) {part : Graph} (isPart : part ∈ kind.parts) :
    ∃ document, Source fields document ∧ nested document = .ok part := by
  have processed : ∀ key ∈ ["ItemProcessor", "Iterator"], ∀ found,
      readOptional nested (Json.lookup key fields) = .ok found → part ∈ found.toList →
        ∃ document, Source fields document ∧ nested document = .ok part := by
    intro key isKey found done mem
    rw [Option.mem_toList.mp mem] at done
    rcases exists_of_readOptional done with ⟨document, isField, partRead⟩
    exact ⟨document, .processor isKey isField, partRead⟩
  cases read with
  | map processorRead iteratorRead mappingRead =>
    rcases List.mem_append.mp isPart with isProcessor | isIterator
    · exact processed _ (by simp) _ processorRead isProcessor
    · exact processed _ (by simp) _ iteratorRead isIterator
  | parallel branchesRead =>
    rw [readItems.eq_def] at branchesRead
    split at branchesRead
    next items isField =>
      rcases Except.exists_of_mapM branchesRead isPart with ⟨document, isItem, done⟩
      exact ⟨document, .branch isField isItem, done⟩
    next => cases branchesRead
  | _ => cases isPart

end Definition

theorem State.shows_kind (state : State) : Record.Shows state.members state.kind.toFields :=
  fun field isField => state.shows_written field
    (List.mem_cons_of_mem _ (List.mem_append_right _ isField))

theorem State.shows_common (state : State) : Record.Shows state.members state.common.toFields :=
  fun field isField => state.shows_written field
    (List.mem_cons_of_mem _ (List.mem_append_left _ isField))

theorem State.lookup_type (state : State) :
    Json.lookup "Type" state.members = some (.string state.type.name) :=
  state.shows_written ("Type", some (.string state.type.name)) List.mem_cons_self

/-- The parts of a state are written less deep than the state. -/
theorem State.depth_part {state : State} {part : Graph} (isPart : part ∈ state.kind.parts) :
    Json.depthOfMembers part.members < Json.depthOfMembers state.members := by
  have shown := state.shows_kind
  have one : ∀ found : Option Graph, ∀ key,
      Json.lookup key state.members = Graph.optionToJson found → part ∈ found.toList →
        Json.depthOfMembers part.members < Json.depthOfMembers state.members := by
    intro found key isField mem
    rw [Option.mem_toList.mp mem, Graph.optionToJson] at isField
    exact Json.depth_le_of_lookup isField
  cases same : state.kind with
  | map processor iterator mapping =>
    rw [same] at isPart shown
    simp only [StateKind.toFields, Record.shows_cons] at shown
    rcases List.mem_append.mp isPart with isProcessor | isIterator
    · exact one processor _ shown.1 isProcessor
    · exact one iterator _ shown.2.1 isIterator
  | parallel branches =>
    rw [same] at isPart shown
    simp only [StateKind.toFields, Record.shows_cons, Graph.listToJson_eq] at shown
    have whole := Json.depth_le_of_lookup shown.1
    have inner : .object part.members ∈ branches.map fun graph => Json.object graph.members :=
      List.mem_map.mpr ⟨part, isPart, rfl⟩
    have below := Json.depth_le_of_mem_items inner
    simp only [Json.depth] at whole below
    omega
  | _ =>
    rw [same] at isPart
    cases isPart

theorem Graph.lookup_states {graph : Graph} {members : Record.Fields}
    (shown : Record.Shows members graph.toFields) : Json.lookup "States" members =
      some (.object (graph.states.map fun (name, state) => (name, .object state.members))) := by
  rcases graph with ⟨startAt, states, comment, config⟩
  simp only [Graph.toFields, Record.shows_cons, Graph.statesToMembers_eq] at shown
  exact shown.2.1

/-- The states of a graph are written less deep than the graph. -/
theorem Graph.depth_state {graph : Graph} {members : Record.Fields}
    (shown : Record.Shows members graph.toFields) {name : String} {state : State}
    (isState : (name, state) ∈ graph.states) :
    Json.depthOfMembers state.members + 1 < Json.depthOfMembers members := by
  have whole := Json.depth_le_of_lookup (Graph.lookup_states shown)
  have inner : (name, .object state.members) ∈
      graph.states.map fun (name, state) => (name, Json.object state.members) :=
    List.mem_map.mpr ⟨(name, state), isState, rfl⟩
  have below := Json.depth_le_of_mem_members inner
  rw [Json.depth] at whole below
  omega

namespace Definition

theorem StateType.ofName?_name (type : StateType) : StateType.ofName? type.name = some type := by
  cases type <;> decide

/-- What states have in common is read again from what a state is written as. -/
theorem common_restored {fields : Record.Fields} {state : State} (own : Record.Proper fields)
    (read : Common.read? state.type fields = some state.common) :
    Common.read? state.type state.members = some state.common := by
  have parts := Common.read?_iff.mp read
  refine Common.read?_iff.mpr (parts.restored ?_ ?_)
  · intro name value found
    exact own name value (Record.within_filter _ fields name value found)
  · refine Record.shows_filter state.shows_common ?_
    intro field isField unknown
    refine parts.backed field isField ?_
    rw [Record.lookup_filter, unknown]
    rfl

/-- A graph is read again from what it is written as when its states are. -/
theorem Drawn.again {below fuel : Nat} {fields members : Record.Fields} {graph : Graph}
    (drawn : Drawn below fields graph) (own : Record.Proper fields)
    (shown : Record.Shows members graph.toFields)
    (states : ∀ name state, (name, state) ∈ graph.states →
      readState fuel (.object state.members) = .ok state) :
    readGraph (fuel + 1) (.object members) = .ok graph := by
  have statesShown := Graph.lookup_states shown
  cases drawn with
  | @intro startAt entries comment documents commentRead startRead isField statesRead =>
    simp only [Graph.toFields, Record.shows_cons, Record.shows_nil, and_true] at shown
    rcases shown with ⟨startShown, _, commentShown, configShown⟩
    have commentAgain := Record.optional_restored Record.restores_string own commentRead
      commentShown
    have statesAgain : (entries.map fun (name, state) => (name, Json.object state.members)).mapM
        (fun (name, raw) => do
          let state ← readState fuel raw
          return (name, state)) = .ok entries := by
      apply Except.mapM_map_eq_ok
      rintro ⟨name, state⟩ isState
      exact Except.bind_eq_ok.mpr ⟨state, states name state isState, rfl⟩
    rw [readGraph]
    refine Except.bind_eq_ok.mpr ⟨_, rfl, ?_⟩
    refine Except.bind_eq_ok.mpr ⟨comment, by rw [commentAgain]; rfl, ?_⟩
    refine Except.bind_eq_ok.mpr ⟨some startAt, by rw [Record.orElse, startShown]; rfl, ?_⟩
    rw [statesShown, Record.any_restored configShown]
    refine Except.bind_eq_ok.mpr ⟨entries, statesAgain, ?_⟩
    exact Except.bind_eq_ok.mpr ⟨startAt, rfl, rfl⟩

/-- A state is read again from what it is written as when its parts are. -/
theorem Parsed.again {below fuel : Nat} {fields : Record.Fields} {state : State}
    (parsed : Parsed below fields state) (own : Record.Proper fields)
    (parts : ∀ part ∈ state.kind.parts, readGraph fuel (.object part.members) = .ok part) :
    readState (fuel + 1) (.object state.members) = .ok state := by
  have common := common_restored own parsed.common
  have kind := parsed.kind.restored own state.shows_kind common parts
  have type : (Record.required Json.string? "Type" state.members).bind StateType.ofName? =
      some state.type := by
    rw [Record.required, state.lookup_type]
    exact StateType.ofName?_name state.type
  rw [readState]
  refine Except.bind_eq_ok.mpr ⟨state.type, by rw [type]; rfl, ?_⟩
  refine Except.bind_eq_ok.mpr ⟨state.kind, kind, ?_⟩
  exact Except.bind_eq_ok.mpr ⟨state.common, by rw [common]; rfl, by cases state; rfl⟩

/-- What was read from a proper document is read again from what it is written as, given enough
fuel for it. -/
theorem read_again (below : Nat) :
    (∀ document graph, document.Proper → readGraph below document = .ok graph →
      ∀ members fuel, Record.Shows members graph.toFields → Json.depthOfMembers members < fuel →
        readGraph fuel (.object members) = .ok graph) ∧
    ∀ document state, document.Proper → readState below document = .ok state →
      ∀ fuel, Json.depthOfMembers state.members < fuel →
        readState fuel (.object state.members) = .ok state := by
  -- The fuel of the first reading carries the induction; that of the second is bounded by the depth
  -- of what is written, which is less for every state and every part.
  induction below with
  | zero =>
    refine ⟨?_, ?_⟩
    · intro document graph proper read
      cases read
    · intro document state proper read
      cases read
  | succ below ih =>
    rcases ih with ⟨graphs, states⟩
    refine ⟨?_, ?_⟩
    · intro document graph proper read members fuel shown enough
      rcases drawn_of_readGraph read with ⟨_, fields, same, fieldsRead, drawn⟩
      cases same
      have own := Record.proper_of_fields? proper fieldsRead
      rcases Nat.exists_eq_add_one_of_ne_zero (Nat.ne_zero_of_lt enough) with ⟨fuel, rfl⟩
      refine drawn.again own shown ?_
      intro name state isState
      rcases drawn.source isState with ⟨documents, raw, isField, isRaw, read⟩
      have shallow := Graph.depth_state shown isState
      exact states raw state ((own _ _ isField).member isRaw) read fuel (by omega)
    · intro document state proper read fuel enough
      rcases parsed_of_readState read with ⟨_, fields, same, rfl, parsed⟩
      cases same
      have own := Record.proper_of_object proper
      rcases Nat.exists_eq_add_one_of_ne_zero (Nat.ne_zero_of_lt enough) with ⟨fuel, rfl⟩
      refine parsed.again own ?_
      intro part isPart
      rcases source_of_part parsed.kind isPart with ⟨document, source, partRead⟩
      have shallow := State.depth_part isPart
      exact graphs document part (source.proper own) partRead part.members fuel part.shows_fields
        (by omega)

end Definition

end Workflow
