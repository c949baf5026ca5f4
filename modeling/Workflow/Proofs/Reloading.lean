import Workflow.Proofs.Documents

/-!
# Reloading

A machine that was loaded is written as a document from which the same machine is read. Loading that
document makes all checks again. They pass again, save one: catchers are only looked at where they
are written as objects, but they are read from lists of fields as well, and always written as
objects. So a catcher that slipped in as a list with a field of the other dialect is refused the
second time, and this is the only way in which loading again can fail.
-/

namespace Workflow

/-! ## Written fields -/

namespace Record

theorem get?_object {written : List (String × Option Json)}
    (nodup : (written.map Prod.fst).Nodup) (key : String) :
    (object written).get? key = (written.lookup key).join :=
  lookup_object nodup key

/-- Whatever an object shows was written. -/
theorem mem_of_mem_object {written : List (String × Option Json)} {key : String} {value : Json}
    (nodup : (written.map Prod.fst).Nodup)
    (mem : (key, value) ∈ Json.overlay [] (settled written)) : (key, some value) ∈ written := by
  have found := Json.lookup_of_mem (sortedKeys_object written) mem
  rw [lookup_object nodup] at found
  cases isField : written.lookup key with
  | none =>
    rw [isField] at found
    cases found
  | some field =>
    rw [isField] at found
    cases found
    rcases List.lookup_eq_some_iff.mp isField with ⟨_, _, split, _⟩
    rw [split]
    exact List.mem_append_right _ List.mem_cons_self

theorem lookup_unwritten {written : List (String × Option Json)} {key : String}
    (nodup : (written.map Prod.fst).Nodup) (fresh : key ∉ written.map Prod.fst) :
    Json.lookup key (Json.overlay [] (settled written)) = none := by
  apply Json.lookup_eq_none
  rintro ⟨name, value⟩ mem rfl
  exact fresh (List.mem_map.mpr ⟨_, mem_of_mem_object nodup mem, rfl⟩)

end Record

/-! ## Written parts -/

namespace State

variable {state : State}

theorem lookup_unwritten {key : String} (fresh : key ∉ "Type" :: (Common.names ++ state.type.names)) :
    Json.lookup key state.members = none :=
  Record.lookup_unwritten state.names_nodup (state.names_written ▸ fresh)

/-- Where a part of a state is written. -/
inductive Writes (state : State) (part : Graph) : Prop where
  | processor {key : String} (isKey : key ∈ ["ItemProcessor", "Iterator"])
      (shown : Json.lookup key state.members = some (.object part.members))
  | branch {documents : List Json} (shown : Json.lookup "Branches" state.members =
      some (.array documents)) (isBranch : .object part.members ∈ documents)

theorem writes_of_part {part : Graph} (isPart : part ∈ state.kind.parts) : state.Writes part := by
  have shown := state.shows_kind
  cases same : state.kind with
  | map processor iterator mapping =>
    rw [same] at isPart shown
    simp only [StateKind.toFields, Record.shows_cons] at shown
    rcases List.mem_append.mp isPart with isProcessor | isIterator
    · rw [Option.mem_toList.mp isProcessor] at shown
      exact .processor (by simp) shown.1
    · rw [Option.mem_toList.mp isIterator] at shown
      exact .processor (by simp) shown.2.1
  | parallel branches =>
    rw [same] at isPart shown
    simp only [StateKind.toFields, Record.shows_cons, Graph.listToJson_eq] at shown
    exact .branch shown.1 (List.mem_map.mpr ⟨part, isPart, rfl⟩)
  | _ =>
    rw [same] at isPart
    cases isPart

/-- Only Maps have fields for the graphs that process items. -/
theorem type_of_processor {key : String} (isKey : key ∈ ["ItemProcessor", "Iterator"]) {raw : Json}
    (shown : Json.lookup key state.members = some raw) : state.type = .map := by
  by_contra noMap
  have fresh : ∀ type ≠ StateType.map, ∀ key ∈ ["ItemProcessor", "Iterator"],
      key ∉ "Type" :: (Common.names ++ type.names) := by
    intro type
    cases type <;> decide
  rw [lookup_unwritten (fresh state.type noMap key isKey)] at shown
  cases shown

theorem type_of_branches {raw : Json} (shown : Json.lookup "Branches" state.members = some raw) :
    state.type = .parallel := by
  by_contra noFork
  have fresh : ∀ type ≠ StateType.parallel, "Branches" ∉ "Type" :: (Common.names ++ type.names) := by
    intro type
    cases type <;> decide
  rw [lookup_unwritten (fresh state.type noFork)] at shown
  cases shown

theorem part_of_processor {key : String} (isKey : key ∈ ["ItemProcessor", "Iterator"]) {raw : Json}
    (shown : Json.lookup key state.members = some raw) :
    ∃ part ∈ state.kind.parts, raw = .object part.members := by
  have isMap := type_of_processor isKey shown
  have kindShown := state.shows_kind
  cases same : state.kind with
  | map processor iterator mapping =>
    rw [same] at kindShown
    simp only [StateKind.toFields, Record.shows_cons] at kindShown
    have one : ∀ found : Option Graph, Graph.optionToJson found = some raw →
        ∃ part ∈ found.toList, raw = .object part.members := by
      rintro (_ | part) written
      · cases written
      · cases written
        exact ⟨part, List.mem_singleton_self part, rfl⟩
    simp only [List.mem_cons, List.not_mem_nil, or_false] at isKey
    rcases isKey with rfl | rfl
    · rcases one processor (kindShown.1.symm.trans shown) with ⟨part, isPart, isObject⟩
      exact ⟨part, List.mem_append_left _ isPart, isObject⟩
    · rcases one iterator (kindShown.2.1.symm.trans shown) with ⟨part, isPart, isObject⟩
      exact ⟨part, List.mem_append_right _ isPart, isObject⟩
  | _ =>
    rw [State.type, same] at isMap
    cases isMap

theorem parts_of_branches {raw : Json} (shown : Json.lookup "Branches" state.members = some raw) :
    raw = .array (state.kind.parts.map fun part => .object part.members) := by
  have isFork := type_of_branches shown
  have kindShown := state.shows_kind
  cases same : state.kind with
  | parallel branches =>
    rw [same] at kindShown
    simp only [StateKind.toFields, Record.shows_cons, Graph.listToJson_eq] at kindShown
    exact Option.some.inj (shown.symm.trans kindShown.1)
  | _ =>
    rw [State.type, same] at isFork
    cases isFork

end State

namespace Graph

/-- A graph is written with no field that a nested graph may not have. -/
theorem checkKeys_members (graph : Graph) (name type dialect : String) :
    Definition.checkKeys name type dialect Definition.graphFields.contains graph.members =
      .ok () := by
  rw [Definition.checkKeys_eq_ok]
  intro key value mem
  have isName : key ∈ graph.toFields.map Prod.fst :=
    List.mem_map.mpr ⟨_, Record.mem_of_mem_object graph.names_nodup mem, rfl⟩
  rcases graph with ⟨startAt, states, comment, config⟩
  exact List.contains_iff_mem.mpr isName

end Graph

namespace Definition

/-! ## Checking what was written -/

section Checks

variable {name : String} {inherited dialect : Dialect} {state : State}

theorem native_iff_missing (dialect : Dialect) (catcher : Catcher) :
    catcher.Native dialect ↔ catcher.toJson.get? (foreignCatchField dialect) = none := by
  rw [Catcher.toJson, Record.get?_object (by simp)]
  cases dialect with
  | path => rfl
  | functional => exact Option.map_eq_none_iff.symm

theorem checkCatchers_members :
    checkCatchers name dialect state.members = .ok () ↔
      ∀ catcher ∈ state.common.catchers, catcher.Native dialect := by
  have shown : Json.lookup "Catch" state.members =
      Record.someList Catcher.toJson state.common.catchers := by
    have shown := state.shows_common
    simp only [Common.toFields, Record.shows_cons, Record.shows_nil, and_true] at shown
    exact shown.2.2.2.2.2.2.2.2.2.2.2.2.2
  rw [checkCatchers, shown]
  cases same : state.common.catchers with
  | nil => simp [Record.someList]
  | cons first rest =>
    simp only [Record.someList, List.isEmpty_cons, Bool.false_eq_true, if_false]
    simp only [native_iff_missing]
    split
    next foreign =>
      constructor
      · intro failed
        cases failed
      · intro native
        rcases List.any_eq_true.mp foreign with ⟨document, isDocument, present⟩
        rcases List.mem_map.mp isDocument with ⟨catcher, isCatcher, rfl⟩
        rw [native catcher isCatcher] at present
        cases present
    next native =>
      refine ⟨fun _ catcher isCatcher => ?_, fun _ => rfl⟩
      by_contra present
      refine native (List.any_eq_true.mpr ⟨_, List.mem_map.mpr ⟨catcher, isCatcher, rfl⟩, ?_⟩)
      exact Option.isSome_iff_ne_none.mpr present

/-- A dialect is found where it is written. -/
theorem declaredDialect_of_shown {members : Record.Fields} {own : Option Dialect}
    (shown : Json.lookup "QueryLanguage" members = own.map fun dialect => .string dialect.name) :
    declaredDialect name inherited members = .ok (own.getD inherited) := by
  rw [declaredDialect, shown]
  cases own with
  | none => rfl
  | some dialect => cases dialect <;> rfl

theorem declaredDialect_members :
    declaredDialect name inherited state.members = .ok (state.dialectOr inherited) := by
  have shown := state.shows_common
  simp only [Common.toFields, Record.shows_cons] at shown
  exact declaredDialect_of_shown shown.2.1

theorem declaredType_members : declaredType name state.members = .ok state.type := by
  rw [declaredType, state.lookup_type]
  simp only [StateType.ofName?_name]

/-- A state is written with all fields that its type requires. -/
theorem checkRequired_members (processor : ∀ processor iterator mapping,
      state.kind = .map processor iterator mapping → processor.or iterator ≠ none) :
    checkRequired name state.type state.members = .ok () := by
  have shown := state.shows_kind
  rcases state with ⟨common, kind⟩
  rw [checkRequired]
  cases kind with
  | task task =>
    simp only [State.kind, StateKind.toFields, Record.shows_append, Record.shows_cons] at shown
    simp [State.type, State.kind, StateType.requiredFields, shown]
  | choice branches fallback =>
    simp only [State.kind, StateKind.toFields, Record.shows_cons] at shown
    simp [State.type, State.kind, StateType.requiredFields, shown]
  | map first second mapping =>
    simp only [State.kind, StateKind.toFields, Record.shows_cons] at shown
    have present := processor first second mapping rfl
    cases first with
    | some first =>
      simp [State.type, State.kind, StateType.requiredFields, shown, Graph.optionToJson]
    | none =>
      cases second with
      | some second =>
        simp [State.type, State.kind, StateType.requiredFields, shown, Graph.optionToJson]
      | none => exact absurd rfl present
  | parallel branches =>
    simp only [State.kind, StateKind.toFields, Record.shows_cons] at shown
    simp [State.type, State.kind, StateType.requiredFields, shown]
  | _ => rfl

/-- A state is written with no field that it does not carry. -/
theorem checkKeys_members (allowed : ∀ field, state.Carries field →
      state.type.allows dialect field = true) :
    checkKeys name state.type.name dialect.name (state.type.allows dialect) state.members =
      .ok () := by
  rw [checkKeys_eq_ok]
  intro key value mem
  rcases List.mem_cons.mp (Record.mem_of_mem_object state.names_nodup mem) with same | isField
  · cases same
    cases state.type <;> cases dialect <;> rfl
  · exact allowed key ⟨value, isField⟩

/-- What was checked and read passes the checks of its fields again, unless one of its catchers
carries the field of the other dialect. -/
theorem checkFields_members {fields : List (String × Json)}
    (checked : checkFields name inherited fields = .ok dialect) (reads : Reads fields state)
    (processor : ∀ processor iterator mapping,
      state.kind = .map processor iterator mapping → processor.or iterator ≠ none) :
    (∃ found, checkFields name inherited state.members = .ok found) ↔
      ∀ catcher ∈ state.common.catchers, catcher.Native (state.dialectOr inherited) := by
  have own := dialectOr_of_checkFields checked reads
  have keys : checkKeys name state.type.name dialect.name (state.type.allows dialect)
      state.members = .ok () :=
    checkKeys_members fun field carries => allows_of_carries checked reads carries
  have required : checkRequired name state.type state.members = .ok () :=
    checkRequired_members processor
  have native : checkCatchers name dialect state.members = .ok () ↔ _ := checkCatchers_members
  rw [own, ← native]
  constructor
  · rintro ⟨found, done⟩
    rcases checks_of_checkFields done with ⟨type, checks⟩
    cases checks.declared.symm.trans declaredDialect_members
    rw [own] at checks
    exact checks.catchers
  · intro catchers
    refine ⟨dialect, ?_⟩
    rw [checkFields]
    refine Except.bind_eq_ok.mpr ⟨_, declaredType_members, ?_⟩
    refine Except.bind_eq_ok.mpr ⟨_, declaredDialect_members, ?_⟩
    rw [own]
    refine Except.bind_eq_ok.mpr ⟨_, keys, ?_⟩
    refine Except.bind_eq_ok.mpr ⟨_, required, ?_⟩
    exact Except.bind_eq_ok.mpr ⟨_, catchers, rfl⟩

end Checks

end Definition

/-! ## Graphs -/

/-- No catcher in a graph, or in any graph that it is written with, carries the field of the dialect
its state is not written in. -/
def Graph.CatchersNative (inherited : Dialect) (graph : Graph) : Prop :=
  ∀ nested, graph.Embeds nested → ∀ name state, (name, state) ∈ nested.states →
    ∀ catcher ∈ state.common.catchers, catcher.Native (state.dialectOr inherited)

theorem Graph.catchersNative_iff {inherited : Dialect} {graph : Graph} :
    graph.CatchersNative inherited ↔ ∀ name state, (name, state) ∈ graph.states →
      (∀ catcher ∈ state.common.catchers, catcher.Native (state.dialectOr inherited)) ∧
        ∀ part ∈ state.kind.parts, part.CatchersNative inherited := by
  constructor
  · intro native name state isState
    refine ⟨native graph (.self graph) name state isState, ?_⟩
    intro part isPart nested embeds
    exact native nested (.part isState isPart embeds)
  · intro each nested embeds
    cases embeds with
    | self => exact fun name state isState => (each name state isState).1
    | part isState isPart embeds => exact (each _ _ isState).2 _ isPart nested embeds

namespace Definition

/-- A part of a state is checked again as the graph it is. -/
theorem partChecked_members {fuel : Nat} {name key : String} {inherited dialect : Dialect}
    {part : Graph} : PartChecked fuel name key inherited dialect (.object part.members) ↔
      checkGraph fuel inherited part.members = .ok () := by
  constructor
  · rintro ⟨fields, same, _, checked⟩
    cases same
    exact checked
  · intro checked
    exact ⟨_, rfl, part.checkKeys_members name key dialect.name, checked⟩

theorem checkState_members {fuel : Nat} {name : String} {inherited : Dialect} {state : State} :
    checkState (fuel + 1) name inherited state.members = .ok () ↔
      (∃ dialect, checkFields name inherited state.members = .ok dialect) ∧
        ∀ part ∈ state.kind.parts, checkGraph fuel inherited part.members = .ok () := by
  rw [checkState_eq_ok]
  constructor
  · rintro ⟨dialect, fields, processors, branches⟩
    refine ⟨⟨dialect, fields⟩, fun part isPart => ?_⟩
    cases State.writes_of_part isPart with
    | processor isKey shown => exact partChecked_members.mp (processors _ isKey _ shown)
    | branch shown isBranch =>
      rcases branches _ shown with ⟨documents, same, each⟩
      cases same
      exact partChecked_members.mp (each _ isBranch)
  · rintro ⟨⟨dialect, fields⟩, parts⟩
    refine ⟨dialect, fields, fun key isKey raw shown => ?_, fun raw shown => ?_⟩
    · rcases State.part_of_processor isKey shown with ⟨part, isPart, rfl⟩
      exact partChecked_members.mpr (parts part isPart)
    · refine ⟨_, State.parts_of_branches shown, fun branch isBranch => ?_⟩
      rcases List.mem_map.mp isBranch with ⟨part, isPart, rfl⟩
      exact partChecked_members.mpr (parts part isPart)

theorem checkGraph_members {fuel : Nat} {inherited : Dialect} {graph : Graph}
    {members : Record.Fields} (shown : Record.Shows members graph.toFields) :
    checkGraph (fuel + 1) inherited members = .ok () ↔
      ∀ name state, (name, state) ∈ graph.states →
        ¬ (name.length = 0 ∨ maxNameLength < name.length) ∧
          checkState fuel name inherited state.members = .ok () := by
  rw [checkGraph_eq_ok, Graph.lookup_states shown]
  constructor
  · rintro ⟨states, same, each⟩ name state isState
    cases same
    rcases each name _ (List.mem_map.mpr ⟨(name, state), isState, rfl⟩) with
      ⟨fits, fields, same, checked⟩
    cases same
    exact ⟨fits, checked⟩
  · intro each
    refine ⟨_, rfl, fun name raw isRaw => ?_⟩
    rcases List.mem_map.mp isRaw with ⟨⟨name, state⟩, isState, same⟩
    cases same
    rcases each name state isState with ⟨fits, checked⟩
    exact ⟨fits, state.members, rfl, checked⟩

/-- What the parts of a checked state are read from was checked. -/
theorem checked_of_source {fuel : Nat} {name : String} {inherited : Dialect}
    {fields : List (String × Json)} (checked : checkState fuel name inherited fields = .ok ())
    {document : Json} (source : Source fields document) :
    ∃ fuel members, document = .object members ∧ checkGraph fuel inherited members = .ok () := by
  cases fuel with
  | zero => cases checked
  | succ fuel =>
    rcases checkState_eq_ok.mp checked with ⟨dialect, _, processors, branches⟩
    cases source with
    | processor isKey isField =>
      rcases processors _ isKey document isField with ⟨members, same, _, checked⟩
      exact ⟨fuel, members, same, checked⟩
    | branch isField isBranch =>
      rcases branches _ isField with ⟨_, same, each⟩
      cases same
      rcases each document isBranch with ⟨members, same, _, checked⟩
      exact ⟨fuel, members, same, checked⟩

/-- What was checked and read passes the checks again, given enough fuel for it, unless one of its
catchers carries the field of the other dialect. -/
theorem check_again (inherited : Dialect) (below : Nat) (graph : Graph) :
    ∀ fields checkFuel, (Json.object fields).Proper →
      readGraph below (.object fields) = .ok graph →
        checkGraph checkFuel inherited fields = .ok () →
          ∀ members fuel, Record.Shows members graph.toFields →
            Json.depthOfMembers members < fuel →
              (checkGraph fuel inherited members = .ok () ↔ graph.CatchersNative inherited) := by
  -- From a graph to a part of one of its states the reading goes down by two, hence the strong
  -- induction. The fuel of the first check plays no role.
  induction below using Nat.strongRecOn generalizing graph with
  | ind below ih =>
    intro fields checkFuel proper read checked members fuel shown enough
    rcases drawn_of_readGraph read with ⟨below, fields, rfl, fieldsRead, drawn⟩
    cases fieldsRead
    have own := Record.proper_of_object proper
    rcases Nat.exists_eq_add_one_of_ne_zero (Nat.ne_zero_of_lt enough) with ⟨fuel, rfl⟩
    rw [checkGraph_members shown, Graph.catchersNative_iff]
    refine forall₂_congr fun name state => forall_congr' fun isState => ?_
    rcases drawn.source isState with ⟨documents, raw, isField, isRaw, stateRead⟩
    rcases parsed_of_readState stateRead with ⟨below, stateFields, rfl, rfl, parsed⟩
    have stateOwn := Record.proper_of_object ((own _ _ isField).member isRaw)
    have shallow := Graph.depth_state shown isState
    cases checkFuel with
    | zero => cases checked
    | succ checkFuel =>
      rcases checkGraph_eq_ok.mp checked with ⟨_, same, each⟩
      cases isField.symm.trans same
      rcases each name _ isRaw with ⟨fits, _, same, stateChecked⟩
      cases same
      rcases checkFields_of_checkState stateChecked with ⟨dialect, fieldsChecked⟩
      rcases inspected_of_checkState stateChecked with ⟨_, _, inspected⟩
      have processor := (nested_of_readState inspected stateRead).1
      rcases Nat.exists_eq_add_one_of_ne_zero (show fuel ≠ 0 by omega) with ⟨fuel, rfl⟩
      -- Of the state itself only the catchers can fail the check; the rest are its parts.
      rw [checkState_members, and_iff_right fits,
        checkFields_members fieldsChecked (reads_of_readState stateRead) processor]
      refine and_congr_right fun _ => forall₂_congr fun part isPart => ?_
      have partShallow := State.depth_part isPart
      rcases source_of_part parsed.kind isPart with ⟨document, source, partRead⟩
      rcases checked_of_source stateChecked source with ⟨partFuel, partFields, rfl, partChecked⟩
      exact ih below (by omega) part partFields partFuel (source.proper stateOwn) partRead
        partChecked part.members fuel part.shows_fields (by omega)

/-! ## Machines -/

/-- The fields of a machine as they are written. -/
def written (machine : Machine) : List (String × Option Json) :=
  machine.graph.toFields ++
    [("QueryLanguage", machine.dialect.map fun dialect => .string dialect.name),
     ("TimeoutSeconds", machine.timeout.map Json.nat),
     ("Version", machine.version.map Json.string)]

def members (machine : Machine) : List (String × Json) :=
  Json.overlay [] (Record.settled (written machine))

theorem written_nodup (machine : Machine) : ((written machine).map Prod.fst).Nodup := by
  rcases machine with ⟨⟨startAt, states, comment, config⟩, dialect, timeout, version⟩
  simp [written, Graph.toFields]

theorem shows_members (machine : Machine) :
    Record.Shows (members machine) (written machine) :=
  Record.shows_object (written_nodup machine)

theorem shows_graph (machine : Machine) :
    Record.Shows (members machine) machine.graph.toFields :=
  fun field isField => shows_members machine field (List.mem_append_left _ isField)

/-- A machine is read again from what it is written as. -/
theorem machineOf_members {fields : Record.Fields} {machine : Machine}
    (proper : (Json.object fields).Proper) (read : machineOf (.object fields) = .ok machine) :
    machineOf (.object (members machine)) = .ok machine := by
  have own := Record.proper_of_object proper
  have shown := shows_members machine
  simp only [written, Record.shows_append, Record.shows_cons, Record.shows_nil, and_true] at shown
  rcases shown with ⟨_, dialectShown, timeoutShown, versionShown⟩
  rcases machineOf_eq_ok.mp read with ⟨dialect, timeout, version, graph⟩
  refine machineOf_eq_ok.mpr ⟨?_, ?_, ?_, ?_⟩
  · exact Record.optional_restored Record.restores_dialect own dialect dialectShown
  · exact Record.optional_restored Record.restores_unsigned own timeout timeoutShown
  · exact Record.optional_restored Record.restores_string own version versionShown
  · exact (read_again _).1 _ _ proper graph _ _ (shows_graph machine) (Nat.lt_succ_self _)

/-- A machine is written with no field that a machine may not have. -/
theorem checkKeys_machine {fields : Record.Fields} {machine : Machine}
    (keys : checkKeys "" "StateMachine" "any" machineFields.contains fields = .ok ())
    (read : machineOf (.object fields) = .ok machine) :
    checkKeys "" "StateMachine" "any" machineFields.contains (members machine) = .ok () := by
  rcases machineOf_eq_ok.mp read with ⟨_, _, _, graphRead⟩
  rcases drawn_of_readGraph graphRead with ⟨_, _, _, fieldsRead, drawn⟩
  cases fieldsRead
  have noConfig : Record.any "ProcessorConfig" fields = none := by
    refine Record.any_of_missing (Json.lookup_eq_none ?_)
    rintro ⟨key, value⟩ mem rfl
    exact absurd (checkKeys_eq_ok.mp keys _ _ mem) (by decide)
  rcases machine with ⟨graph, dialect, timeout, version⟩
  rw [checkKeys_eq_ok]
  intro key value mem
  have isField := Record.mem_of_mem_object (written_nodup _) mem
  cases drawn with
  | intro commentRead startRead isStates statesRead =>
    simp only [written, Graph.toFields, noConfig, List.mem_append, List.mem_cons, Prod.mk.injEq,
      List.not_mem_nil, or_false, reduceCtorEq, and_false] at isField
    rcases isField with (⟨rfl, _⟩ | ⟨rfl, _⟩ | ⟨rfl, _⟩) | ⟨rfl, _⟩ | ⟨rfl, _⟩ | ⟨rfl, _⟩ <;> decide

/-- A machine that was loaded is read again from what it is written as, and it is loaded again just
in case none of its catchers carries the field of the other dialect. -/
theorem load_toJson {document : Json} {inherited : Dialect} {machine : Machine}
    (proper : document.Proper) (loaded : load document inherited = .ok machine) :
    machineOf machine.toJson = .ok machine ∧
      (load machine.toJson inherited = .ok machine ↔
        machine.graph.CatchersNative (machine.dialect.getD inherited)) := by
  rcases loaded_of_load loaded with ⟨fields, _, rfl, _⟩
  rcases load_eq_ok.mp loaded with ⟨keys, dialect, declared, checked, read, validated⟩
  rcases machineOf_eq_ok.mp read with ⟨dialectRead, _, _, graphRead⟩
  have again := machineOf_members proper read
  have own : machine.dialect.getD inherited = dialect :=
    dialect_of_declaredDialect declared dialectRead
  have shown := shows_members machine
  simp only [written, Record.shows_append, Record.shows_cons] at shown
  have declaredAgain : declaredDialect "" inherited (members machine) = .ok dialect :=
    own ▸ declaredDialect_of_shown shown.2.1
  have checkedAgain := check_again dialect _ machine.graph fields _ proper graphRead checked
    (members machine) (Json.object (members machine)).depth (shows_graph machine)
    (Nat.lt_succ_self _)
  refine ⟨again, ?_⟩
  rw [own, ← checkedAgain]
  constructor
  · intro reloaded
    rcases load_eq_ok.mp reloaded with ⟨_, found, foundDeclared, foundChecked, _⟩
    cases declaredAgain.symm.trans foundDeclared
    exact foundChecked
  · intro accepted
    exact load_eq_ok.mpr ⟨checkKeys_machine keys read, dialect, declaredAgain, accepted, again,
      validated⟩

/-- A Map whose retrier is written as a list of fields, with a rate that is an integer, a catcher
with a path of null, and fields of null that are left out when it is written. -/
def sparse : Json :=
  .object [("StartAt", .string "Each"), ("States", .object [
    ("Done", .object [("Type", .string "Succeed")]),
    ("Each", .object [
      ("Catch", .array [.object [("ErrorEquals", .array [.string "States.ALL"]),
        ("Next", .string "Done"), ("ResultPath", .null)]]),
      ("Comment", .null), ("InputPath", .null),
      ("ItemProcessor", .object [("StartAt", .string "Leaf"), ("States", .object [
        ("Leaf", .object [("End", .bool true), ("Output", .bool true),
          ("QueryLanguage", .object [("JSONata", .null)]), ("Type", .string "Pass")])])]),
      ("ItemReader", .object [("ReaderConfig", .object [("InputType", .string "JSON"),
        ("MaxItems", .nat 5)]), ("Resource", .string "read")]),
      ("Next", .string "Done"),
      ("Retry", .array [.array [.array [.string "States.ALL"], .null, .nat 4, .nat 2]]),
      ("Type", .string "Map")])])]

def sparseLeaf : State :=
  .mk { dialect := some .functional, ends := some true, output := some (.bool true) } (.pass none)

def sparseReader : ItemReader where
  resource := "read"
  config := some { maxItems := { given := some (.literal 5) },
                   extra := [("InputType", .string "JSON")] }

def sparseCommon : Common where
  next := some "Done"
  inputPath := some none
  retriers := [{ errorEquals := ["States.ALL"], maxAttempts := some 4,
                 backoffRate := some (Float.ofInt 2) }]
  catchers := [{ errorEquals := ["States.ALL"], next := "Done", resultPath := some none }]

def sparseMachine : Machine where
  graph := .mk "Each" [("Done", .mk {} .succeed), ("Each", .mk sparseCommon
    (.map (some (.mk "Leaf" [("Leaf", sparseLeaf)] none none)) none
      { reader := some sparseReader }))] none none

set_option maxRecDepth 20000 in
theorem load_sparse : load sparse .path = .ok sparseMachine := by
  rfl

theorem proper_sparse : sparse.Proper := by
  refine ⟨?_, ?_⟩
  · simp only [sparse, Json.Sorted, Json.SortedKeys, Json.SortedMembers, Json.SortedItems,
      and_true, true_and]
    decide +kernel
  · simp [sparse, Json.Ranged, Json.RangedMembers, Json.RangedItems, Number.InRange,
      Number.minSigned, Number.maxUnsigned]

theorem catchersNative_sparse : sparseMachine.graph.CatchersNative .path := by
  rw [Graph.catchersNative_iff]
  intro name state isState
  simp only [sparseMachine, Graph.states, List.mem_cons, List.not_mem_nil, or_false,
    Prod.mk.injEq] at isState
  rcases isState with ⟨rfl, rfl⟩ | ⟨rfl, rfl⟩
  · simp [State.common, State.kind, StateKind.parts]
  · refine ⟨fun catcher isCatcher => ?_, fun part isPart => ?_⟩
    · rw [List.mem_singleton.mp isCatcher]
      rfl
    · rw [List.mem_singleton.mp isPart, Graph.catchersNative_iff]
      intro name state isState
      cases List.mem_singleton.mp isState
      simp [sparseLeaf, State.common, State.kind, StateKind.parts]

theorem load_toJson_sparse :
    load sparse .path = .ok sparseMachine ∧ machineOf sparseMachine.toJson = .ok sparseMachine ∧
      load sparseMachine.toJson .path = .ok sparseMachine := by
  rcases load_toJson proper_sparse load_sparse with ⟨read, reloaded⟩
  exact ⟨load_sparse, read, reloaded.mpr catchersNative_sparse⟩

/-- A Task whose catcher is written as a list of fields, the last of which is an output. -/
def listed : Json :=
  .object [("StartAt", .string "Call"), ("States", .object [
    ("Call", .object [("Catch", .array [.array [.array [.string "States.ALL"], .string "Done",
        .null, .string "kept"]]), ("End", .bool true), ("Resource", .string "call"),
      ("Type", .string "Task")]),
    ("Done", .object [("Type", .string "Succeed")])])]

def listedCall : Common where
  ends := some true
  catchers := [{ errorEquals := ["States.ALL"], next := "Done", resultPath := some none,
                 output := some (.string "kept") }]

def listedMachine : Machine where
  graph := .mk "Call" [("Call", .mk listedCall (.task { resource := "call" })),
    ("Done", .mk {} .succeed)] none none

theorem load_listed : load listed .path = .ok listedMachine := by
  cbv

theorem reload_listed : load listedMachine.toJson .path =
    .error (.fieldNotAllowed "Call" "Catch" "JSONPath" "Output") := by
  cbv

theorem proper_listed : listed.Proper := by
  refine ⟨?_, ?_⟩
  · simp only [listed, Json.Sorted, Json.SortedKeys, Json.SortedMembers, Json.SortedItems,
      and_true, true_and]
    decide +kernel
  · simp only [listed, Json.Ranged, Json.RangedMembers, Json.RangedItems, and_true]

/-- A machine that was loaded is not always loaded again from what it is written as. -/
theorem not_reloaded_listed :
    ¬ ∀ document inherited machine, document.Proper → load document inherited = .ok machine →
      load machine.toJson inherited = .ok machine := by
  intro reloads
  have reloaded := reloads listed .path listedMachine proper_listed load_listed
  rw [reload_listed] at reloaded
  cases reloaded

end Definition

end Workflow
