import Mathlib
import Workflow.Proofs.Reloading
import Workflow.Proofs.Tables

/-!
# Preservation

Which documents are written back as they were. The tables of the records are put together to those
of states, graphs and machines, and by induction along the reading what a loaded machine is written
as says the same as its document just in case the document fits them: no optional field is null but
for paths, no list of policies is empty, no record is written as a list of its fields or has a field
that it does not know, dialects go by their first names, and integers that become floats are equal
to a double.
-/

namespace Workflow

open Json (Anything NonNull Every NamesDialect)
open Record (Table Kept Law Lawful)

/-! ## Tables of states and graphs -/

/-- What is kept of a state besides what states have in common, given what is kept of graphs. -/
def StateType.table (graph : Json → Prop) : StateType → Table
  | .task => Task.table
  | .pass => [("Result", NonNull Anything)]
  | .choice => [("Choices", Anything), ("Default", NonNull Anything)]
  | .wait => Setting.table Anything "Seconds" ++ Setting.table Anything "Timestamp"
  | .succeed => []
  | .fail => Setting.table Anything "Error" ++ Setting.table Anything "Cause"
  | .map => ("ItemProcessor", NonNull graph) :: ("Iterator", NonNull graph) :: Mapping.table
  | .parallel => [("Branches", Every graph)]

/-- What is kept of a state of a type, given what is kept of graphs. -/
def State.table (graph : Json → Prop) (type : StateType) : Table :=
  ("Type", Anything) :: (Common.table ++ type.table graph)

/-- What is kept of named documents. -/
def Json.EveryMember (kept : Json → Prop) (value : Json) : Prop :=
  ∀ members, value = .object members → ∀ name member, (name, member) ∈ members → kept member

/-- What is kept of a graph, given what is kept of states. -/
def Graph.table (state : Json → Prop) : Table :=
  [("StartAt", Anything), ("States", Json.EveryMember state), ("Comment", NonNull Anything),
   ("ProcessorConfig", NonNull Anything)]

/-- What is kept of a machine, given what is kept of states. -/
def Machine.table (state : Json → Prop) : Table :=
  Graph.table state ++
    [("QueryLanguage", NonNull NamesDialect), ("TimeoutSeconds", NonNull Anything),
     ("Version", NonNull Anything)]

namespace Definition

mutual

/-- Whether everything in the document of a graph is kept. Like a reader it is given fuel, for
which the depth of the document is enough. -/
def KeptGraph (fuel : Nat) (document : Json) : Prop :=
  match fuel with
  | 0 => False
  | fuel + 1 => Kept (Graph.table (KeptState fuel)) document

/-- Whether everything in the document of a state is kept. -/
def KeptState (fuel : Nat) (document : Json) : Prop :=
  match fuel with
  | 0 => False
  | fuel + 1 => ∃ type, (document.get? "Type").bind Json.string? = some (StateType.name type) ∧
      Kept (State.table (KeptGraph fuel) type) document

end

/-- Whether everything in the document of a machine is kept. -/
def KeptMachine (document : Json) : Prop :=
  Kept (Machine.table (KeptState (document.depth - 1))) document

/-! ## Laws -/

variable {fields : Record.Fields}

theorem law_of_readOptional {read : Json → Except Misfit Graph} {kept : Json → Prop}
    {key : String} {found : Option Graph}
    (was : readOptional read (Json.lookup key fields) = .ok found)
    (alike : ∀ document part, Json.lookup key fields = some document →
      read document = .ok part → ((Json.object part.members).Alike document ↔ kept document)) :
    Law fields key (Graph.optionToJson found) (NonNull kept) := by
  rw [Law]
  rw [readOptional.eq_def] at was
  split at was
  next missing =>
    cases was
    simp [missing, Graph.optionToJson, Json.AlikeField]
  next isNull =>
    cases was
    simp [isNull, Graph.optionToJson, Json.AlikeField, NonNull]
  next document present isField =>
    cases done : read document with
    | error misfit =>
      rw [done] at was
      cases was
    | ok part =>
      rw [done] at was
      cases was
      have same := alike document part isField done
      have noNull : document ≠ .null := present
      rw [Graph.members] at same
      simpa [isField, Graph.optionToJson, Record.object_eq, Json.AlikeField, NonNull, noNull]
        using same

theorem alikeItems_of_mapM {read : Json → Except Misfit Graph} {kept : Json → Prop}
    {documents : List Json} {parts : List Graph} (was : documents.mapM read = .ok parts)
    (alike : ∀ document ∈ documents, ∀ part, read document = .ok part →
      ((Json.object part.members).Alike document ↔ kept document)) :
    Json.AlikeItems (parts.map fun part => .object part.members) documents ↔
      ∀ document ∈ documents, kept document := by
  induction documents generalizing parts with
  | nil =>
    cases was
    simp [Json.AlikeItems]
  | cons first rest ih =>
    rw [List.mapM_cons] at was
    rcases Except.bind_eq_ok.mp was with ⟨part, partRead, was⟩
    rcases Except.bind_eq_ok.mp was with ⟨others, restRead, was⟩
    cases was
    rw [List.map_cons, Json.AlikeItems, List.forall_mem_cons,
      alike first List.mem_cons_self part partRead,
      ih restRead fun document mem => alike document (List.mem_cons_of_mem _ mem)]

theorem alikeMembers_of_mapM {read : Json → Except Misfit State} {kept : Json → Prop}
    {documents : List (String × Json)} {states : List (String × State)}
    (was : (documents.mapM fun (name, raw) => do
      let state ← read raw
      return (name, state)) = .ok states)
    (alike : ∀ name raw, (name, raw) ∈ documents → ∀ state, read raw = .ok state →
      ((Json.object state.members).Alike raw ↔ kept raw)) :
    Json.AlikeMembers (states.map fun (name, state) => (name, .object state.members)) documents ↔
      ∀ name raw, (name, raw) ∈ documents → kept raw := by
  induction documents generalizing states with
  | nil =>
    cases was
    simp [Json.AlikeMembers]
  | cons first rest ih =>
    rcases first with ⟨name, raw⟩
    rw [List.mapM_cons] at was
    rcases Except.bind_eq_ok.mp was with ⟨entry, entryRead, was⟩
    rcases Except.bind_eq_ok.mp was with ⟨others, restRead, was⟩
    cases was
    rcases Except.bind_eq_ok.mp entryRead with ⟨state, stateRead, done⟩
    cases done
    have first := alike name raw List.mem_cons_self state stateRead
    have below := ih restRead fun name raw mem => alike name raw (List.mem_cons_of_mem _ mem)
    rw [List.map_cons, Json.AlikeMembers, first, below]
    constructor
    · rintro ⟨_, here, rest⟩ other value mem
      rcases List.mem_cons.mp mem with same | mem
      · cases same
        exact here
      · exact rest other value mem
    · intro each
      exact ⟨rfl, each name raw List.mem_cons_self,
        fun other value mem => each other value (List.mem_cons_of_mem _ mem)⟩

/-- The parts of a kind of state are written alike as far as its table says. -/
theorem KindRead.lawful {nested : Json → Except Misfit Graph} {kept : Json → Prop}
    {type : StateType} {kind : StateKind} (read : KindRead nested fields type kind)
    (own : Record.Proper fields)
    (alike : ∀ document, Source fields document → ∀ part, nested document = .ok part →
      ((Json.object part.members).Alike document ↔ kept document)) :
    Lawful fields kind.toFields (type.table kept) := by
  cases read with
  | task taskRead => exact (Task.read?_iff.mp taskRead).lawful own
  | pass => exact .cons (Record.any_law rfl) .nil
  | @choice branches fallback branchesRead fallbackRead =>
    refine .cons ?_ (.cons (Record.copies_string.optional own fallbackRead) .nil)
    rw [readItems.eq_def] at branchesRead
    split at branchesRead
    next items isField =>
      have proper := own _ _ isField
      rw [Law, isField, Branch.restored (fun item mem => proper.item mem) branchesRead]
      exact iff_of_true (Json.alike_refl _) fun _ _ => trivial
    next => cases branchesRead
  | wait secondsRead timestampRead =>
    exact ((Setting.read?_iff.mp secondsRead).lawful_unsigned own).append
      ((TextSetting.read?_iff.mp timestampRead).lawful own)
  | succeed => exact .nil
  | fail errorRead causeRead =>
    exact ((TextSetting.read?_iff.mp errorRead).lawful own).append
      ((TextSetting.read?_iff.mp causeRead).lawful own)
  | map processorRead iteratorRead mappingRead =>
    refine .cons ?_ (.cons ?_ ((Mapping.read?_iff.mp mappingRead).lawful own))
    · exact law_of_readOptional processorRead fun document part isField =>
        alike document (.processor (by simp) isField) part
    · exact law_of_readOptional iteratorRead fun document part isField =>
        alike document (.processor (by simp) isField) part
  | parallel branchesRead =>
    refine .cons ?_ .nil
    rw [readItems.eq_def] at branchesRead
    split at branchesRead
    next items isField =>
      have same := alikeItems_of_mapM branchesRead fun document isItem =>
        alike document (.branch isField isItem)
      rw [Law, isField, Graph.listToJson_eq]
      simpa [Json.AlikeField, Json.Alike, Every] using same
    next => cases branchesRead

theorem Drawn.lawful {below : Nat} {kept : Json → Prop} {graph : Graph}
    (drawn : Drawn below fields graph) (own : Record.Proper fields)
    (alike : ∀ documents name raw, Json.lookup "States" fields = some (.object documents) →
      (name, raw) ∈ documents → ∀ state, readState below raw = .ok state →
        ((Json.object state.members).Alike raw ↔ kept raw)) :
    Lawful fields graph.toFields (Graph.table kept) := by
  cases drawn with
  | @intro startAt states comment documents commentRead startRead isField statesRead =>
    refine .cons ?_ (.cons ?_ (.cons (Record.copies_string.optional own commentRead)
      (.cons (Record.any_law rfl) .nil)))
    · rw [Record.orElse] at startRead
      split at startRead
      next => cases startRead
      next value isStart =>
        rcases Option.map_eq_some_iff.mp startRead with ⟨text, isText, same⟩
        cases same
        cases value with
        | string text =>
          cases isText
          rw [Law, isStart]
          exact iff_of_true (Json.alike_refl _) fun _ _ => trivial
        | _ => cases isText
    · have same := alikeMembers_of_mapM statesRead fun name raw => alike documents name raw isField
      rw [Law, isField, Graph.statesToMembers_eq]
      simpa [Json.AlikeField, Json.Alike, Json.EveryMember] using same

theorem Parsed.lawful {below : Nat} {kept : Json → Prop} {state : State}
    (parsed : Parsed below fields state) (own : Record.Proper fields)
    (type : Json.lookup "Type" fields = some (.string state.type.name))
    (known : ∀ key value, (key, value) ∈ fields → state.type.knows key = true)
    (alike : ∀ document, Source fields document → ∀ part, readGraph below document = .ok part →
      ((Json.object part.members).Alike document ↔ kept document)) :
    Lawful fields state.written (State.table kept state.type) := by
  have common := Common.read?_iff.mp parsed.common
  have all : fields.filter (fun (name, _) => state.type.knows name) = fields := by
    rw [List.filter_eq_self]
    rintro ⟨key, value⟩ mem
    exact known key value mem
  rw [all] at common
  refine .cons ?_ ((common.lawful own).append (parsed.kind.lawful own alike))
  rw [Law, type]
  exact iff_of_true (Json.alike_refl _) fun _ _ => trivial

theorem type_of_declaredType {name : String} {type : StateType}
    (declared : declaredType name fields = .ok type) :
    Json.lookup "Type" fields = some (.string type.name) := by
  rw [declaredType] at declared
  split at declared
  next text isField =>
    split at declared
    next known =>
      cases declared
      have same := List.find?_some known
      rw [isField, beq_iff_eq.mp same]
    next => cases declared
  next => cases declared

theorem keptState_object {fuel : Nat} {type : StateType}
    (isField : Json.lookup "Type" fields = some (.string type.name)) :
    KeptState (fuel + 1) (.object fields) ↔
      Record.Fits (State.table (KeptGraph fuel) type) fields := by
  rw [KeptState]
  simp only [Json.get?, isField, Option.bind_some, Json.string?]
  constructor
  · rintro ⟨other, same, kept⟩
    have sameType : type = other := by
      have found := StateType.ofName?_name type
      rw [Option.some.inj same, StateType.ofName?_name] at found
      exact (Option.some.inj found).symm
    exact sameType ▸ kept
  · intro kept
    exact ⟨type, rfl, kept⟩

/-- What was checked and read is written alike just in case everything in its document is kept. -/
theorem alike_iff_kept (inherited : Dialect) (below : Nat) :
    (∀ members checkFuel graph, (Json.object members).Proper →
      checkGraph checkFuel inherited members = .ok () →
        readGraph below (.object members) = .ok graph →
          ((Json.object graph.members).Alike (.object members) ↔
            KeptGraph below (.object members))) ∧
    ∀ name fields checkFuel state, (Json.object fields).Proper →
      checkState checkFuel name inherited fields = .ok () →
        readState below (.object fields) = .ok state →
          ((Json.object state.members).Alike (.object fields) ↔
            KeptState below (.object fields)) := by
  induction below with
  | zero =>
    refine ⟨?_, ?_⟩
    · intro members checkFuel graph proper checked read
      cases read
    · intro name fields checkFuel state proper checked read
      cases read
  | succ below ih =>
    rcases ih with ⟨graphs, states⟩
    refine ⟨?_, ?_⟩
    · intro members checkFuel graph proper checked read
      rcases drawn_of_readGraph read with ⟨_, _, same, isRecord, drawn⟩
      cases same
      cases isRecord
      have own := Record.proper_of_object proper
      refine (drawn.lawful own ?_).alike_iff graph.names_nodup proper.sorted.1
      intro documents name raw isField isState state stateRead
      cases checkFuel with
      | zero => cases checked
      | succ checkFuel =>
        rcases checkGraph_eq_ok.mp checked with ⟨_, same, each⟩
        cases isField.symm.trans same
        rcases each name raw isState with ⟨_, fields, rfl, stateChecked⟩
        exact states name fields checkFuel state ((own _ _ isField).member isState) stateChecked
          stateRead
    · intro name fields checkFuel state proper checked read
      rcases parsed_of_readState read with ⟨_, _, same, isObject, parsed⟩
      cases same
      cases isObject
      have own := Record.proper_of_object proper
      have reads := reads_of_readState read
      rcases checkFields_of_checkState checked with ⟨dialect, fieldsChecked⟩
      rcases checks_of_checkFields fieldsChecked with ⟨type, checks⟩
      cases checks.typed.symm.trans (reads.typed name)
      have type := type_of_declaredType checks.typed
      -- The check has refused the keys of other types, so the table misses none that is there.
      have known : ∀ key value, (key, value) ∈ fields → state.type.knows key = true := by
        intro key value mem
        have allowed := checkKeys_eq_ok.mp checks.keys key value mem
        cases dialect <;> simp [StateType.knows, allowed]
      rw [keptState_object type]
      refine (parsed.lawful own type known ?_).alike_iff state.names_nodup proper.sorted.1
      intro document source part partRead
      rcases checked_of_source checked source with ⟨partFuel, members, rfl, partChecked⟩
      exact graphs members partFuel part (source.proper own) partChecked partRead

/-- What a machine that was loaded is written as has the same keys and values as its document, numbers
compared by value, just in case everything in the document is kept. -/
theorem toJson_alike_iff {document : Json} {inherited : Dialect} {machine : Machine}
    (proper : document.Proper) (loaded : load document inherited = .ok machine) :
    machine.toJson.Alike document ↔ KeptMachine document := by
  rcases loaded_of_load loaded with ⟨fields, _, rfl, _⟩
  rcases load_eq_ok.mp loaded with ⟨_, dialect, _, checked, read, _⟩
  rcases machineOf_eq_ok.mp read with ⟨dialectRead, timeoutRead, versionRead, graphRead⟩
  rcases drawn_of_readGraph graphRead with ⟨below, _, same, isRecord, drawn⟩
  cases isRecord
  have own := Record.proper_of_object proper
  have graph : Lawful fields machine.graph.toFields (Graph.table (KeptState below)) := by
    refine drawn.lawful own ?_
    intro documents name raw isField isState state stateRead
    rw [same] at checked
    rcases checkGraph_eq_ok.mp checked with ⟨_, same, each⟩
    cases isField.symm.trans same
    rcases each name raw isState with ⟨_, stateFields, rfl, stateChecked⟩
    exact (alike_iff_kept dialect below).2 name stateFields below state
      ((own _ _ isField).member isState) stateChecked stateRead
  have settings : Lawful fields _ _ :=
    .cons (Record.copies_dialect.optional own dialectRead)
      (.cons (Record.copies_unsigned.optional own timeoutRead)
      (.cons (Record.copies_string.optional own versionRead) .nil))
  rw [KeptMachine, same]
  exact (graph.append settings).alike_iff (written_nodup machine) proper.sorted.1

/-- A Task with a path of null, a retrier whose rate is given, and a catcher; nothing is lost of
it. -/
def steady (rate : Json) : Json :=
  .object [("Comment", .string "steady"), ("StartAt", .string "Call"), ("States", .object [
    ("Call", .object [
      ("Catch", .array [.object [("ErrorEquals", .array [.string "States.ALL"]),
        ("Next", .string "Done"), ("ResultPath", .string "$.failure")]]),
      ("InputPath", .null), ("Next", .string "Done"), ("Resource", .string "call"),
      ("Retry", .array [.object [("BackoffRate", rate),
        ("ErrorEquals", .array [.string "States.Timeout"]), ("MaxAttempts", .nat 4)]]),
      ("TimeoutSeconds", .nat 30), ("Type", .string "Task")]),
    ("Done", .object [("Type", .string "Succeed")])])]

def steadyCall : Common where
  next := some "Done"
  inputPath := some none
  retriers := [{ errorEquals := ["States.Timeout"], maxAttempts := some 4,
                 backoffRate := some (Float.ofInt 2) }]
  catchers := [{ errorEquals := ["States.ALL"], next := "Done", resultPath := some "$.failure" }]

def steadyMachine : Machine where
  graph := .mk "Call" [("Call", .mk steadyCall (.task
    { resource := "call", timeout := { given := some (.literal 30) } })),
    ("Done", .mk {} .succeed)] (some "steady") none

theorem load_steady : load (steady (.int 2)) .path = .ok steadyMachine := by
  rfl

theorem toJson_steady : steadyMachine.toJson = steady (.number (.float (Float.ofInt 2))) := by
  rfl

theorem proper_steady : (steady (.int 2)).Proper := by
  refine ⟨?_, ?_⟩
  · simp only [steady, Json.Sorted, Json.SortedKeys, Json.SortedMembers, Json.SortedItems,
      and_true, true_and]
    decide +kernel
  · simp [steady, Json.Ranged, Json.RangedMembers, Json.RangedItems, Number.InRange,
      Number.minSigned, Number.maxUnsigned]

theorem toJson_alike_iff_steady :
    load (steady (.int 2)) .path = .ok steadyMachine ∧
      steadyMachine.toJson.Alike (steady (.int 2)) ∧ KeptMachine (steady (.int 2)) := by
  have rate : Decimal.integral? (Float.ofInt 2) = some 2 := by decide +kernel
  have alike : steadyMachine.toJson.Alike (steady (.int 2)) := by
    rw [toJson_steady]
    simp [steady, Json.Alike, Json.AlikeMembers, Json.AlikeItems, Number.Alike, rate]
  exact ⟨load_steady, alike, (toJson_alike_iff proper_steady load_steady).mp alike⟩

/-- A Pass with a result of null. -/
def empty : Json :=
  .object [("StartAt", .string "Only"), ("States", .object [
    ("Only", .object [("End", .bool true), ("Result", .null), ("Type", .string "Pass")])])]

def emptyMachine : Machine where
  graph := .mk "Only" [("Only", .mk { ends := some true } (.pass none))] none none

theorem load_empty : load empty .path = .ok emptyMachine := by
  cbv

theorem proper_empty : empty.Proper := by
  refine ⟨?_, ?_⟩
  · simp only [empty, Json.Sorted, Json.SortedKeys, Json.SortedMembers, and_true, true_and]
    decide +kernel
  · simp [empty, Json.Ranged, Json.RangedMembers]

theorem toJson_empty : emptyMachine.toJson = .object [("StartAt", .string "Only"),
    ("States", .object [("Only", .object [("End", .bool true), ("Type", .string "Pass")])])] := by
  cbv

/-- What a loaded machine is written as does not always say the same as its document: the result of
null is lost. -/
theorem not_alike_empty :
    ¬ ∀ document inherited machine, document.Proper → load document inherited = .ok machine →
      machine.toJson.Alike document := by
  intro lossless
  have alike := lossless empty .path emptyMachine proper_empty load_empty
  rw [toJson_empty] at alike
  simp [empty, Json.Alike, Json.AlikeMembers] at alike

end Definition

end Workflow
