import Mathlib
import Workflow.Proofs.Fields
import Workflow.Proofs.Ledger

/-!
# Dialects

The dialect of a state is found three times: when its fields are checked in the document, when the
rules of a Choice are checked in the graph that was read, and when the state is run. Each of the
three walks hands the dialect of the machine on to all graphs, whatever is declared by the states
that these stand in. So they agree: a state that is entered stands in the document, below the states
that are on the stack, and is run in the dialect that its fields and its rules were checked in.
-/

namespace Workflow

namespace Definition

/-! ## Places -/

/-- The document of a graph stands in that of a machine, below states of some names. -/
inductive GraphAt (root : List (String × Json)) :
    List String → List (String × Json) → Prop where
  | root : GraphAt root [] root
  | nested {stack : List String} {members fields inner : List (String × Json)} {name : String}
      (stands : GraphAt root stack members) (lists : Lists members name fields)
      (holds : Holds fields inner) : GraphAt root (stack ++ [name]) inner

/-- The document of a state stands in that of a machine, below states of some names. -/
def StateAt (root : List (String × Json)) (stack : List String) (name : String)
    (fields : List (String × Json)) : Prop :=
  ∃ members, GraphAt root stack members ∧ Lists members name fields

/-- A state was read from a document in which its fields were checked in a dialect, and its rules
were checked in that dialect too. -/
structure Placed (root : List (String × Json)) (inherited : Dialect) (stack : List String)
    (name : String) (state : State) (fields : List (String × Json)) (dialect : Dialect) :
    Prop where
  stands : StateAt root stack name fields
  read : ∃ fuel, readState fuel (.object fields) = .ok state
  checked : ∃ fuel, checkState fuel name inherited fields = .ok ()
  fieldsChecked : checkFields name inherited fields = .ok dialect
  rulesChecked : ∀ branches fallback, state.kind = .choice branches fallback →
    ∀ branch ∈ branches, checkRule name dialect branch.rule = .ok ()

structure Sited (root : List (String × Json)) (inherited : Dialect) (stack : List String)
    (graph : Graph) : Prop where
  read : ∃ members checkFuel readFuel, GraphAt root stack members ∧
    checkGraph checkFuel inherited members = .ok () ∧
      readGraph readFuel (.object members) = .ok graph
  valid : validate inherited graph = .ok ()

section Places

variable {root : List (String × Json)} {inherited : Dialect} {stack : List String}
  {name : String} {state : State}

theorem Placed.dialectOr {fields : List (String × Json)} {dialect : Dialect}
    (placed : Placed root inherited stack name state fields dialect) :
    state.dialectOr inherited = dialect := by
  rcases placed.read with ⟨fuel, read⟩
  exact dialectOr_of_checkFields placed.fieldsChecked (reads_of_readState read)

/-- The states of such a graph stand below the same states as the graph, and the graphs that run in
a state stand below that one too. -/
theorem Sited.placed {graph : Graph} (sited : Sited root inherited stack graph)
    (isState : (name, state) ∈ graph.states) :
    (∃ fields dialect, Placed root inherited stack name state fields dialect) ∧
      ∀ nested ∈ state.kind.graphs, Sited root inherited (stack ++ [name]) nested := by
  rcases sited.read with ⟨members, checkFuel, readFuel, stands, checked, read⟩
  rcases state_of_readGraph checked read isState with
    ⟨below, fuel, fields, lists, stateChecked, stateRead⟩
  rcases checkFields_of_checkState stateChecked with ⟨dialect, fieldsChecked⟩
  have same := dialectOr_of_checkFields fieldsChecked (reads_of_readState stateRead)
  rcases checks_of_validateStates (states_of_validate sited.valid).2 isState with
    ⟨_, _, kindValid⟩
  refine ⟨⟨fields, dialect, ⟨members, stands, lists⟩, ⟨fuel, stateRead⟩, ⟨below, stateChecked⟩,
    fieldsChecked, ?_⟩, ?_⟩
  · intro branches fallback isChoice branch isBranch
    rw [isChoice, validateKind] at kindValid
    rw [← same]
    exact Except.ok_of_forM kindValid isBranch
  -- The graphs in a state are handed what the state was handed, not the dialect that it declares.
  · intro nested runs
    rcases inspected_of_checkState stateChecked with ⟨deeper, _, inspected⟩
    rcases (nested_of_readState inspected stateRead).2 nested runs with
      ⟨innerFuel, inner, holds, innerRead, innerChecked⟩
    exact ⟨⟨inner, deeper, innerFuel, .nested stands lists holds, innerChecked, innerRead⟩,
      validate_of_validateKind kindValid runs⟩

theorem Sited.nested {graph nested : Graph} (sited : Sited root inherited stack graph)
    (nests : graph.Nests nested) : ∃ deeper, Sited root inherited deeper nested := by
  induction nests generalizing stack with
  | self graph => exact ⟨stack, sited⟩
  | inner isState runs nests ih => exact ih ((sited.placed isState).2 _ runs)

end Places

theorem Loaded.sited {members : List (String × Json)} {inherited dialect : Dialect}
    {machine : Machine} (loaded : Loaded members inherited dialect machine) :
    Sited members dialect [] machine.graph := by
  rcases loaded.checked with ⟨checkFuel, checked⟩
  rcases loaded.read with ⟨readFuel, read⟩
  exact ⟨⟨members, checkFuel, readFuel, .root, checked, read⟩, loaded.validated⟩

/-! ## Fields of the other dialect -/

/-- No state of a loaded machine, at any depth, carries a field of the dialect it is not written in
among its own fields, and neither does any of its catchers that was written as an object. -/
theorem own_fields_native {document : Json} {inherited : Dialect} {machine : Machine}
    (loaded : load document inherited = .ok machine) :
    ∃ root dialect, document = .object root ∧ Loaded root inherited dialect machine ∧
      ∀ nested, machine.graph.Nests nested → ∀ name state, (name, state) ∈ nested.states →
        ∃ stack fields, Placed root dialect stack name state fields (state.dialectOr dialect) ∧
          (∀ field, state.Carries field →
            state.type.allows (state.dialectOr dialect) field = true ∧
              ¬ Foreign (state.dialectOr dialect) field) ∧
          ∀ catcher ∈ state.common.catchers, ∃ documents,
            Json.lookup "Catch" fields = some (.array documents) ∧
              ∃ document ∈ documents, Catcher.read? document = some catcher ∧
                ∀ members, document = .object members →
                  catcher.Native (state.dialectOr dialect) := by
  rcases loaded_of_load loaded with ⟨root, dialect, isRoot, found⟩
  refine ⟨root, dialect, isRoot, found, fun nested nests name state isState => ?_⟩
  rcases found.sited.nested nests with ⟨stack, sited⟩
  rcases (sited.placed isState).1 with ⟨fields, own, placed⟩
  rcases placed.read with ⟨fuel, read⟩
  have reads := reads_of_readState read
  have checked := placed.fieldsChecked
  rw [placed.dialectOr]
  refine ⟨stack, fields, placed, fun field carries => ?_, fun catcher isCatcher => ?_⟩
  · have allowed := allows_of_carries checked reads carries
    exact ⟨allowed, StateType.not_foreign_of_allows allowed⟩
  · exact native_of_checkFields checked reads isCatcher

/-- A fork in the functional dialect, whose branch is in that of the machine. -/
def mixed : Json :=
  .object [("StartAt", .string "Fork"), ("States", .object [
    ("Done", .object [("Type", .string "Succeed")]),
    ("Fork", .object [
      ("Branches", .array [.object [("StartAt", .string "Leaf"), ("States", .object [
        ("Leaf", .object [("End", .bool true), ("Result", .bool true),
          ("Type", .string "Pass")])])]]),
      ("Catch", .array [.object [("ErrorEquals", .array [.string "States.ALL"]),
        ("Next", .string "Done"), ("Output", .string "caught")]]),
      ("Next", .string "Done"), ("QueryLanguage", .string "JSONata"),
      ("Type", .string "Parallel")])])]

def leaf : State := .mk { ends := some true } (.pass (some (.bool true)))

def leafGraph : Graph := .mk "Leaf" [("Leaf", leaf)] none none

def mixedFork : State :=
  .mk { dialect := some .functional, next := some "Done",
        catchers := [{ errorEquals := ["States.ALL"], next := "Done",
                       output := some (.string "caught") }] }
    (.parallel [leafGraph])

def mixedMachine : Machine :=
  { graph := .mk "Fork" [("Done", .mk {} .succeed), ("Fork", mixedFork)] none none }

theorem load_mixed : load mixed .path = .ok mixedMachine := by
  cbv

theorem own_fields_native_mixed :
    load mixed .path = .ok mixedMachine ∧
      (∃ root stack fields, Placed root .path stack "Leaf" leaf fields .path) ∧
      (∀ field, leaf.Carries field → ¬ Foreign .path field) ∧
      ∀ field, mixedFork.Carries field → ¬ Foreign .functional field := by
  rcases own_fields_native load_mixed with ⟨root, dialect, isRoot, found, each⟩
  cases isRoot
  have same : .path = dialect := Except.ok.inj found.declared
  subst same
  have isFork : ("Fork", mixedFork) ∈ mixedMachine.graph.states := by
    simp [mixedMachine, Graph.states]
  have isLeaf : ("Leaf", leaf) ∈ leafGraph.states := by
    simp [leafGraph, Graph.states]
  have nests : mixedMachine.graph.Nests leafGraph :=
    .inner isFork (List.mem_singleton_self _) (.self _)
  rcases each leafGraph nests "Leaf" leaf isLeaf with ⟨stack, fields, placed, native, _⟩
  rcases each _ (.self _) "Fork" mixedFork isFork with ⟨_, _, _, forkNative, _⟩
  exact ⟨load_mixed, ⟨_, stack, fields, placed⟩, fun field carries => (native field carries).2,
    fun field carries => (forkNative field carries).2⟩

/-- A Choice in the path dialect, a branch of which has an output. -/
def stray : Json :=
  .object [("StartAt", .string "Pick"), ("States", .object [
    ("Done", .object [("Type", .string "Succeed")]),
    ("Pick", .object [
      ("Choices", .array [.object [("IsPresent", .bool true), ("Next", .string "Done"),
        ("Output", .string "kept"), ("Variable", .string "$.x")]]),
      ("Default", .string "Done"), ("Type", .string "Choice")])])]

def strayBranch : Branch where
  rule := .test "$.x" (.isKind .present) (.literal (.bool true))
  next := "Done"
  assign := none
  output := some (.string "kept")
  comment := none

def strayChoice : State := .mk {} (.choice [strayBranch] (some "Done"))

def strayMachine : Machine :=
  { graph := .mk "Pick" [("Done", .mk {} .succeed), ("Pick", strayChoice)] none none }

theorem load_stray : load stray .path = .ok strayMachine := by
  cbv

/-- The records inside a state may well carry fields of the other dialect. -/
theorem records_unchecked :
    ¬ ∀ document inherited machine, load document inherited = .ok machine →
      ∀ nested, machine.graph.Nests nested → ∀ name state, (name, state) ∈ nested.states →
        ∀ record ∈ state.records, ∀ field, record.get? field ≠ none →
          ¬ Foreign (state.dialectOr (machine.dialect.getD inherited)) field := by
  intro native
  refine native stray .path strayMachine load_stray _ (.self _) "Pick" strayChoice ?_
    strayBranch.toJson ?_ "Output" ?_ ?_
  · exact List.mem_cons_of_mem _ List.mem_cons_self
  · exact List.mem_singleton_self _
  · simp [show strayBranch.toJson.get? "Output" = some (.string "kept") from by cbv]
  · decide

end Definition

namespace Engine

open Definition (Loaded Placed Sited load loaded_of_load)

/-! ## Runs -/

/-- A state is run in a dialect: whenever it is entered and however often it is retried, each of its
attempts evaluates in it. -/
structure Entry.RunsIn (shared : Shared) (entry : Entry) (dialect : Dialect) : Prop where
  evaluates : ∀ entered retries, (visitedEnv shared entry.call.name entry.call.state.common
    entry.call.frame entered retries).dialect = dialect
  attempts : ∀ effort ∈ entry.efforts, ∃ entered, Run
    (.alone (attemptOf shared entry.call.name entry.call.state entry.call.input entry.call.frame
      entered effort.retries)) effort.tried effort.after

/-- An invocation runs a graph of the document in the dialect of the machine. -/
def Faithful (root : List (String × Json)) (inherited : Dialect) (invocation : Invocation)
    (_ : History) : Prop :=
  match invocation with
  | .graph graph _ frame => frame.dialect = inherited ∧ Sited root inherited frame.stack graph
  | .branch visit graph _ => visit.frame.dialect = inherited ∧
      Sited root inherited (visit.frame.stack ++ [visit.name]) graph
  | .write _ _ => True

theorem Ledger.placed {shared : Shared} {root : List (String × Json)} {inherited : Dialect}
    {agenda : Agenda} {entries : List Entry} (ledger : Ledger shared agenda entries)
    (starts : ∀ task ∈ agenda, Faithful root inherited task.1 task.2) :
    ∀ entry ∈ entries, ∃ fields dialect,
      Placed root inherited entry.call.frame.stack entry.call.name entry.call.state fields
        dialect ∧ entry.RunsIn shared dialect := by
  refine ledger.each (fun faithful _ _ => faithful) ?_ starts
  rintro graph input frame history entry ⟨same, sited⟩ _ found sameFrame isOf
  have sameDialect : entry.call.frame.dialect = inherited := by
    rw [← same, ← sameFrame]
  have sameStack : entry.call.frame.stack = frame.stack := by
    rw [← sameFrame]
  rcases sited.placed (Graph.mem_of_find? found) with ⟨⟨fields, dialect, placed⟩, nested⟩
  rw [← sameStack] at placed nested
  refine ⟨⟨fields, dialect, placed, ?_, isOf.attempts⟩, ?_⟩
  · intro entered retries
    rw [← placed.dialectOr, ← sameDialect]
    rfl
  · rintro invocation inner ⟨_, _, _, isIn⟩ _
    cases isIn with
    | item runs => exact ⟨sameDialect, nested _ runs⟩
    | branch runs => exact ⟨sameDialect, nested _ runs⟩
    | write => trivial

/-- Whenever a state is entered in a run of a loaded machine, at any depth, it is run in the dialect
in which its fields and its rules were checked in the document that the machine was loaded from. -/
theorem dialects_agree {document : Json} {inherited : Dialect} {machine : Machine}
    (loaded : load document inherited = .ok machine) (shared : Shared) (id : String)
    (caller : Option Json) (input : Json) {history : History} {after : Process Outcome}
    (run : Run (.alone (runMachine shared machine inherited id caller input)) history after) :
    ∃ root default, document = .object root ∧ Loaded root inherited default machine ∧
      (∃ entries, Recorded shared machine inherited id caller input history entries) ∧
      ∀ entries, Recorded shared machine inherited id caller input history entries →
        ∀ entry ∈ entries, ∃ fields dialect,
          Placed root default entry.call.frame.stack entry.call.name entry.call.state fields
            dialect ∧ entry.RunsIn shared dialect := by
  rcases loaded_of_load loaded with ⟨root, default, isRoot, found⟩
  refine ⟨root, default, isRoot, found, runMachine_recorded run, fun entries recorded => ?_⟩
  cases recorded with
  | waiting => exact fun _ isEntry => nomatch isEntry
  | started ledger =>
      refine ledger.placed fun task isTask => ?_
      cases List.mem_singleton.mp isTask
      exact ⟨Definition.dialect_of_declaredDialect found.declared found.own, found.sited⟩

open Definition (load_mixed mixed mixedMachine)

def mixedShared : Shared := ⟨{ maxTransitions := 3 }, 0⟩

def mixedVisit : Visit :=
  visitOf mixedShared "Fork" Definition.mixedFork .null
    (startFrame mixedMachine .path "" none .null default) default 0 .null

def mixedHistory : History :=
  [([], .asked .now default), ([], .asked .enter true), ([], .asked .now default), ([], .drew),
    ([], .gathered 1 (branchesOf mixedShared mixedVisit
      [runGraph mixedShared Definition.leafGraph] .null)),
    ([0], .asked .enter true), ([0], .asked .now default), ([0], .drew), ([0], .drew),
    ([0], .asked (.completed ⟨"Leaf", .pass, .null, .bool true, ["Fork"]⟩) ()),
    ([], .absorbed 0 (.finished (.ok (.bool true)))), ([], .resumed), ([], .drew),
    ([], .asked (.completed ⟨"Fork", .parallel, .null, .array [.bool true], []⟩) ()),
    ([], .asked .enter true), ([], .asked .now default), ([], .drew),
    ([], .asked (.completed ⟨"Done", .succeed, .array [.bool true], .array [.bool true], []⟩) ())]

theorem run_mixed :
    Run (.alone (runMachine mixedShared mixedMachine .path "" none .null)) mixedHistory
      (.alone (.done (.ok (.array [.bool true])))) := by
  refine .step (.ask .now _ default) ?_
  refine .step (.ask .enter _ true) ?_
  refine .step (.ask .now _ default) ?_
  refine .step (.draw _ _ default) ?_
  refine .step (.gather 1 _ _ _ _) ?_
  refine .step (.member (by decide) (.ask .enter _ true)) ?_
  refine .step (.member (by decide) (.ask .now _ default)) ?_
  refine .step (.member (by decide) (.draw _ _ default)) ?_
  refine .step (.member (by decide) (.draw _ _ default)) ?_
  refine .step (.member (by decide) (.ask (.completed _) _ ())) ?_
  refine .step (.absorb (by decide) (.finished _)) ?_
  refine .step (.resume _ _ _ _ _) ?_
  refine .step (.draw _ _ default) ?_
  refine .step (.ask (.completed _) _ ()) ?_
  refine .step (.ask .enter _ true) ?_
  refine .step (.ask .now _ default) ?_
  refine .step (.draw _ _ default) ?_
  refine .step (.ask (.completed _) _ ()) ?_
  exact .refl _

/-- The leaf is run in the dialect of the machine, although it stands in a fork that has another
one. -/
theorem dialects_agree_mixed :
    load mixed .path = .ok mixedMachine ∧ ∃ root entries, mixed = .object root ∧
      Recorded mixedShared mixedMachine .path "" none .null mixedHistory entries ∧
      ∀ entry ∈ entries, ∃ fields dialect,
        Placed root .path entry.call.frame.stack entry.call.name entry.call.state fields dialect ∧
          entry.RunsIn mixedShared dialect := by
  rcases dialects_agree load_mixed mixedShared "" none .null run_mixed with
    ⟨root, default, isRoot, found, ⟨entries, recorded⟩, agree⟩
  refine ⟨load_mixed, root, entries, isRoot, recorded, ?_⟩
  cases Json.object.inj isRoot
  have same : .path = default := Except.ok.inj found.declared
  subst same
  exact agree entries recorded

end Engine

end Workflow
