import Workflow.Proofs.Calls
import Workflow.Proofs.Surrender

/-!
# Ledgers

A run is a tree: a graph enters states, the attempts of a state begin groups, and the members of a
group run graphs again. A ledger lists the state entries of a run at all depths, each with its
attempts. It is kept along an agenda: an invocation that stands on the agenda is replaced by those
that run in it, each with its own part of the history, and what it enters is put down. Every run has
a ledger, and what holds of an invocation, and is passed on to those that run in it, holds of every
entry.
-/

namespace Workflow

/-! ## Members -/

/-- What happens in the member at a place of the group that is under way, until that is gone. -/
def History.current (place : Nat) : History → History
  | [] => []
  | ([], .gathered _ _) :: _ => []
  | ([], .resumed) :: _ => []
  | ([], _) :: later => current place later
  | (other :: path, mark) :: later =>
    if other = place then (path, mark) :: current place later else current place later

/-- The members of the groups that a task begins, each with what happens in it. -/
def History.tasks : History → List (Program Outcome × History)
  | [] => []
  | ([], .gathered count member) :: later =>
    (List.range count).map (fun place => (member place, current place later)) ++ tasks later
  | _ :: later => tasks later

namespace History

variable {history : History}

theorem mem_of_mem_current {place : Nat} {path : List Nat} {mark : Mark}
    (isCurrent : (path, mark) ∈ history.current place) : (place :: path, mark) ∈ history := by
  induction history using History.current.induct place with
  | case1 => cases isCurrent
  | case2 => cases isCurrent
  | case3 => cases isCurrent
  | case4 own later notGathered notResumed ih =>
      rw [current.eq_4 _ _ _ notGathered notResumed] at isCurrent
      exact List.mem_cons_of_mem _ (ih isCurrent)
  | case5 path' mark' later ih =>
      rw [current, if_pos rfl] at isCurrent
      rcases List.mem_cons.mp isCurrent with same | isLater
      · cases same
        exact List.mem_cons_self
      · exact List.mem_cons_of_mem _ (ih isLater)
  | case6 other path' mark' later differs ih =>
      rw [current, if_neg differs] at isCurrent
      exact List.mem_cons_of_mem _ (ih isCurrent)

/-- What happens in the members of groups happens in the task that begins them. -/
theorem mem_of_mem_tasks {task : Program Outcome × History} (isTask : task ∈ history.tasks) :
    (∃ count member, ([], .gathered count member) ∈ history ∧
      ∃ place < count, task.1 = member place) ∧
    ∀ path mark, (path, mark) ∈ task.2 → ∃ place, (place :: path, mark) ∈ history := by
  induction history using History.tasks.induct with
  | case1 => cases isTask
  | case2 count member later ih =>
      rw [tasks] at isTask
      rcases List.mem_append.mp isTask with isNew | isLater
      · rcases List.mem_map.mp isNew with ⟨place, inside, rfl⟩
        refine ⟨⟨count, member, List.mem_cons_self, place, List.mem_range.mp inside, rfl⟩, ?_⟩
        intro path mark isMark
        exact ⟨place, List.mem_cons_of_mem _ (mem_of_mem_current isMark)⟩
      · rcases ih isLater with ⟨⟨count, member, isBegun, place⟩, marks⟩
        refine ⟨⟨count, member, List.mem_cons_of_mem _ isBegun, place⟩, ?_⟩
        intro path mark isMark
        rcases marks path mark isMark with ⟨place, isLater⟩
        exact ⟨place, List.mem_cons_of_mem _ isLater⟩
  | case3 first later notGathered ih =>
      rw [tasks.eq_3 _ _ notGathered] at isTask
      rcases ih isTask with ⟨⟨count, member, isBegun, place⟩, marks⟩
      refine ⟨⟨count, member, List.mem_cons_of_mem _ isBegun, place⟩, ?_⟩
      intro path mark isMark
      rcases marks path mark isMark with ⟨place, isLater⟩
      exact ⟨place, List.mem_cons_of_mem _ isLater⟩

end History

/-- Every member of a group runs by itself, whether the group begins in a run or is under way when
it starts. -/
theorem Run.members {α : Type} {process after : Process α} {history : History}
    (run : Run process history after) :
    (∀ task ∈ history.tasks, ∃ last, Run (.alone task.1) task.2 last) ∧
      ∀ place, ∃ last, Run (process.memberAt place) (history.current place) last := by
  induction run with
  | refl process => exact ⟨fun _ isTask => (nomatch isTask), fun place => ⟨_, .refl _⟩⟩
  | step step run ih =>
      rcases ih with ⟨tasks, members⟩
      cases step with
      | ask => exact ⟨tasks, members⟩
      | draw => exact ⟨tasks, members⟩
      | gather count member =>
          refine ⟨?_, fun place => ⟨_, .refl _⟩⟩
          intro task isTask
          rcases List.mem_append.mp isTask with isNew | isLater
          · rcases List.mem_map.mp isNew with ⟨place, _, rfl⟩
            exact members place
          · exact tasks task isLater
      | @member _ _ left member _ _ _ _ other path mark process isLeft step =>
          refine ⟨tasks, fun place => ?_⟩
          rcases members place with ⟨last, run⟩
          rw [History.current]
          by_cases same : other = place
          · subst same
            rw [if_pos rfl]
            simp only [Process.memberAt, Function.update_self] at run
            exact ⟨last, .step step run⟩
          · rw [if_neg same]
            simp only [Process.memberAt, Function.update_of_ne (Ne.symm same)] at run
            exact ⟨last, run⟩
      | absorb => exact ⟨tasks, members⟩
      | drop => exact ⟨tasks, members⟩
      | resume => exact ⟨tasks, fun place => ⟨_, .refl _⟩⟩

namespace Engine

/-! ## Invocations -/

inductive Invocation where
  | graph (graph : Graph) (input : Json) (frame : Frame)
  | branch (visit : Visit) (graph : Graph) (input : Json)
  | write (resource : String) (input : Json)

def Invocation.program (shared : Shared) : Invocation → Program Outcome
  | .graph nested input frame => runGraph shared nested input frame
  | .branch visit nested input => runBranch shared visit (runGraph shared nested) input
  | .write resource input => (invoke resource input none).run

/-- What an attempt of a state of some kind invokes: its graphs, on items or as branches, and the
writer of its results. -/
inductive Invocation.In (visit : Visit) (kind : StateKind) : Invocation → Prop where
  | item {graph : Graph} (runs : graph ∈ kind.graphs) (input : Json) (index : Nat) (value : Json) :
      Invocation.In visit kind (.graph graph input (visit.frame.itemChild visit.name index value))
  | branch {graph : Graph} (runs : graph ∈ kind.graphs) (input : Json) :
      Invocation.In visit kind (.branch visit graph input)
  | write (resource : String) (input : Json) : Invocation.In visit kind (.write resource input)

theorem Begins.invocation {shared : Shared} {visit : Visit} {kind : StateKind} {count : Nat}
    {member : Nat → Program Outcome} (begins : Begins shared visit kind count member) {place : Nat}
    (inside : place < count) :
    ∃ invocation, Invocation.In visit kind invocation ∧
      member place = invocation.program shared := by
  cases begins with
  | units runs wave =>
      rw [runUnit, List.getElem?_eq_getElem inside]
      exact ⟨_, .item runs _ _ _, rfl⟩
  | writes writer inputs => exact ⟨_, .write writer.resource (inputs.getD place .null), rfl⟩
  | @branches graphs isParallel input =>
      rw [branchesOf, List.getElem?_eq_getElem inside]
      rcases mem_runnersOfAll (List.getElem_mem inside) with ⟨graph, isGraph, isRunner⟩
      have runs : graph ∈ kind.graphs := by
        rw [isParallel]
        exact isGraph
      exact ⟨_, .branch runs input, by rw [isRunner]; rfl⟩

/-! ## Entries -/

/-- A state that is entered, and what happens in it once it has begun. -/
structure Entry where
  call : Call
  stay : Option Stay

namespace Entry

inductive Of (shared : Shared) (entry : Entry) : Prop where
  | waiting (nothing : entry.call.history = []) (unbegun : entry.stay = none)
  | begun {stay : Stay} (isStay : entry.stay = some stay)
      (whole : entry.call.history = stay.history)
      (isOf : stay.Of shared entry.call.name entry.call.state entry.call.input entry.call.frame
        entry.call.after)

def efforts (entry : Entry) : List (Effort Ended) :=
  match entry.stay with
  | some stay => stay.efforts
  | none => []

theorem efforts_of_none {entry : Entry} (unbegun : entry.stay = none) : entry.efforts = [] := by
  rw [efforts, unbegun]

theorem efforts_of_some {entry : Entry} {stay : Stay} (isStay : entry.stay = some stay) :
    entry.efforts = stay.efforts := by
  rw [efforts, isStay]

def tasks (entry : Entry) : List (Program Outcome × History) :=
  entry.efforts.flatMap fun effort => effort.tried.tasks

/-- Some attempt of the state may invoke it. -/
def Invokes (shared : Shared) (entry : Entry) (invocation : Invocation) : Prop :=
  ∃ entered retries effective, invocation.In
    (visitOf shared entry.call.name entry.call.state entry.call.input entry.call.frame entered
      retries effective) entry.call.state.kind

end Entry

theorem Call.Of.entry {shared : Shared} {call : Call} (isOf : call.Of shared) :
    ∃ entry : Entry, entry.call = call ∧ entry.Of shared := by
  rcases stateRunner_stays isOf with ⟨nothing, _⟩ | ⟨stay, whole, stays⟩
  · exact ⟨⟨call, none⟩, rfl, .waiting nothing rfl⟩
  · exact ⟨⟨call, some stay⟩, rfl, .begun rfl whole stays⟩

theorem Entry.Of.mem_history {shared : Shared} {entry : Entry} (isOf : entry.Of shared)
    {effort : Effort Ended} (isEffort : effort ∈ entry.efforts) {event : List Nat × Mark}
    (isEvent : event ∈ effort.history) : event ∈ entry.call.history := by
  cases isOf with
  | waiting _ unbegun =>
      rw [Entry.efforts_of_none unbegun] at isEffort
      cases isEffort
  | begun isStay whole =>
      rw [Entry.efforts_of_some isStay] at isEffort
      rw [whole]
      refine List.mem_cons_of_mem _ (List.mem_append_left _ ?_)
      exact List.mem_flatMap.mpr ⟨effort, isEffort, isEvent⟩

/-- What happens in an attempt is a run of the attempt by itself. -/
theorem Entry.Of.attempts {shared : Shared} {entry : Entry} (isOf : entry.Of shared) :
    ∀ effort ∈ entry.efforts, ∃ entered, Run
      (.alone (attemptOf shared entry.call.name entry.call.state entry.call.input entry.call.frame
        entered effort.retries)) effort.tried effort.after := by
  intro effort isEffort
  cases isOf with
  | waiting _ unbegun =>
      rw [Entry.efforts_of_none unbegun] at isEffort
      cases isEffort
  | @begun stay isStay _ isOf =>
      rw [Entry.efforts_of_some isStay] at isEffort
      rcases isOf.tries with ⟨middle, tries, _⟩
      exact ⟨stay.entered, (tries.among isEffort).1⟩

/-- Whatever runs in the attempts of an entry runs by itself, and is what the state may invoke. -/
theorem Entry.Of.invokes {shared : Shared} {entry : Entry} (isOf : entry.Of shared)
    {task : Program Outcome × History} (isTask : task ∈ entry.tasks) :
    (∃ last, Run (.alone task.1) task.2 last) ∧
      ∃ invocation, entry.Invokes shared invocation ∧ task.1 = invocation.program shared := by
  rcases List.mem_flatMap.mp isTask with ⟨effort, isEffort, isTried⟩
  rcases isOf.attempts effort isEffort with ⟨entered, run⟩
  refine ⟨run.members.1 task isTried, ?_⟩
  rcases (History.mem_of_mem_tasks isTried).1 with ⟨count, member, isBegun, place, inside, same⟩
  let manner : Manner := ⟨0, fun count member => ∃ effective, Begins shared
    (visitOf shared entry.call.name entry.call.state entry.call.input entry.call.frame entered
      effort.retries effective) entry.call.state.kind count member⟩
  have heeds : (attemptOf shared entry.call.name entry.call.state entry.call.input
      entry.call.frame entered effort.retries).Heeds manner
        fun fault result => result = .error fault :=
    heeds_attemptOf shared _ _ _ _ _ _ fun begins => ⟨_, begins⟩
  rcases run.begins heeds isBegun with ⟨effective, begins⟩
  rcases begins.invocation inside with ⟨invocation, isIn, isProgram⟩
  exact ⟨invocation, ⟨_, _, _, isIn⟩, same.trans isProgram⟩

/-! ## Ledgers -/

abbrev Agenda := List (Invocation × History)

/-- The invocations that run in the attempts of an entry. -/
structure Entry.Hosts (shared : Shared) (entry : Entry) (agenda : Agenda) : Prop where
  tasks : entry.tasks = agenda.map fun task => (task.1.program shared, task.2)
  invokes : ∀ task ∈ agenda, entry.Invokes shared task.1

/-- The state entries of all invocations of an agenda, and of those that run in them. -/
inductive Ledger (shared : Shared) : Agenda → List Entry → Prop where
  | nil : Ledger shared [] []
  | write {resource : String} {input : Json} {history : History} {agenda : Agenda}
      {entries : List Entry} (rest : Ledger shared agenda entries) :
      Ledger shared ((.write resource input, history) :: agenda) entries
  /-- A branch invokes its graph for each of its attempts. -/
  | branch {visit : Visit} {graph : Graph} {input : Json} {efforts : List (Effort Json)}
      {after : Process (Outcome × Nat)} {agenda : Agenda} {entries : List Entry}
      (attempted : Attempted visit.name visit.common.retriers
        (fun _ => runGraph shared graph input (visit.frame.child visit.name))
        (shared.patience visit.common.retriers) (visit.common.retriers.map fun _ => 0) 0 efforts
        after)
      (rest : Ledger shared (efforts.map (fun effort =>
        (.graph graph input (visit.frame.child visit.name), effort.tried)) ++ agenda) entries) :
      Ledger shared ((.branch visit graph input, efforts.flatMap Effort.history) :: agenda) entries
  | graph {graph : Graph} {input : Json} {frame : Frame} {new : List Entry} {tail : History}
      {after : Process Outcome} {inner : Entry → Agenda} {agenda : Agenda} {entries : List Entry}
      (called : Called shared graph.states graph.startAt input frame (new.map Entry.call) tail
        after)
      (areOf : ∀ entry ∈ new, entry.Of shared)
      (hosts : ∀ entry ∈ new, entry.Hosts shared (inner entry))
      (rest : Ledger shared (new.flatMap inner ++ agenda) entries) :
      Ledger shared
        ((.graph graph input frame, (new.map Entry.call).flatMap Call.marks ++ tail) :: agenda)
        (new ++ entries)

section Existence

variable {shared : Shared}

def Recordable (shared : Shared) (task : Invocation × History) : Prop :=
  ∀ (agenda : Agenda) (entries : List Entry), Ledger shared agenda entries →
    ∃ entries, Ledger shared (task :: agenda) entries

theorem ledger_append {tasks agenda : Agenda} {entries : List Entry}
    (recordable : ∀ task ∈ tasks, Recordable shared task) (ledger : Ledger shared agenda entries) :
    ∃ entries, Ledger shared (tasks ++ agenda) entries := by
  induction tasks with
  | nil => exact ⟨entries, ledger⟩
  | cons first rest ih =>
      rcases ih fun task isTask => recordable task (List.mem_cons_of_mem _ isTask) with
        ⟨entries, ledger⟩
      exact recordable first List.mem_cons_self _ _ ledger

theorem exists_map_eq {α β : Type*} {f : β → α} {holds : β → Prop} {items : List α}
    (each : ∀ item ∈ items, ∃ value, f value = item ∧ holds value) :
    ∃ values : List β, values.map f = items ∧ ∀ value ∈ values, holds value := by
  induction items with
  | nil => exact ⟨[], rfl, fun _ isValue => nomatch isValue⟩
  | cons item rest ih =>
      rcases each item List.mem_cons_self with ⟨value, same, first⟩
      rcases ih fun item isItem => each item (List.mem_cons_of_mem _ isItem) with
        ⟨values, sames, later⟩
      refine ⟨value :: values, by rw [List.map_cons, same, sames], ?_⟩
      intro other isValue
      rcases List.mem_cons.mp isValue with rfl | isLater
      · exact first
      · exact later other isLater

theorem Entry.Of.hosts {entry : Entry} (isOf : entry.Of shared) :
    ∃ agenda, entry.Hosts shared agenda ∧
      ∀ task ∈ agenda, ∃ last, Run (.alone (task.1.program shared)) task.2 last := by
  have each : ∀ task ∈ entry.tasks, ∃ invoked : Invocation × History,
      (invoked.1.program shared, invoked.2) = task ∧ entry.Invokes shared invoked.1 ∧
        ∃ last, Run (.alone (invoked.1.program shared)) invoked.2 last := by
    rintro ⟨program, history⟩ isTask
    rcases isOf.invokes isTask with ⟨run, invocation, invokes, rfl⟩
    exact ⟨(invocation, history), rfl, invokes, run⟩
  rcases exists_map_eq each with ⟨agenda, same, all⟩
  exact ⟨agenda, ⟨same.symm, fun task isTask => (all task isTask).1⟩,
    fun task isTask => (all task isTask).2⟩

theorem recordable_branch {visit : Visit} {graph : Graph} {input : Json} {history : History}
    {after : Process Outcome}
    (graphs : ∀ {input frame history after},
      Run (.alone (runGraph shared graph input frame)) history after →
        Recordable shared (.graph graph input frame, history))
    (run : Run (.alone (runBranch shared visit (runGraph shared graph) input)) history after) :
    Recordable shared (.branch visit graph input, history) := by
  intro agenda entries ledger
  rcases runBranch_attempted run with ⟨efforts, middle, rfl, attempted, _⟩
  have each : ∀ task ∈ efforts.map (fun effort =>
      (Invocation.graph graph input (visit.frame.child visit.name), effort.tried)),
      Recordable shared task := by
    intro task isTask
    rcases List.mem_map.mp isTask with ⟨effort, isEffort, rfl⟩
    exact graphs (attempted.among isEffort).1
  rcases ledger_append each ledger with ⟨entries, ledger⟩
  exact ⟨entries, .branch attempted ledger⟩

/-- Every run of a graph can be put down in a ledger. -/
theorem recordable_graph (graph : Graph) {input : Json} {frame : Frame} {history : History}
    {after : Process Outcome} (run : Run (.alone (runGraph shared graph input frame)) history
      after) : Recordable shared (.graph graph input frame, history) := by
  induction graph using Graph.nested_induction generalizing input frame history after with
  | step graph ih =>
      intro agenda entries ledger
      rcases runGraph_called run with ⟨calls, tail, rfl, called⟩
      have each : ∀ call ∈ calls, ∃ entry : Entry, entry.call = call ∧ entry.Of shared :=
        fun call isCall => (called.each call isCall).1.entry
      rcases exists_map_eq each with ⟨new, rfl, areOf⟩
      have hosts : ∀ entry ∈ new, ∃ agenda, entry.Hosts shared agenda ∧
          ∀ task ∈ agenda, ∃ last, Run (.alone (task.1.program shared)) task.2 last :=
        fun entry isNew => (areOf entry isNew).hosts
      choose! inner hosts runs using hosts
      have recordable : ∀ task ∈ new.flatMap inner, Recordable shared task := by
        rintro ⟨invocation, history⟩ isTask
        rcases List.mem_flatMap.mp isTask with ⟨entry, isNew, isInner⟩
        rcases runs entry isNew _ isInner with ⟨last, run⟩
        rcases (hosts entry isNew).invokes _ isInner with ⟨_, _, _, isIn⟩
        rcases called.each _ (List.mem_map_of_mem isNew) with ⟨_, isState, _⟩
        have isState := Graph.mem_of_find? isState
        cases isIn with
        | item runs input index value => exact ih _ _ isState _ runs run
        | branch runs input => exact recordable_branch (ih _ _ isState _ runs) run
        | write resource input => exact fun _ _ ledger => ⟨_, .write ledger⟩
      rcases ledger_append recordable ledger with ⟨entries, ledger⟩
      exact ⟨_, .graph called areOf hosts ledger⟩

end Existence

/-- What an invocation passes on to those that run in it is passed on to all depths. -/
theorem Ledger.each {shared : Shared} {good : Invocation → History → Prop} {kept : Entry → Prop}
    (branches : ∀ {visit graph input} {efforts : List (Effort Json)},
      good (.branch visit graph input) (efforts.flatMap Effort.history) → ∀ effort ∈ efforts,
        good (.graph graph input (visit.frame.child visit.name)) effort.tried)
    (graphs : ∀ {graph input frame history} {entry : Entry},
      good (.graph graph input frame) history → (∀ event ∈ entry.call.history, event ∈ history) →
      Graph.find? entry.call.name graph.states = some entry.call.state →
      { entry.call.frame with bindings := frame.bindings } = frame → entry.Of shared →
        kept entry ∧ ∀ invocation history, entry.Invokes shared invocation →
          (invocation.program shared, history) ∈ entry.tasks → good invocation history)
    {agenda : Agenda} {entries : List Entry} (ledger : Ledger shared agenda entries)
    (starts : ∀ task ∈ agenda, good task.1 task.2) : ∀ entry ∈ entries, kept entry := by
  induction ledger with
  | nil => exact fun _ isEntry => nomatch isEntry
  | write rest ih => exact ih fun task isTask => starts task (List.mem_cons_of_mem _ isTask)
  | branch attempted rest ih =>
      refine ih fun task isTask => ?_
      rcases List.mem_append.mp isTask with isAttempt | isLater
      · rcases List.mem_map.mp isAttempt with ⟨effort, isEffort, rfl⟩
        exact branches (starts _ List.mem_cons_self) effort isEffort
      · exact starts task (List.mem_cons_of_mem _ isLater)
  | @graph graph input frame new tail after inner _ others called areOf hosts rest ih =>
      have first := starts _ List.mem_cons_self
      have step : ∀ entry ∈ new, kept entry ∧ ∀ invocation history,
          entry.Invokes shared invocation →
            (invocation.program shared, history) ∈ entry.tasks → good invocation history := by
        intro entry isNew
        rcases called.each _ (List.mem_map_of_mem isNew) with ⟨_, isState, sameFrame⟩
        refine graphs first ?_ isState sameFrame (areOf entry isNew)
        intro event isEvent
        refine List.mem_append_left _ (List.mem_flatMap.mpr ⟨entry.call, ?_, ?_⟩)
        · exact List.mem_map_of_mem isNew
        · exact List.mem_cons_of_mem _ isEvent
      have later : ∀ entry ∈ others, kept entry := by
        refine ih fun task isTask => ?_
        rcases List.mem_append.mp isTask with isInner | isLater
        · rcases List.mem_flatMap.mp isInner with ⟨entry, isNew, isInner⟩
          refine (step entry isNew).2 _ _ ((hosts entry isNew).invokes task isInner) ?_
          rw [(hosts entry isNew).tasks]
          exact List.mem_map_of_mem isInner
        · exact starts task (List.mem_cons_of_mem _ isLater)
      intro entry isEntry
      rcases List.mem_append.mp isEntry with isNew | isOther
      · exact (step entry isNew).1
      · exact later entry isOther

/-! ## Machines -/

def startFrame (machine : Machine) (inherited : Dialect) (id : String) (caller : Option Json)
    (input : Json) (started : Instant) : Frame where
  context := initialContext id input started caller
  bindings := []
  stack := []
  dialect := Machine.dialectOr machine inherited

/-- The state entries of a run of a machine, at all depths. -/
inductive Recorded (shared : Shared) (machine : Machine) (inherited : Dialect) (id : String)
    (caller : Option Json) (input : Json) : History → List Entry → Prop where
  | waiting : Recorded shared machine inherited id caller input [] []
  | started {started : Instant} {later : History} {entries : List Entry}
      (ledger : Ledger shared [(.graph machine.graph input
        (startFrame machine inherited id caller input started), later)] entries) :
      Recorded shared machine inherited id caller input (([], .asked .now started) :: later)
        entries

theorem runMachine_recorded {shared : Shared} {machine : Machine} {inherited : Dialect}
    {id : String} {caller : Option Json} {input : Json} {history : History}
    {after : Process Outcome}
    (run : Run (.alone (runMachine shared machine inherited id caller input)) history after) :
    ∃ entries, Recorded shared machine inherited id caller input history entries := by
  rcases run.ask_inv with ⟨rfl, _⟩ | ⟨started, later, rfl, further⟩
  · exact ⟨[], .waiting⟩
  · rcases recordable_graph machine.graph further _ _ .nil with ⟨entries, ledger⟩
    exact ⟨entries, .started ledger⟩

end Engine

end Workflow
