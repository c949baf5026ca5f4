import Workflow.Proofs.Conclusions
import Workflow.Proofs.Metering

/-!
# Costs

The measure of a run are its state entries, which are metered, and the attempts of each, which the
retriers allow. So a run whose questions whether to retry are answered as planned comes to no more
attempts than the limit of entries, times what one state may be attempted, however it loops, nests
and retries. It always comes to its end, and can be carried on to it with lawful answers. The fuel
of a walk has no part in this, as a walk is refused before it has used its fuel up.
-/

namespace Workflow

/-! ## Answers as planned at all depths -/

/-- Every question whether to retry, at any depth, is answered as planned. -/
abbrev History.Planned (history : History) : Prop := ∀ event ∈ history, event.2.AsPlanned

theorem History.Planned.asPlanned {history : History} (planned : history.Planned) :
    history.AsPlanned := by
  intro exchange isExchange
  rcases List.mem_filterMap.mp isExchange with ⟨⟨path, mark⟩, isEvent, same⟩
  split at same
  case h_1 request answer own =>
    cases same
    cases own
    exact planned _ isEvent
  case h_2 => cases same

/-! ## Lawful progress -/

/-- What has not ended can go on without a crash, as planned and as metered. -/
theorem Process.progress_lawful {α : Type} (process : Process α) (limit asked : Nat) :
    (∃ value, process = .alone (.done value)) ∨
      ∃ path mark after, Step process (path, mark) after ∧ mark.Calm ∧ mark.AsPlanned ∧
        History.MeteredFrom limit asked [(path, mark)] := by
  rcases process.progress_asPlanned with ended | ⟨path, mark, after, step, calm, planned⟩
  · exact Or.inl ended
  right
  cases mark with
  | asked request answer =>
      cases request with
      | enter =>
          rcases step.reanswer (decide (asked < limit)) with ⟨after, step⟩
          exact ⟨_, _, _, step, nofun, trivial, rfl, trivial⟩
      | _ => exact ⟨_, _, _, step, calm, planned, trivial⟩
  | _ => exact ⟨_, _, _, step, calm, planned, trivial⟩

/-- Every process can be run to its end without a crash, as planned and as metered. -/
theorem Process.ends_lawful {α : Type} {process : Process α}
    (accessible : Acc Process.Leads process) (limit asked : Nat) :
    ∃ history value, Run process history (.alone (.done value)) ∧ history.Calm ∧
      history.Planned ∧ history.MeteredFrom limit asked := by
  induction accessible generalizing asked with
  | intro process _ ih =>
      rcases process.progress_lawful limit asked with
        ⟨value, rfl⟩ | ⟨path, mark, after, step, calm, planned, metered⟩
      · exact ⟨[], value, .refl _, History.calm_nil, fun _ isEvent => (nomatch isEvent), trivial⟩
      · rcases ih after ⟨_, step⟩ (asked + History.requested [(path, mark)]) with
          ⟨history, value, run, laterCalm, laterPlanned, laterMetered⟩
        refine ⟨(path, mark) :: history, value, .step step run, ?_, ?_, ?_⟩
        · rintro event isEvent
          rcases List.mem_cons.mp isEvent with rfl | isLater
          · exact calm
          · exact laterCalm event isLater
        · rintro event isEvent
          rcases List.mem_cons.mp isEvent with rfl | isLater
          · exact planned
          · exact laterPlanned event isLater
        · exact History.meteredFrom_append.mpr ⟨metered, laterMetered⟩

namespace Engine

/-! ## Fuel -/

/-- Among the histories of some kind, a program has the runs of another one, and ends as it does. -/
def Mimics {α : Type} (kind : History → Prop) (first second : Program α) : Prop :=
  ∀ history after, kind history → Run (.alone first) history after →
    ∃ same, Run (.alone second) history same ∧
      ∀ value, after = .alone (.done value) ↔ same = .alone (.done value)

section Mimics

variable {α β : Type} {kind : History → Prop}

theorem mimics_refl (program : Program α) : Mimics kind program program :=
  fun _ after _ run => ⟨after, run, fun _ => Iff.rfl⟩

theorem not_ended {first second : Process α} (unfinished : first.Unfinished)
    (unfinishedToo : second.Unfinished) (value : α) :
    first = .alone (.done value) ↔ second = .alone (.done value) :=
  ⟨fun ended => absurd ended (unfinished value), fun ended => absurd ended (unfinishedToo value)⟩

theorem mimics_ask {request : Request} {next others : request.Answer → Program α}
    (later : ∀ answer, Mimics (fun later => kind (([], .asked request answer) :: later))
      (next answer) (others answer)) : Mimics kind (.ask request next) (.ask request others) := by
  intro history after isKind run
  rcases run.ask_inv with ⟨rfl, unfinished⟩ | ⟨answer, rest, rfl, further⟩
  · exact ⟨_, .refl _, not_ended unfinished fun _ same => by cases same⟩
  · rcases later answer rest after isKind further with ⟨same, run, ends⟩
    exact ⟨same, .step (.ask request others answer) run, ends⟩

theorem mimics_bind (program : Program α) {f others : α → Program β}
    {later : History → Prop} (suffix : ∀ earlier history, kind (earlier ++ history) → later history)
    (each : ∀ value, Mimics later (f value) (others value)) :
    Mimics kind (program.bind f) (program.bind others) := by
  intro history after isKind run
  rcases run.bind_inv with ⟨middle, unfinished, first, rfl⟩ |
    ⟨earlier, rest, value, rfl, first, run⟩
  · exact ⟨_, first.bind others, not_ended (unfinished.bind f) (unfinished.bind others)⟩
  · rcases each value rest after (suffix earlier rest isKind) run with ⟨same, run, ends⟩
    exact ⟨same, (first.bind others).trans run, ends⟩

/-- A walk that is granted fewer entries than it has fuel for does the same with any other such
fuel. -/
theorem walk_fuel {limit : Nat} {runners : List (String × StateRunner)} {budget fuel other : Nat}
    (enough : budget ≤ fuel) (enoughToo : budget ≤ other) (name : String) (input : Json)
    (frame : Frame) : Mimics (fun history => history.granted < budget)
      (walk limit runners fuel name input frame) (walk limit runners other name input frame) := by
  induction budget generalizing fuel other name input frame with
  | zero => exact fun _ _ few => absurd few (Nat.not_lt_zero _)
  | succ budget ih =>
      cases fuel with
      | zero => exact absurd enough (Nat.not_succ_le_zero _)
      | succ fuel =>
          cases other with
          | zero => exact absurd enoughToo (Nat.not_succ_le_zero _)
          | succ other =>
              rw [walk_succ, walk_succ]
              refine mimics_ask fun granted => ?_
              cases granted with
              | false => exact mimics_refl _
              | true =>
                  simp only [if_true]
                  cases findRunner name runners with
                  | none => exact mimics_refl _
                  | some runner =>
                      -- The entry was granted, so less of the budget is left for what follows.
                      have suffix : ∀ earlier history : History,
                          History.granted (([], .asked .enter true) :: (earlier ++ history)) <
                            budget + 1 → history.granted < budget := by
                        intro earlier history few
                        rw [History.granted_cons, History.granted_append, Mark.grants,
                          if_pos rfl] at few
                        omega
                      refine mimics_bind (runner input frame) suffix fun result => ?_
                      cases result with
                      | error fault => exact mimics_refl _
                      | ok ended =>
                          rw [passOn, passOn]
                          cases ended.next with
                          | none => exact mimics_refl _
                          | some next =>
                              exact ih (Nat.le_of_succ_le_succ enough)
                                (Nat.le_of_succ_le_succ enoughToo) next _ _

end Mimics

/-! ## Attempts -/

section Attempts

variable {shared : Shared}

/-- As planned, a state that is entered is attempted no more often than its retriers allow. -/
theorem Entry.Of.few {entry : Entry} (isOf : entry.Of shared)
    (planned : entry.call.history.Planned) :
    entry.efforts.length ≤ 1 + allowance entry.call.state.common.retriers := by
  cases isOf with
  | waiting _ unbegun =>
      rw [Entry.efforts_of_none unbegun]
      exact Nat.zero_le _
  | @begun stay isStay whole isOf =>
      rcases isOf.tries with ⟨middle, tries, _⟩
      have asPlanned : History.AsPlanned (stay.efforts.flatMap Effort.history) := by
        have all := planned.asPlanned
        rw [whole] at all
        exact History.AsPlanned.left fun exchange isExchange =>
          all exchange (List.mem_cons_of_mem _ isExchange)
      have few := tries.length_le (planned_of_asPlanned asPlanned) (counted_zero shared _)
      have own : allowance (stateRetriers entry.call.state.type entry.call.state.common) ≤
          allowance entry.call.state.common.retriers := by
        rw [stateRetriers]
        split
        · exact Nat.zero_le _
        · exact Nat.le_refl _
      rw [Entry.efforts_of_some isStay]
      omega

/-- The graph of an invocation runs in a graph, and what happens is as planned. -/
def Plain (root : Graph) (invocation : Invocation) (history : History) : Prop :=
  history.Planned ∧ match invocation with
    | .graph graph _ _ => root.Nests graph
    | .branch _ graph _ => root.Nests graph
    | .write _ _ => True

theorem Ledger.few {root : Graph} {bound : Nat}
    (allowed : ∀ nested, root.Nests nested → ∀ name state, (name, state) ∈ nested.states →
      allowance state.common.retriers ≤ bound)
    {agenda : Agenda} {entries : List Entry} (ledger : Ledger shared agenda entries)
    (starts : ∀ task ∈ agenda, Plain root task.1 task.2) :
    ∀ entry ∈ entries, entry.efforts.length ≤ 1 + bound := by
  refine ledger.each ?_ ?_ starts
  · rintro visit graph input efforts ⟨planned, nests⟩ effort isEffort
    refine ⟨fun event isEvent => planned event ?_, nests⟩
    exact List.mem_flatMap.mpr ⟨effort, isEffort, List.mem_append_left _ isEvent⟩
  · rintro graph input frame history entry ⟨planned, nests⟩ part found _ isOf
    have isState := Graph.mem_of_find? found
    have own : entry.call.history.Planned := fun event isEvent => planned event (part event isEvent)
    refine ⟨?_, ?_⟩
    · have few := isOf.few own
      have most := allowed graph nests _ _ isState
      omega
    · rintro invocation inner ⟨_, _, _, isIn⟩ isTask
      refine ⟨?_, ?_⟩
      · rintro ⟨path, mark⟩ isEvent
        rcases List.mem_flatMap.mp isTask with ⟨effort, isEffort, isTried⟩
        rcases (History.mem_of_mem_tasks isTried).2 path mark isEvent with ⟨place, isMark⟩
        exact own (place :: path, mark) (isOf.mem_history isEffort (List.mem_append_left _ isMark))
      · cases isIn with
        | item runs => exact nests.trans (.inner isState runs (.self _))
        | branch runs => exact nests.trans (.inner isState runs (.self _))
        | write => trivial

end Attempts

/-- As metered and as planned, a run comes to its end: it does not go on for ever, it can always be
carried on lawfully, and when it has ended or before, there were no more attempts of states, at all
depths, than entries are allowed, times one and the most that the retriers of one state allow. No
walk that takes part in it has used up its fuel. -/
theorem attempts_limited (shared : Shared) (machine : Machine) (inherited : Dialect) (id : String)
    (caller : Option Json) (input : Json) {history : History} {after : Process Outcome}
    (run : Run (.alone (runMachine shared machine inherited id caller input)) history after)
    (metered : history.Metered shared.config.maxTransitions) (planned : history.Planned) :
    Acc Process.Leads after ∧
    (∃ later outcome, Run after later (.alone (.done outcome)) ∧ later.Calm ∧
      (history ++ later).Metered shared.config.maxTransitions ∧ (history ++ later).Planned) ∧
    (∃ entries, Recorded shared machine inherited id caller input history entries) ∧
    (∀ entries, Recorded shared machine inherited id caller input history entries →
      ∀ bound, (∀ nested, machine.graph.Nests nested → ∀ name state,
          (name, state) ∈ nested.states → allowance state.common.retriers ≤ bound) →
        (entries.map fun entry => entry.efforts.length).sum ≤
          shared.config.maxTransitions * (1 + bound)) ∧
    ∀ graph input frame fuel, shared.config.maxTransitions < fuel →
      Mimics (fun part => part.granted ≤ history.granted)
        (walk shared.config.maxTransitions (runnersOf shared graph.states) fuel graph.startAt input
          frame)
        (runGraph shared graph input frame) := by
  have accessible := run.accessible (Program.terminates _)
  rcases Process.ends_lawful accessible shared.config.maxTransitions (0 + history.requested) with
    ⟨later, outcome, further, calm, laterPlanned, laterMetered⟩
  refine ⟨accessible, ⟨later, outcome, further, calm, ?_, ?_⟩, runMachine_recorded run, ?_, ?_⟩
  · exact History.meteredFrom_append.mpr ⟨metered, laterMetered⟩
  · exact fun event isEvent =>
      (List.mem_append.mp isEvent).elim (planned event) (laterPlanned event)
  · intro entries recorded bound allowed
    have entered := recorded.length_le.trans metered.granted_le
    have few : ∀ entry ∈ entries, entry.efforts.length ≤ 1 + bound := by
      cases recorded with
      | waiting => exact fun _ isEntry => nomatch isEntry
      | started ledger =>
          refine ledger.few allowed fun task isTask => ?_
          cases List.mem_singleton.mp isTask
          exact ⟨fun event isEvent => planned event (List.mem_cons_of_mem _ isEvent), .self _⟩
    have total := List.sum_le_card_nsmul (entries.map fun entry => entry.efforts.length) (1 + bound)
      (by simpa using few)
    rw [List.length_map, smul_eq_mul] at total
    exact total.trans (Nat.mul_le_mul_right _ entered)
  · intro graph input frame fuel enough part last few run
    rcases graph with ⟨startAt, states, comment, processorConfig⟩
    rw [runGraph]
    have within : part.granted < shared.config.maxTransitions + 1 :=
      Nat.lt_succ_of_le (few.trans metered.granted_le)
    exact walk_fuel enough (Nat.le_refl _) startAt input frame part last within run

def cycling : State :=
  .mk { next := some "Again",
        retriers := [{ errorEquals := ["States.ALL"], maxAttempts := some 1 }] }
    (.task { resource := "work" })

def cyclingMachine : Machine := { graph := .mk "Again" [("Again", cycling)] none none }

def cyclingShared : Shared := ⟨{ maxTransitions := 2 }, 0⟩

def breakdown : Failure := ⟨"Broken", none⟩

def cyclingPlan (counts : List Nat) : RetryPlan :=
  (planRetry cycling.common.retriers counts breakdown default).1

/-- The state is attempted twice in each of its entries: the first one ends well, the second one
ends the run. -/
def cyclingHistory : History :=
  [([], .asked .now default), ([], .asked .enter true), ([], .asked .now default),
    ([], .drew), ([], .asked (.call "work" .null none) (.failed breakdown))] ++
  granted "Again" breakdown (cyclingPlan [0]) ++
  [([], .drew), ([], .asked (.call "work" .null none) (.output .null)), ([], .drew),
    ([], .asked (.completed ⟨"Again", .task, .null, .null, []⟩) ()),
    ([], .asked .enter true), ([], .asked .now default),
    ([], .drew), ([], .asked (.call "work" .null none) (.failed breakdown))] ++
  granted "Again" breakdown (cyclingPlan [0]) ++
  [([], .drew), ([], .asked (.call "work" .null none) (.failed breakdown))] ++
  offer "Again" breakdown (cyclingPlan [1]) false

theorem run_cycling :
    Run (.alone (runMachine cyclingShared cyclingMachine .path "" none .null)) cyclingHistory
      (.alone (.done (.error (.failed breakdown)))) := by
  refine .step (.ask .now _ default) ?_
  refine .step (.ask .enter _ true) ?_
  refine .step (.ask .now _ default) ?_
  refine .step (.draw _ _ default) ?_
  refine .step (.ask (.call _ _ _) _ (.failed breakdown)) ?_
  refine .step (.draw _ _ default) ?_
  refine .step (.ask (.retry _) _ true) ?_
  refine .step (.ask (.sleep _) _ ()) ?_
  refine .step (.draw _ _ default) ?_
  refine .step (.ask (.call _ _ _) _ (.output .null)) ?_
  refine .step (.draw _ _ default) ?_
  refine .step (.ask (.completed _) _ ()) ?_
  refine .step (.ask .enter _ true) ?_
  refine .step (.ask .now _ default) ?_
  refine .step (.draw _ _ default) ?_
  refine .step (.ask (.call _ _ _) _ (.failed breakdown)) ?_
  refine .step (.draw _ _ default) ?_
  refine .step (.ask (.retry _) _ true) ?_
  refine .step (.ask (.sleep _) _ ()) ?_
  refine .step (.draw _ _ default) ?_
  refine .step (.ask (.call _ _ _) _ (.failed breakdown)) ?_
  refine .step (.draw _ _ default) ?_
  refine .step (.ask (.retry _) _ false) ?_
  exact .refl _

theorem metered_cycling : cyclingHistory.Metered cyclingShared.config.maxTransitions := by
  simp [cyclingHistory, granted, offer, History.MeteredFrom, cyclingShared]

theorem planned_cycling : cyclingHistory.Planned := by
  have first : (cyclingPlan [0]).wouldRetry = true := rfl
  have second : (cyclingPlan [1]).wouldRetry = false := rfl
  simp [History.Planned, cyclingHistory, granted, offer, Mark.AsPlanned, Exchange.AsPlanned, first,
    second]

theorem attempts_limited_cycling :
    cyclingHistory.Metered 2 ∧ cyclingHistory.Planned ∧
      ∃ entries, Recorded cyclingShared cyclingMachine .path "" none .null cyclingHistory entries ∧
        (entries.map fun entry => entry.efforts.length).sum ≤ 2 * (1 + 1) := by
  rcases attempts_limited cyclingShared cyclingMachine .path "" none .null run_cycling
    metered_cycling planned_cycling with ⟨_, _, ⟨entries, recorded⟩, few, _⟩
  refine ⟨metered_cycling, planned_cycling, entries, recorded, few entries recorded 1 ?_⟩
  intro nested nests name state isState
  cases nests with
  | self =>
      cases List.mem_singleton.mp isState
      decide
  | inner isInner runs _ =>
      cases List.mem_singleton.mp isInner
      cases runs

end Engine

end Workflow
