import Workflow.Proofs.Walks

/-!
# Invocations

A graph is invoked by a machine, for a unit of a Map, and for each attempt of a branch of a
Parallel. Each time what it asks is a walk: by itself, among the other members of its group, and
between the attempts before and after it.
-/

namespace Workflow

namespace Engine

variable {shared : Shared} {α : Type}

/-! ## Attempts in a row -/

/-- One of several attempts, and what was asked after it. -/
structure Trial (α : Type) where
  retries : Nat
  history : History
  after : Process (Except Fault α)
  pause : List Exchange

/-- An attempt is a run of a program, and then there is a pause. -/
structure Trial.Of (attempt : Nat → Program (Except Fault α)) (trial : Trial α) : Prop where
  run : Run (.alone (attempt trial.retries)) trial.history trial.after
  pausing : ∀ exchange ∈ trial.pause, exchange.1.Pausing

def Trial.exchanges (trial : Trial α) : List Exchange := trial.history.exchanges ++ trial.pause

/-- What is asked is asked in attempts in a row. -/
def AskedInTrials (attempt : Nat → Program (Except Fault α)) (exchanges : List Exchange) : Prop :=
  ∃ trials : List (Trial α), exchanges = trials.flatMap Trial.exchanges ∧
    ∀ trial ∈ trials, trial.Of attempt

/-- An effort without its counters. -/
def Effort.trial (effort : Effort α) : Trial α :=
  ⟨effort.retries, effort.tried, effort.after, effort.pause.exchanges⟩

theorem retrying_trials {state : String} {retriers : List Retrier}
    {attempt : Nat → Program (Except Fault α)} {fuel : Nat} {counts : List Nat} {retries : Nat}
    {history : History} {after : Process (Except Fault α × Nat)}
    (run : Run (.alone (retrying state retriers attempt fuel counts retries)) history after) :
    AskedInTrials attempt history.exchanges := by
  rcases retrying_attempted run with ⟨efforts, whole, attempted⟩
  refine ⟨efforts.map Effort.trial, ?_, ?_⟩
  · rw [whole, History.exchanges_flatMap, List.flatMap_map]
    exact congrArg efforts.flatMap (funext fun effort => History.exchanges_append _ _)
  · intro trial isTrial
    rcases List.mem_map.mp isTrial with ⟨effort, isEffort, same⟩
    rcases attempted.among isEffort with ⟨run, among⟩
    rw [← same]
    exact ⟨run, among.pausing_exchanges⟩

/-! ## Invocations -/

/-- What an invocation of a graph asks, and what it reports, is a walk of the graph: it starts with
the first state on the input, every state passes its output on to one of its successors, every state
that was entered is reported once, and only the last one may be left without a report. An output
comes from the last report, of a state that ends the graph. This holds of an invocation by itself,
of one that is the member of a group in whatever way the members are interleaved, and of all
attempts of a branch. -/
theorem invocations_walk (shared : Shared) (graph : Graph) (input : Json) :
    (∀ frame history after, Run (.alone (runGraph shared graph input frame)) history after →
      Walks shared graph input frame history.exchanges after) ∧
    (∀ frame (α : Type) (process final : Process α) history place, Run process history final →
      process.Grouped → ([], .resumed) ∉ history →
      process.memberAt place = .alone (runGraph shared graph input frame) →
      Walks shared graph input frame (history.inside place).exchanges (final.memberAt place)) ∧
    ∀ visit history after,
      Run (.alone (runBranch shared visit (runGraph shared graph) input)) history after →
      ∃ trials : List (Trial Json), history.exchanges = trials.flatMap Trial.exchanges ∧
        ∀ trial ∈ trials, (∀ exchange ∈ trial.pause, exchange.1.Pausing) ∧
          Walks shared graph input (visit.frame.child visit.name) trial.history.exchanges
            trial.after := by
  refine ⟨fun frame history after run => runGraph_walks run, ?_, ?_⟩
  · intro frame α process final history place run grouped goesOn same
    have member := run.inside grouped goesOn place
    rw [same] at member
    exact runGraph_walks member
  · intro visit history after run
    have asked : AskedInTrials
        (fun _ => runGraph shared graph input (visit.frame.child visit.name))
        history.exchanges := by
      rcases run.bind_inv with ⟨middle, _, tries, _⟩ | ⟨tried, later, result, split, tries, run⟩
      · exact retrying_trials tries
      · rcases run.done_inv with ⟨nothing, _⟩
        rw [split, nothing, List.append_nil]
        exact retrying_trials tries
    rcases asked with ⟨trials, whole, areOf⟩
    refine ⟨trials, whole, fun trial isTrial => ?_⟩
    have isOf := areOf trial isTrial
    exact ⟨isOf.pausing, runGraph_walks isOf.run⟩

/-- A state that hands its input on, and one that ends the graph. -/
def handOver : Graph :=
  .mk "Hand" [("Hand", .mk { next := some "Done" } (.pass none)), ("Done", .mk {} .succeed)]
    none none

def handOverHistory (stack : List String) : History :=
  [([], .asked .enter true), ([], .asked .now default), ([], .drew), ([], .drew),
    ([], .asked (.completed ⟨"Hand", .pass, .null, .null, stack⟩) ()),
    ([], .asked .enter true), ([], .asked .now default), ([], .drew),
    ([], .asked (.completed ⟨"Done", .succeed, .null, .null, stack⟩) ())]

def smallShared : Shared := ⟨{ maxTransitions := 2 }, 0⟩

def smallFrame (stack : List String) : Frame := ⟨.null, [], stack, .path⟩

theorem run_handOver (stack : List String) :
    Run (.alone (runGraph smallShared handOver .null (smallFrame stack)))
      (handOverHistory stack) (.alone (.done (.ok .null))) := by
  refine .step (.ask .enter _ true) ?_
  refine .step (.ask .now _ default) ?_
  refine .step (.draw _ _ default) ?_
  refine .step (.draw _ _ default) ?_
  refine .step (.ask (.completed _) _ ()) ?_
  refine .step (.ask .enter _ true) ?_
  refine .step (.ask .now _ default) ?_
  refine .step (.draw _ _ default) ?_
  refine .step (.ask (.completed _) _ ()) ?_
  exact .refl _

def forkVisit : Visit :=
  { name := "Fork", common := {}, raw := .null, effective := .null
    env := (smallFrame []).env smallShared .path, frame := smallFrame [] }

theorem run_handOver_branch :
    Run (.alone (runBranch smallShared forkVisit (runGraph smallShared handOver) .null))
      (handOverHistory ["Fork"]) (.alone (.done (.ok .null))) :=
  runBranch_run (run_handOver ["Fork"]) rfl

def groupOf (member : Process Outcome) : Process Unit :=
  .group [0] (fun _ => member) false () (fun tally _ _ => .more tally) .done

theorem grouped_groupOf (member : Process Outcome) : (groupOf member).Grouped := by
  intro program same
  cases same

theorem invocations_walk_handOver :
    Walks smallShared handOver .null (smallFrame []) (handOverHistory []).exchanges
      (.alone (.done (.ok .null))) ∧
    (∃ after, Walks smallShared handOver .null (smallFrame []) [⟨.enter, true⟩] after) ∧
    ∃ trials : List (Trial Json),
      (handOverHistory ["Fork"]).exchanges = trials.flatMap Trial.exchanges ∧
      ∀ trial ∈ trials, (∀ exchange ∈ trial.pause, exchange.1.Pausing) ∧
        Walks smallShared handOver .null (smallFrame ["Fork"]) trial.history.exchanges
          trial.after := by
  have walks := invocations_walk smallShared handOver .null
  refine ⟨walks.1 _ _ _ (run_handOver []), ?_, walks.2.2 forkVisit _ _ run_handOver_branch⟩
  have isLeft : 0 ∈ [0] := List.mem_singleton.mpr rfl
  have step : Step (groupOf (.alone (runGraph smallShared handOver .null (smallFrame []))))
      ([0], .asked .enter true) _ := .member isLeft (.ask .enter _ true)
  have goesOn : ([], Mark.resumed) ∉ [([0], Mark.asked .enter true)] := by simp
  exact ⟨_, walks.2.1 (smallFrame []) Unit _ _ _ 0 (.step step (.refl _)) (grouped_groupOf _)
    goesOn rfl⟩

end Engine

end Workflow
