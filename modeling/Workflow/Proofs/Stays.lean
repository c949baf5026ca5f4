import Workflow.Proofs.Efforts
import Workflow.Proofs.Graphs

/-!
# Stays

A stay is what happens in one state of a graph, from the time it looks at to what it leaves behind:
efforts, and then what is made of the last of them. A graph makes one stay after the other, each
in the state that the one before it went to, on the output that it left and in its frame. So what is
known of every stay is known of every run of a graph.
-/

namespace Workflow.Engine

variable {shared : Shared} {name : String} {state : State} {raw : Json} {frame : Frame}

/-! ## Settling -/

/-- A fault that is no failure. -/
def IsFatal {α : Type} (result : Except Fault α) : Prop :=
  ∃ fault : Fault, result = .error fault ∧ fault.failure? = none

/-- What a state reports when it has completed. -/
abbrev stepReport (name : String) (type : StateType) (raw : Json) (frame : Frame)
    (ended : Ended) : StepReport :=
  { state := name, type, input := raw, output := ended.output, stack := frame.stack }

def reporting (name : String) (state : State) (raw : Json) (frame : Frame) (ended : Ended) :
    History :=
  [([], .asked (.completed (stepReport name state.type raw frame ended)) ())]

/-- What a state is left with after its last attempt, and what is done for that. -/
inductive Settled (shared : Shared) (name : String) (state : State) (raw : Json) (frame : Frame)
    (entered : Instant) :
    Except Fault Ended → (retries : Nat) → History → Except Fault Ended → Prop where
  | succeeded (ended : Ended) (retries : Nat) :
      Settled shared name state raw frame entered (.ok ended) retries
        (reporting name state raw frame ended) (.ok ended)
  | fatal {fault : Fault} (retries : Nat) (fatal : fault.failure? = none) :
      Settled shared name state raw frame entered (.error fault) retries [] (.error fault)
  | uncaught {failure : Failure} (retries : Nat)
      (unclaimed : findCatcher state.common.catchers failure = none) :
      Settled shared name state raw frame entered (.error (.failed failure)) retries []
        (.error (.failed failure))
  | caught {failure : Failure} {retries : Nat} {catcher : Catcher} {source : Random.Source}
      {done : Completed} (claims : findCatcher state.common.catchers failure = some catcher)
      (evaluated : ((Pipeline.catchOutput catcher raw failure
        (visitedEnv shared name state.common frame entered retries)).run source).1 = .ok done) :
      Settled shared name state raw frame entered (.error (.failed failure)) retries
        (([], .drew) :: reporting name state raw frame
          { output := done.output, bindings := done.bindings, next := some catcher.next })
        (.ok { output := done.output, bindings := done.bindings, next := some catcher.next })
  /-- What a catcher evaluates has no value. -/
  | spoiled {failure : Failure} {retries : Nat} {catcher : Catcher} {source : Random.Source}
      {error : Evaluation.Error}
      (claims : findCatcher state.common.catchers failure = some catcher)
      (evaluated : ((Pipeline.catchOutput catcher raw failure
        (visitedEnv shared name state.common frame entered retries)).run source).1 =
          .error error) :
      Settled shared name state raw frame entered (.error (.failed failure)) retries
        [([], .drew)] (.error error.fault)

/-- An evaluation draws, and its program goes on from the result. -/
theorem evaluate_run_inv {α β : Type} {evaluation : Evaluation Evaluation.Error α}
    {f : Except Fault α → Program β} {history : History} {after : Process β}
    (run : Run (.alone ((Action.evaluate evaluation).run.bind f)) history after) :
    history = [] ∧ after.Unfinished ∨
      ∃ source later, history = ([], .drew) :: later ∧
        Run (.alone (f ((evaluation.run source).1.mapError Evaluation.Error.fault))) later
          after := by
  rcases run.draw_inv with nothing | ⟨source, later, split, run⟩
  · exact Or.inl nothing
  · exact Or.inr ⟨source, later, split, run⟩

theorem evaluate_inv {α β : Type} {evaluation : Evaluation Evaluation.Error α}
    {f : Except Fault α → Program β} {history : History} {after : Process β}
    (run : Run (.alone ((Action.evaluate evaluation).run.bind f)) history after) :
    history = [] ∧ after.Unfinished ∨
      ∃ result later, history = ([], .drew) :: later ∧ Run (.alone (f result)) later after := by
  rcases evaluate_run_inv run with nothing | ⟨source, later, split, run⟩
  · exact Or.inl nothing
  · exact Or.inr ⟨_, later, split, run⟩

theorem reportCompleted_inv {ended : Ended} {history : History}
    {after : Process (Except Fault Ended)}
    (run : Run (.alone (reportCompleted name state.type raw frame ended)) history after) :
    history = [] ∧ after.Unfinished ∨
      history = reporting name state raw frame ended ∧ after = .alone (.done (.ok ended)) := by
  rcases run.ask_inv with nothing | ⟨answer, later, split, run⟩
  · exact Or.inl nothing
  · rcases run.done_inv with ⟨nothing, same⟩
    rw [split, nothing]
    exact Or.inr ⟨rfl, same⟩

theorem catchFailure_settled {entered : Instant} {retries : Nat} {failure : Failure}
    {history : History} {after : Process (Except Fault Ended)}
    (run : Run (.alone (catchFailure name state.type state.common.catchers raw
      (visitedEnv shared name state.common frame entered retries) frame failure)) history after) :
    history.exchanges = [] ∧ after.Unfinished ∨
      ∃ outcome, after = .alone (.done outcome) ∧
        Settled shared name state raw frame entered (.error (.failed failure)) retries history
          outcome := by
  rw [catchFailure] at run
  cases claims : findCatcher state.common.catchers failure with
  | none =>
      rw [claims] at run
      rcases run.done_inv with ⟨nothing, same⟩
      rw [nothing]
      exact Or.inr ⟨_, same, .uncaught retries claims⟩
  | some catcher =>
      rw [claims] at run
      rcases evaluate_run_inv run with ⟨nothing, unfinished⟩ | ⟨source, later, split, run⟩
      · rw [nothing]
        exact Or.inl ⟨rfl, unfinished⟩
      rw [split]
      cases evaluated : ((Pipeline.catchOutput catcher raw failure
          (visitedEnv shared name state.common frame entered retries)).run source).1 with
      | error error =>
          rw [evaluated] at run
          rcases run.done_inv with ⟨nothing, same⟩
          rw [nothing]
          exact Or.inr ⟨_, same, .spoiled claims evaluated⟩
      | ok done =>
          rw [evaluated] at run
          rcases reportCompleted_inv run with ⟨nothing, unfinished⟩ | ⟨reported, same⟩
          · rw [nothing]
            exact Or.inl ⟨rfl, unfinished⟩
          · rw [reported]
            exact Or.inr ⟨_, same, .caught claims evaluated⟩

/-- A run of what goes on from the last attempt has asked nothing yet, or the state is settled. What
is fatal settles it at once. -/
theorem settle_settled {entered : Instant} {result : Except Fault Ended} {retries : Nat}
    {history : History} {after : Process (Except Fault Ended)}
    (run : Run (.alone (settle shared name state.type state.common raw frame entered
      (result, retries))) history after) :
    history.exchanges = [] ∧ after.Unfinished ∧ ¬ IsFatal result ∨
      ∃ outcome, after = .alone (.done outcome) ∧
        Settled shared name state raw frame entered result retries history outcome := by
  have faulted : ∀ fault : Fault, fault.failure? = none →
      Run (.alone (.done (.error fault))) history after →
      ∃ outcome, after = .alone (.done outcome) ∧
        Settled shared name state raw frame entered (.error fault) retries history outcome := by
    intro fault fatal run
    rcases run.done_inv with ⟨nothing, same⟩
    rw [nothing]
    exact ⟨_, same, .fatal retries fatal⟩
  match result with
  | .ok ended =>
      have notFatal : ¬ IsFatal (.ok ended : Except Fault Ended) := by
        rintro ⟨fault, same, _⟩
        cases same
      rcases reportCompleted_inv run with ⟨nothing, unfinished⟩ | ⟨reported, same⟩
      · rw [nothing]
        exact Or.inl ⟨rfl, unfinished, notFatal⟩
      · rw [reported]
        exact Or.inr ⟨_, same, .succeeded ended retries⟩
  | .error (.failed failure) =>
      have notFatal : ¬ IsFatal (.error (.failed failure) : Except Fault Ended) := by
        rintro ⟨fault, same, fatal⟩
        cases same
        cases fatal
      rcases catchFailure_settled run with ⟨unasked, unfinished⟩ | settled
      · exact Or.inl ⟨unasked, unfinished, notFatal⟩
      · exact Or.inr settled
  | .error (.malformed _) => exact Or.inr (faulted _ rfl run)
  | .error (.unknownResource _) => exact Or.inr (faulted _ rfl run)
  | .error (.noBatching _) => exact Or.inr (faulted _ rfl run)
  | .error (.tooManyTransitions _) => exact Or.inr (faulted _ rfl run)
  | .error .crashed => exact Or.inr (faulted _ rfl run)

/-! ## Stays -/

/-- What happens in a state after it was entered. -/
structure Stay where
  entered : Instant
  efforts : List (Effort Ended)
  settling : History

def Stay.history (stay : Stay) : History :=
  ([], .asked .now stay.entered) :: (stay.efforts.flatMap Effort.history ++ stay.settling)

def attemptOf (shared : Shared) (name : String) (state : State) (raw : Json) (frame : Frame)
    (entered : Instant) (retries : Nat) : Program (Except Fault Ended) :=
  (attempt name state.common (actOf shared state.kind) raw
    (visitedEnv shared name state.common frame entered retries)
    (frame.visited name entered retries)).run

/-- The efforts of a stay, from counters at zero on. -/
def Stay.Tries (shared : Shared) (name : String) (state : State) (raw : Json) (frame : Frame)
    (stay : Stay) (after : Process (Except Fault Ended × Nat)) : Prop :=
  Attempted name (stateRetriers state.type state.common)
    (attemptOf shared name state raw frame stay.entered)
    (shared.patience (stateRetriers state.type state.common))
    ((stateRetriers state.type state.common).map fun _ => 0) 0 stay.efforts after

/-- What a stay has come to. -/
inductive Stay.Of (shared : Shared) (name : String) (state : State) (raw : Json) (frame : Frame)
    (stay : Stay) : Process (Except Fault Ended) → Prop where
  | attempting {middle : Process (Except Fault Ended × Nat)}
      {after : Process (Except Fault Ended)}
      (tries : stay.Tries shared name state raw frame middle) (unfinished : middle.Unfinished)
      (nothing : stay.settling = []) (goesOn : after.Unfinished) :
      Stay.Of shared name state raw frame stay after
  | settling {result : Except Fault Ended} {retries : Nat} {after : Process (Except Fault Ended)}
      (tries : stay.Tries shared name state raw frame (.alone (.done (result, retries))))
      (unasked : stay.settling.exchanges = []) (goesOn : after.Unfinished)
      (notFatal : ¬ IsFatal result) :
      Stay.Of shared name state raw frame stay after
  | settled {result outcome : Except Fault Ended} {retries : Nat}
      (tries : stay.Tries shared name state raw frame (.alone (.done (result, retries))))
      (settled : Settled shared name state raw frame stay.entered result retries stay.settling
        outcome) :
      Stay.Of shared name state raw frame stay (.alone (.done outcome))

/-- A run of a state that has begun is a stay. -/
theorem stateRunner_stays {history : History} {after : Process (Except Fault Ended)}
    (run : Run (.alone (stateRunner shared name state raw frame)) history after) :
    history = [] ∧ after.Unfinished ∨
      ∃ stay : Stay, history = stay.history ∧ stay.Of shared name state raw frame after := by
  rw [stateRunner, runState_eq] at run
  rcases run.ask_inv with nothing | ⟨entered, later, split, run⟩
  · exact Or.inl nothing
  right
  rcases run.bind_inv with ⟨middle, unfinished, tries, same⟩ |
    ⟨tried, settling, ⟨result, retries⟩, splitLater, tries, run⟩
  · rcases retrying_attempted tries with ⟨efforts, whole, attempted⟩
    refine ⟨⟨entered, efforts, []⟩, ?_, .attempting attempted unfinished rfl ?_⟩
    · simp [Stay.history, split, whole]
    · exact same ▸ unfinished.bind _
  · rcases retrying_attempted tries with ⟨efforts, whole, attempted⟩
    refine ⟨⟨entered, efforts, settling⟩, by simp [Stay.history, split, splitLater, whole], ?_⟩
    rcases settle_settled run with ⟨unasked, goesOn, notFatal⟩ | ⟨outcome, same, settled⟩
    · exact .settling attempted unasked goesOn notFatal
    · rw [same]
      exact .settled attempted settled

/-- What comes after the efforts of a stay waits for them. -/
theorem Stay.Of.tries {stay : Stay} {after : Process (Except Fault Ended)}
    (isOf : stay.Of shared name state raw frame after) :
    ∃ middle, stay.Tries shared name state raw frame middle ∧
      (middle.Unfinished → stay.settling = [] ∧ after.Unfinished) := by
  cases isOf with
  | attempting tries unfinished nothing goesOn => exact ⟨_, tries, fun _ => ⟨nothing, goesOn⟩⟩
  | settling tries => exact ⟨_, tries, fun unfinished => absurd rfl (unfinished _)⟩
  | settled tries => exact ⟨_, tries, fun unfinished => absurd rfl (unfinished _)⟩

/-! ## Branches -/

/-- A run of a branch falls into efforts, all of them on the same input and in the same frame. -/
theorem runBranch_attempted {visit : Visit} {branch : Runner} {input : Json} {history : History}
    {after : Process Outcome}
    (run : Run (.alone (runBranch shared visit branch input)) history after) :
    ∃ efforts middle, history = efforts.flatMap Effort.history ∧
      Attempted visit.name visit.common.retriers
        (fun _ => branch input (visit.frame.child visit.name))
        (shared.patience visit.common.retriers) (visit.common.retriers.map fun _ => 0) 0 efforts
        middle ∧
      (middle.Unfinished ∧ after.Unfinished ∨
        ∃ result count, middle = .alone (.done (result, count)) ∧
          after = .alone (.done result)) := by
  rcases run.bind_inv with ⟨middle, unfinished, tries, same⟩ |
    ⟨tried, later, ⟨result, count⟩, split, tries, run⟩
  · rcases retrying_attempted tries with ⟨efforts, whole, attempted⟩
    exact ⟨efforts, middle, whole, attempted, Or.inl ⟨unfinished, same ▸ unfinished.bind _⟩⟩
  · rcases retrying_attempted tries with ⟨efforts, whole, attempted⟩
    rcases run.done_inv with ⟨nothing, same⟩
    rw [split, nothing, List.append_nil]
    exact ⟨efforts, _, whole, attempted, Or.inr ⟨result, count, rfl, same⟩⟩

/-- An attempt that does not fail is the only one of its branch. -/
theorem runBranch_run {visit : Visit} {branch : Runner} {input : Json} {history : History}
    {outcome : Outcome}
    (run : Run (.alone (branch input (visit.frame.child visit.name))) history
      (.alone (.done outcome)))
    (unfailed : failureOf? outcome = none) :
    Run (.alone (runBranch shared visit branch input)) history (.alone (.done outcome)) := by
  have tries : Run (.alone (retrying visit.name visit.common.retriers
      (fun _ => branch input (visit.frame.child visit.name))
      (shared.patience visit.common.retriers) (visit.common.retriers.map fun _ => 0) 0)) history
        (.alone (.done (outcome, 0))) := by
    rw [retrying_eq]
    exact run.bind_done (by rw [unfailed])
  exact tries.bind_done rfl

end Workflow.Engine
