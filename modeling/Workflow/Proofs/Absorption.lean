import Workflow.Proofs.Calls
import Workflow.Proofs.Surrender
import Workflow.Proofs.Termination

/-!
# Absorption

Only failures are absorbed. A fault that is no failure ends whatever learns of it with that very
fault: it is not offered for a retry, not caught, not tolerated and not renamed. A failed attempt of
a state, in turn, is offered once, before anything else is made of it.
-/

namespace Workflow

/-! ## Offers -/

/-- The failure that was offered for a retry. -/
def Exchange.offer? : Exchange → Option RetryReport
  | ⟨.retry report, _⟩ => some report
  | _ => none

def History.offers (history : History) : List RetryReport :=
  history.exchanges.filterMap Exchange.offer?

namespace History

end History

namespace Engine

variable {α : Type}

/-! ## Efforts -/

section Efforts

variable {state : String} {retriers : List Retrier} {efforts : List (Effort α)}
  {after : Process (Except Fault α × Nat)} {effort : Effort α}

theorem offers_offer (state : String) (failure : Failure) (plan : RetryPlan) (again : Bool) :
    (offer state failure plan again).offers = [{ state, failure, plan }] :=
  rfl

theorem offers_part {failure : Failure} {plan : RetryPlan} {pause : History}
    (part : pause <+: offer state failure plan true) :
    pause.offers = [] ∨ pause.offers = [{ state, failure, plan }] := by
  rcases part with ⟨rest, whole⟩
  match pause with
  | [] => exact Or.inl rfl
  | [entry] =>
      cases whole
      exact Or.inl rfl
  | [_, entry] =>
      cases whole
      exact Or.inr rfl
  | _ :: _ :: _ :: _ => cases whole

/-- Attempts in a row end with a fatal attempt at once, and with its fault. -/
theorem Effort.Among.fatal (among : effort.Among state retriers efforts after) {fault : Fault}
    (fatal : fault.failure? = none) (failed : effort.after = .alone (.done (.error fault))) :
    efforts.getLast? = some effort ∧ effort.pause = [] ∧
      after = .alone (.done (.error fault, effort.retries)) := by
  have notFatal : ∀ {failure : Failure},
      effort.after ≠ .alone (.done (.error (.failed failure))) := by
    intro failure same
    cases failed.symm.trans same
    cases fatal
  cases among with
  | trying _ unfinished => exact absurd failed (unfinished _)
  | settled isLast ended _ unpaused same =>
      cases failed.symm.trans ended
      exact ⟨isLast, unpaused, same⟩
  | pausing _ ended => exact absurd ended notFatal
  | declined _ ended => exact absurd ended notFatal
  | retried ended => exact absurd ended notFatal

/-- A failed attempt is offered once, unless the run has not got that far. -/
theorem Effort.Among.offered (among : effort.Among state retriers efforts after)
    {failure : Failure} (failed : effort.after = .alone (.done (.error (.failed failure)))) :
    (∃ plan, effort.pause.offers = [{ state, failure, plan }]) ∨
      efforts.getLast? = some effort ∧ effort.pause.offers = [] ∧ after.Unfinished := by
  cases among with
  | trying _ unfinished => exact absurd failed (unfinished _)
  | settled _ ended unfailed =>
      cases failed.symm.trans ended
      cases unfailed
  | pausing isLast ended plans part goesOn =>
      cases failed.symm.trans ended
      rcases offers_part part with nothing | all
      · exact Or.inr ⟨isLast, nothing, goesOn⟩
      · exact Or.inl ⟨_, all⟩
  | declined _ ended plans offered =>
      cases failed.symm.trans ended
      exact Or.inl ⟨_, by rw [offered, offers_offer]⟩
  | retried ended plans granted =>
      cases failed.symm.trans ended
      exact Or.inl ⟨_, by rw [granted]; rfl⟩

/-- Only after a failure there is a pause. -/
theorem Effort.Among.unpaused (among : effort.Among state retriers efforts after)
    (unfailed : ∀ failure, effort.after ≠ .alone (.done (.error (.failed failure)))) :
    effort.pause = [] := by
  cases among with
  | trying _ _ unpaused => exact unpaused
  | settled _ _ _ unpaused => exact unpaused
  | pausing _ ended => exact absurd ended (unfailed _)
  | declined _ ended => exact absurd ended (unfailed _)
  | retried ended => exact absurd ended (unfailed _)

end Efforts

/-! ## Stays -/

section Stays

variable {shared : Shared} {name : String} {state : State} {raw : Json} {frame : Frame}

theorem Settled.silent {entered : Instant} {result outcome : Except Fault Ended} {retries : Nat}
    {history : History}
    (settled : Settled shared name state raw frame entered result retries history outcome) :
    history.offers = [] := by
  cases settled <;> rfl

end Stays

/-! ## All levels -/

/-- A state that calls what nobody handles. -/
def lost : State := .mk { ends := some true } (.task { resource := "lost" })

end Engine

end Workflow
