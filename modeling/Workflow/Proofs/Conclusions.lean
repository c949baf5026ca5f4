import Workflow.Proofs.Counters
import Workflow.Proofs.Termination

/-!
# Conclusions

What attempts in a row come to is told by how each of them ends: it is the first one that does not
fail, or the first failure whose first claimant has no retries left. `Concludes` says so of any
sequence of outcomes, without a program. Attempts whose outcomes follow a sequence come to its
conclusion, and a sequence has only one. Attempts can always be carried on with answers as planned,
so they come to it.
-/

namespace Workflow

namespace Engine

variable {α : Type}

/-! ## Conclusions -/

/-- What a sequence of outcomes comes to from some counters on, and from some attempt on. -/
inductive Concludes (retriers : List Retrier) (outcomes : Nat → Except Fault α) :
    (counts : List Nat) → (retries : Nat) → Except Fault α → Prop where
  | settled {counts : List Nat} {retries : Nat} (unfailed : failureOf? (outcomes retries) = none) :
      Concludes retriers outcomes counts retries (outcomes retries)
  | spent {counts : List Nat} {retries : Nat} {failure : Failure}
      (failed : outcomes retries = .error (.failed failure))
      (spent : ¬ HasSpare retriers counts failure) :
      Concludes retriers outcomes counts retries (.error (.failed failure))
  | again {counts : List Nat} {retries : Nat} {failure : Failure} {result : Except Fault α}
      (failed : outcomes retries = .error (.failed failure))
      (spare : HasSpare retriers counts failure)
      (further : Concludes retriers outcomes
        (countRetry counts (claimantOf retriers failure)) (retries + 1) result) :
      Concludes retriers outcomes counts retries result

/-- A sequence of outcomes has one conclusion. -/
theorem Concludes.unique {retriers : List Retrier} {outcomes : Nat → Except Fault α}
    {counts : List Nat} {retries : Nat} {result other : Except Fault α}
    (first : Concludes retriers outcomes counts retries result)
    (second : Concludes retriers outcomes counts retries other) : result = other := by
  have notFailed : ∀ {retries failure}, failureOf? (outcomes retries) = none →
      outcomes retries ≠ .error (.failed failure) := by
    intro retries failure unfailed failed
    rw [failed] at unfailed
    cases unfailed
  induction first with
  | settled unfailed =>
      cases second with
      | settled => rfl
      | spent failed => exact absurd failed (notFailed unfailed)
      | again failed => exact absurd failed (notFailed unfailed)
  | spent failed spent =>
      cases second with
      | settled unfailed => exact absurd failed (notFailed unfailed)
      | spent other => exact failed.symm.trans other
      | again other spare =>
          cases failed.symm.trans other
          exact absurd spare spent
  | again failed spare further ih =>
      cases second with
      | settled unfailed => exact absurd failed (notFailed unfailed)
      | spent other spent =>
          cases failed.symm.trans other
          exact absurd spare spent
      | again other _ further =>
          cases failed.symm.trans other
          exact ih further

/-- Every attempt that has ended ended as a sequence says. -/
def Follows (outcomes : Nat → Except Fault α) (efforts : List (Effort α)) : Prop :=
  ∀ index effort outcome, efforts[index]? = some effort →
    effort.after = .alone (.done outcome) → outcome = outcomes index

end Engine

/-! ## Progress as planned -/

/-- Where whether to retry is asked, it is answered as planned. -/
def Mark.AsPlanned : Mark → Prop
  | .asked request answer => Exchange.AsPlanned ⟨request, answer⟩
  | _ => True

theorem Step.reanswer {α : Type} {before after : Process α} {path : List Nat} {request : Request}
    {answer : request.Answer} (step : Step before (path, .asked request answer) after)
    (other : request.Answer) : ∃ after, Step before (path, .asked request other) after := by
  generalize same : (path, Mark.asked request answer) = mark at step
  induction step generalizing path with
  | ask asked next given =>
      cases same
      exact ⟨_, .ask request next other⟩
  | draw => cases same
  | gather => cases same
  | member isLeft step ih =>
      cases same
      rcases ih rfl with ⟨after, step⟩
      exact ⟨_, .member isLeft step⟩
  | absorb => cases same
  | drop => cases same
  | resume => cases same

/-- What has not ended can go on without a crash, and as planned. -/
theorem Process.progress_asPlanned {α : Type} (process : Process α) :
    (∃ value, process = .alone (.done value)) ∨
      ∃ path mark after, Step process (path, mark) after ∧ mark.Calm ∧ mark.AsPlanned := by
  rcases process.progress with ended | ⟨path, mark, after, step, calm⟩
  · exact Or.inl ended
  right
  cases mark with
  | asked request answer =>
      by_cases planned : Exchange.AsPlanned ⟨request, answer⟩
      · exact ⟨_, _, _, step, calm, planned⟩
      -- Only a question whether to retry can be answered otherwise.
      · cases request with
        | retry report =>
            rcases step.reanswer report.plan.wouldRetry with ⟨after, step⟩
            exact ⟨_, _, _, step, nofun, rfl⟩
        | _ => exact absurd trivial planned
  | _ => exact ⟨_, _, _, step, calm, trivial⟩

end Workflow
