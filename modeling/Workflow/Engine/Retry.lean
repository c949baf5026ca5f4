import Workflow.Engine.Effects

/-!
# Retrying

A failed attempt is reported together with what the retriers would do, and the answer decides. The
retriers allow only so many retries and so do the grants beyond them, so their number is fuel enough
for all attempts.
-/

namespace Workflow.Engine

variable {α : Type}

/-- How many retries can ever be granted. -/
def Shared.patience (shared : Shared) (retriers : List Retrier) : Nat :=
  retriers.foldr (fun retrier total => retrier.attempts + total) shared.extraRetries

/-- Counts one more retry of a retrier. -/
def countRetry (counts : List Nat) (place : Option Nat) : List Nat :=
  match place with
  | some place => counts.modify place (· + 1)
  | none => counts

def failureOf? : Except Fault α → Option Failure
  | .ok _ => none
  | .error fault => fault.failure?

/-- How long to wait before a retry; without a retrier it comes at once. -/
def pauseOf (plan : RetryPlan) : Span := if plan.retrier.isSome then plan.delay else .zero

/-- Reports a failure; the plan of its retry, if it may be retried. -/
def askRetry (state : String) (retriers : List Retrier) (counts : List Nat) (failure : Failure) :
    Program (Option RetryPlan) := do
  let plan ← Program.draw (planRetry retriers counts failure) Program.done
  let again ← Program.ask (.retry { state, failure, plan }) Program.done
  return if again then some plan else none

/-- Attempts until an attempt succeeds, ends in a fault that is no failure, or may not be retried.
The result comes with the number of retries. -/
def retrying (state : String) (retriers : List Retrier)
    (attempt : (retries : Nat) → Program (Except Fault α)) :
    (fuel : Nat) → (counts : List Nat) → (retries : Nat) → Program (Except Fault α × Nat)
  | 0, counts, retries => do
    let result ← attempt retries
    match failureOf? result with
    | none => return (result, retries)
    | some failure =>
      let _ ← askRetry state retriers counts failure
      return (result, retries)
  | fuel + 1, counts, retries => do
    let result ← attempt retries
    match failureOf? result with
    | none => return (result, retries)
    | some failure =>
      match ← askRetry state retriers counts failure with
      | none => return (result, retries)
      | some plan =>
        Program.ask (.sleep (pauseOf plan)) Program.done
        retrying state retriers attempt fuel (countRetry counts plan.retrier) (retries + 1)

end Workflow.Engine
