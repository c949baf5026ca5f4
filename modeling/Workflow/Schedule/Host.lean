import Workflow.Program

/-!
# Hosts

A host answers what the programs of a run ask: it handles resources and decides what is put to it.
A handler is an activity that may pause; it reads and changes the state of the host whenever it is
its turn. What happens is recorded as events.
-/

namespace Workflow

/-- What is left to do of a call. -/
inductive Activity (σ : Type) where
  | finished (result : Except Failure Json)
  | crashed
  /-- Goes on after a number of milliseconds. -/
  | pause (milliseconds : Nat) (next : σ → Activity σ × σ)

/-- How a resource is handled. -/
abbrev Handler (σ : Type) := Json → σ → Activity σ × σ

/-- What answers the programs of a run. -/
structure Host (σ : Type) where
  handler? : String → Option (Handler σ)
  /-- Whether a failure is retried. -/
  grantsRetry : RetryReport → σ → Bool × σ := fun report state => (report.plan.wouldRetry, state)
  /-- Whether waits are over at once. -/
  skipsWaits : Bool := false
  acceptsHeartbeat : Nat → Bool := fun _ => true
  acceptsCredentials : Json → Bool := fun _ => true
  /-- How items are split into batches of a size in bytes, if that is supported. -/
  split? : Option (Nat → List Json → List (List Json)) := none
  /-- How many milliseconds after their deadlines time limits strike. -/
  lateness : Nat := 0
  /-- Whether a program crashes when a state of that name completes. -/
  crashesAfter : String → Bool := fun _ => false

/-- What happens in a run. -/
inductive Event where
  | called (resource : String) (input : Json)
  | returned (resource : String) (succeeded : Bool)
  | completed (report : StepReport)
  | retry (report : RetryReport)
  | wait (report : WaitReport)
  | heartbeat (state : String) (seconds : Nat)
  | credentials (state : String) (value : Json)
  | split (state : String) (items limit : Nat)

end Workflow
