import Workflow.Definition
import Workflow.Fault

/-!
# Programs

What a running state does is a program: a chain of requests to whatever runs it, each with the
program that goes on from the answer. A program says nothing of how requests are answered, nor in
which order programs that run side by side take their turns. A group of programs is gathered by a
tally that sees their completions one at a time, in any order, and may stop the group; the program
goes on when every member is gone.
-/

namespace Workflow

/-! ## Requests -/

/-- A state that completed. -/
structure StepReport where
  state : String
  type : StateType
  input : Json
  output : Json
  /-- The names of the enclosing states, outermost first. -/
  stack : List String
deriving Inhabited

/-- A failure and what the retriers would do with it. -/
structure RetryReport where
  state : String
  failure : Failure
  plan : RetryPlan
deriving Inhabited

/-- A wait that begins. -/
structure WaitReport where
  state : String
  stop : Instant
  /-- The seconds, if the wait was given in seconds. -/
  seconds : Option Nat
  /-- The time at which the end was computed. -/
  now : Instant
deriving Inhabited

/-- What comes of calling a resource. -/
inductive Reply where
  | output (value : Json)
  | failed (failure : Failure)
  | crashed
  /-- The time limit passed; the call goes on by itself. -/
  | late
  /-- Nobody handles the resource. -/
  | unknown
deriving Inhabited

/-- What a program can ask of whatever runs it. -/
inductive Request where
  /-- To enter one more state; the answer says whether the run may. -/
  | enter
  | now
  /-- To call a resource, with a time limit in seconds. -/
  | call (resource : String) (input : Json) (timeout : Option Nat)
  | sleep (span : Span)
  | completed (report : StepReport)
  /-- Whether to retry after a failure. -/
  | retry (report : RetryReport)
  /-- To return when a wait is over. -/
  | wait (report : WaitReport)
  /-- Whether a heartbeat is accepted. -/
  | heartbeat (state : String) (seconds : Nat)
  /-- Whether credentials are accepted. -/
  | credentials (state : String) (value : Json)
  /-- To split items into batches of a size in bytes, if that is supported. -/
  | split (state : String) (items : List Json) (limit : Nat)
deriving Inhabited

abbrev Request.Answer : Request → Type
  | .enter => Bool
  | .now => Instant
  | .call .. => Reply
  | .sleep _ => Unit
  | .completed _ => Unit
  | .retry _ => Bool
  | .wait _ => Unit
  | .heartbeat .. => Bool
  | .credentials .. => Bool
  | .split .. => Option (List (List Json))

/-! ## Programs -/

/-- How a graph ends: with an output or a fault. -/
abbrev Outcome := Except Fault Json

/-- How a member of a group ends. -/
inductive Completion where
  | finished (outcome : Outcome)
  | crashed

/-- How a member that ends with an outcome is seen to end. -/
def Completion.ofOutcome : Outcome → Completion
  | .error .crashed => .crashed
  | outcome => .finished outcome

/-- What a tally does with a completion. -/
inductive Progress (σ : Type) where
  | more (tally : σ)
  /-- The members that are left are stopped. -/
  | stop (tally : σ)

/-- A program that ends with a value. -/
inductive Program : Type → Type 1 where
  | done {α : Type} (value : α) : Program α
  | ask {α : Type} (request : Request) (next : request.Answer → Program α) : Program α
  /-- Draws from the random source. -/
  | draw {α β : Type} (drawn : Random.Source → β × Random.Source) (next : β → Program α) :
      Program α
  /-- Runs members side by side until all of them are gone. -/
  | gather {α σ : Type} (count : Nat) (member : Nat → Program Outcome) (start : σ)
      (absorb : σ → Nat → Completion → Progress σ) (next : σ → Program α) : Program α

namespace Program

/-- Goes on from the value of a program. -/
def bind {α β : Type} : Program α → (α → Program β) → Program β
  | .done value, f => f value
  | .ask request next, f => .ask request fun answer => (next answer).bind f
  | .draw drawn next, f => .draw drawn fun value => (next value).bind f
  | .gather count member start absorb next, f =>
    .gather count member start absorb fun tally => (next tally).bind f

instance : Monad Program where
  pure := .done
  bind := bind

instance {α : Type} [Inhabited α] : Inhabited (Program α) := ⟨.done default⟩

end Program

/-- A program that ends with a value or a fault. -/
abbrev Action (α : Type) := ExceptT Fault Program α

namespace Action

def ask (request : Request) : Action request.Answer :=
  ExceptT.mk (.ask request fun answer => .done (.ok answer))

/-- A value or a fault that is known. -/
def ofExcept {α : Type} (result : Except Fault α) : Action α := ExceptT.mk (.done result)

/-- A value, where the error of an expression is a fault. -/
def evaluated {α : Type} (result : Except Evaluation.Error α) : Action α :=
  ofExcept (result.mapError Evaluation.Error.fault)

/-- The value of an evaluation that draws from the random source. -/
def evaluate {α : Type} (evaluation : Evaluation Evaluation.Error α) : Action α :=
  ExceptT.mk <| .draw evaluation.run fun result => .done (result.mapError Evaluation.Error.fault)

/-- A value drawn from the random source. -/
def draw {α : Type} (drawn : StateM Random.Source α) : Action α :=
  ExceptT.mk <| .draw drawn fun value => .done (.ok value)

/-- The tally of a group when all of its members are gone. -/
def gather {σ : Type} (count : Nat) (member : Nat → Program Outcome) (start : σ)
    (absorb : σ → Nat → Completion → Progress σ) : Action σ :=
  ExceptT.mk <| .gather count member start absorb fun tally => .done (.ok tally)

end Action

end Workflow
