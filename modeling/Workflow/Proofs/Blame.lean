import Workflow.Engine.Retry
import Workflow.Proofs.Contract

/-!
# Contracts of actions

An action ends with a value or with a fault. Its contract says what holds of the value and which
faults are to blame; the same faults are all that the members of its groups may end with. The rules
follow how actions are put together. An evaluation is described by the errors it raises, from
whatever random source it draws.
-/

namespace Workflow

/-- A value that meets a condition, or a fault that is to blame. -/
def Settles {α : Type} (blame : Fault → Prop) (post : α → Prop) : Except Fault α → Prop
  | .ok value => post value
  | .error fault => blame fault

/-- The contract of an action: groups end with values or with faults that are to blame. -/
def Contract.blaming (blame : Fault → Prop) (asks : Request → Prop) : Contract where
  allowed := Settles blame fun _ => True
  asks := asks

abbrev Contract.free (blame : Fault → Prop) : Contract := .lax (Settles blame fun _ => True)

/-! ## Evaluations -/

namespace Evaluation

variable {α β ε δ : Type} {raises : ε → Prop}

def Raises (raises : ε → Prop) (evaluation : Evaluation ε α) : Prop :=
  ∀ source error, (evaluation.run source).1 = .error error → raises error

theorem run_bind (evaluation : Evaluation ε α) (f : α → Evaluation ε β) (source : Random.Source) :
    (evaluation >>= f).run source =
      match evaluation.run source with
      | (.ok value, later) => (f value).run later
      | (.error error, later) => (.error error, later) := by
  show (match evaluation.run source with
    | (result, later) => (ExceptT.bindCont f result : StateM Random.Source _) later) = _
  rcases evaluation.run source with ⟨_ | _, later⟩ <;> rfl

theorem raises_pure (value : α) : Raises raises (pure value : Evaluation ε α) := by
  intro source error failed
  cases failed

theorem raises_throw {error : ε} (holds : raises error) :
    Raises raises (throw error : Evaluation ε α) := by
  intro source other failed
  cases failed
  exact holds

theorem raises_bind {evaluation : Evaluation ε α} {f : α → Evaluation ε β}
    (first : Raises raises evaluation) (later : ∀ value, Raises raises (f value)) :
    Raises raises (evaluation >>= f) := by
  intro source error failed
  rw [run_bind] at failed
  cases run : evaluation.run source with
  | mk result after =>
      rw [run] at failed
      cases result with
      | ok value => exact later value after error failed
      | error other =>
          have same : other = error := by injection failed
          exact first source error (by rw [run, same])

theorem raises_ofExcept {result : Except ε α}
    (holds : ∀ error, result = .error error → raises error) :
    Raises raises (ofExcept result) := by
  intro source error failed
  exact holds error failed

theorem raises_lifted {wrap : ε → δ} {raises : δ → Prop} {result : Except ε α}
    (holds : ∀ error, result = .error error → raises (wrap error)) :
    Raises raises (lifted wrap result) := by
  apply raises_ofExcept
  intro error failed
  cases result with
  | error inner =>
      cases failed
      exact holds inner rfl
  | ok value => cases failed

theorem raises_adapt {wrap : ε → δ} {raises : δ → Prop} {evaluation : Evaluation ε α}
    (holds : Raises (fun error => raises (wrap error)) evaluation) :
    Raises raises (ExceptT.adapt wrap evaluation : Evaluation δ α) := by
  intro source error failed
  change (evaluation.run source).1.mapError wrap = .error error at failed
  cases run : (evaluation.run source).1 with
  | ok value =>
      rw [run] at failed
      cases failed
  | error inner =>
      rw [run] at failed
      cases failed
      exact holds source inner run

end Evaluation

/-! ## Actions -/

namespace Action

variable {α β : Type} {blame : Fault → Prop} {asks : Request → Prop}

/-- An action ends with a value that meets a condition or with a fault that is to blame, and every
member of a group below it with a value or with such a fault. It asks only what it may. -/
def Ensures (blame : Fault → Prop) (asks : Request → Prop) (action : Action α)
    (post : α → Prop) : Prop :=
  Program.Ensures (.blaming blame asks) action.run (Settles blame post)

theorem Ensures.mono {action : Action α} {post weaker : α → Prop}
    (holds : action.Ensures blame asks post) (implies : ∀ value, post value → weaker value) :
    action.Ensures blame asks weaker := by
  refine Program.Ensures.mono holds ?_
  intro result settles
  cases result with
  | ok value => exact implies value settles
  | error fault => exact settles

theorem ensures_pure {value : α} {post : α → Prop} (holds : post value) :
    Ensures blame asks (pure value) post :=
  holds

theorem ensures_value (value : α) : Ensures blame asks (pure value) fun _ => True :=
  trivial

theorem ensures_throw {fault : Fault} {post : α → Prop} (holds : blame fault) :
    Ensures blame asks (throw fault) post :=
  holds

theorem ensures_bind {action : Action α} {f : α → Action β} {middle : α → Prop}
    {post : β → Prop} (first : action.Ensures blame asks middle)
    (later : ∀ value, middle value → (f value).Ensures blame asks post) :
    Ensures blame asks (action >>= f) post := by
  refine Program.ensures_bind (Program.Ensures.mono first ?_)
  intro result settles
  cases result with
  | ok value => exact later value settles
  | error fault => exact settles

theorem ensures_map {action : Action α} {f : α → β}
    (holds : action.Ensures blame asks fun _ => True) :
    Ensures blame asks (f <$> action) fun _ => True := by
  refine Program.ensures_bind (Program.Ensures.mono holds ?_)
  intro result settles
  cases result with
  | ok value => trivial
  | error fault => exact settles

theorem ensures_tryCatch {action : Action α} {handle : Fault → Action α} {post : α → Prop}
    (first : action.Ensures blame asks post)
    (later : ∀ fault, blame fault → (handle fault).Ensures blame asks post) :
    Ensures blame asks (tryCatch action handle) post := by
  refine Program.ensures_bind (Program.Ensures.mono first ?_)
  intro result settles
  cases result with
  | ok value => exact settles
  | error fault => exact later fault settles

theorem ensures_ask {request : Request} {post : request.Answer → Prop} (asked : asks request)
    (holds : ∀ answer, post answer) : (ask request).Ensures blame asks post :=
  ⟨asked, holds⟩

theorem ensures_ofExcept {result : Except Fault α} {post : α → Prop}
    (holds : Settles blame post result) : (ofExcept result).Ensures blame asks post :=
  holds

theorem ensures_evaluated {result : Except Evaluation.Error α}
    (holds : ∀ error, result = .error error → blame error.fault) :
    (evaluated result).Ensures blame asks fun _ => True := by
  cases result with
  | ok value => trivial
  | error error => exact holds error rfl

theorem ensures_evaluate {evaluation : Evaluation Evaluation.Error α}
    (holds : evaluation.Raises fun error => blame error.fault) :
    (evaluate evaluation).Ensures blame asks fun _ => True := by
  intro source
  show Settles blame _ ((evaluation.run source).1.mapError Evaluation.Error.fault)
  cases run : (evaluation.run source).1 with
  | ok value => trivial
  | error error => exact holds source error run

/-- A group meets an invariant of its tally that every admissible completion keeps. -/
theorem ensures_gather {σ : Type} {count : Nat} {member : Nat → Program Outcome} {start : σ}
    {absorb : σ → Nat → Completion → Progress σ} (post : σ → Prop)
    (members : ∀ place < count, (member place).Ensures (.free blame)
      (Settles blame fun _ => True))
    (holds : post start)
    (kept : ∀ tally place completion, post tally →
      completion.Fits (Settles blame fun _ => True) → post (absorb tally place completion).tally) :
    (gather count member start absorb).Ensures blame asks post :=
  ⟨post, members, holds, kept, fun _ invariant => invariant⟩

end Action

/-! ## Retrying -/

namespace Engine

variable {α : Type}

section Attempts

variable (state : String) (retriers : List Retrier) (attempt : Nat → Program (Except Fault α))

/-- Goes on after it was asked whether to retry. -/
def afterAsking (counts : List Nat) (retries : Nat) (result : Except Fault α) :
    (fuel : Nat) → Option RetryPlan → Program (Except Fault α × Nat)
  | fuel + 1, some plan => .ask (.sleep (pauseOf plan)) fun _ =>
    retrying state retriers attempt fuel (countRetry counts plan.retrier) (retries + 1)
  | _, _ => .done (result, retries)

/-- With fuel and without, an attempt comes first, and the question after it when it has failed. -/
theorem retrying_eq (fuel : Nat) (counts : List Nat) (retries : Nat) :
    retrying state retriers attempt fuel counts retries =
      (attempt retries).bind fun result =>
        match failureOf? result with
        | none => .done (result, retries)
        | some failure => (askRetry state retriers counts failure).bind
          (afterAsking state retriers attempt counts retries result fuel) := by
  cases fuel with
  | zero => rfl
  | succ fuel =>
      refine congrArg (Program.bind (attempt retries)) (funext fun result => ?_)
      cases failureOf? result with
      | none => rfl
      | some failure =>
          apply congrArg (Program.bind (askRetry state retriers counts failure))
          funext plan
          cases plan <;> rfl

end Attempts

variable {blame : Fault → Prop} {post : α → Prop} {contract : Contract}

theorem ensures_askRetry {post : Option RetryPlan → Prop}
    (asked : ∀ report, contract.asks (.retry report)) (holds : ∀ plan, post plan)
    (state : String) (retriers : List Retrier) (counts : List Nat) (failure : Failure) :
    (askRetry state retriers counts failure).Ensures contract post := by
  intro source
  refine ⟨asked _, fun again => ?_⟩
  cases again <;> exact holds _

/-- However often a failed attempt is repeated, what is left in the end is the result of one. -/
theorem ensures_retrying {state : String} {retriers : List Retrier}
    {attempt : Nat → Program (Except Fault α)}
    (asked : ∀ report, contract.asks (.retry report)) (rested : ∀ span, contract.asks (.sleep span))
    (attempts : ∀ retries, (attempt retries).Ensures contract (Settles blame post)) (fuel : Nat)
    (counts : List Nat) (retries : Nat) :
    (retrying state retriers attempt fuel counts retries).Ensures contract
      fun result => Settles blame post result.1 := by
  induction fuel using Nat.strongRecOn generalizing counts retries with
  | ind fuel ih =>
      rw [retrying_eq]
      refine Program.ensures_bind ((attempts retries).mono ?_)
      intro result settles
      cases failureOf? result with
      | none => exact settles
      | some failure =>
          refine Program.ensures_bind (ensures_askRetry asked ?_ _ _ _ _)
          intro plan
          cases fuel with
          | zero => exact settles
          | succ fuel =>
              cases plan with
              | none => exact settles
              | some plan => exact ⟨rested _, fun _ => ih fuel (Nat.lt_succ_self fuel) _ _⟩

end Engine

end Workflow
