import Workflow.Proofs.Blame
import Workflow.Proofs.Sequencing

/-!
# Efforts

A state is attempted until it need not be retried, and so is a branch of a Parallel. A run of that
is a list of efforts: an attempt, and what is asked between it and the next one. `Attempted` follows
the loop, one constructor for each way in which it can go on, end, or be under way. What the
counters are before each attempt is part of it, so invariants of the counters are inductions on it.
-/

namespace Workflow

/-! ## Plans -/

def claimantOf (retriers : List Retrier) (failure : Failure) : Option Nat :=
  retriers.findIdx? fun retrier => failure.isClaimedBy retrier.errorEquals

/-- The first retrier that claims a failure has retries left. -/
def HasSpare (retriers : List Retrier) (counts : List Nat) (failure : Failure) : Prop :=
  ∃ place retrier, claimantOf retriers failure = some place ∧ retriers[place]? = some retrier ∧
    counts.getD place 0 < retrier.attempts

/-- What the retriers plan for a failure, from some source of random numbers. -/
def Plans (retriers : List Retrier) (counts : List Nat) (failure : Failure) (plan : RetryPlan) :
    Prop :=
  ∃ source, plan = (planRetry retriers counts failure source).1

section Plans

variable {retriers : List Retrier} {counts : List Nat} {failure : Failure} {plan : RetryPlan}

theorem claimant?_eq_none {start : Nat} (unclaimed : claimant? failure start retriers = none) :
    claimantOf retriers failure = none := by
  induction retriers generalizing start with
  | nil => rfl
  | cons retrier rest ih =>
      rw [claimant?] at unclaimed
      split at unclaimed
      case isTrue => cases unclaimed
      case isFalse passed =>
        rw [claimantOf, List.findIdx?_cons, if_neg passed]
        exact Option.map_eq_none_iff.mpr (ih unclaimed)

theorem claimant?_eq_some {start place : Nat} {retrier : Retrier}
    (claimed : claimant? failure start retriers = some (place, retrier)) :
    ∃ index, place = start + index ∧ claimantOf retriers failure = some index ∧
      retriers[index]? = some retrier := by
  induction retriers generalizing start with
  | nil => cases claimed
  | cons first rest ih =>
      rw [claimant?] at claimed
      split at claimed
      case isTrue claims =>
        cases claimed
        refine ⟨0, rfl, ?_, rfl⟩
        rw [claimantOf, List.findIdx?_cons, if_pos claims]
      case isFalse passed =>
        rcases ih claimed with ⟨index, same, isFirst, found⟩
        refine ⟨index + 1, by omega, ?_, found⟩
        rw [claimantOf, List.findIdx?_cons, if_neg passed]
        exact Option.map_eq_some_iff.mpr ⟨index, isFirst, rfl⟩

/-- The plan of a retry names the first retrier that claims the failure, and lets it retry as long
as it has retries left. -/
theorem Plans.means (plans : Plans retriers counts failure plan) :
    plan.retrier = claimantOf retriers failure ∧
      (plan.wouldRetry = true ↔ HasSpare retriers counts failure) := by
  rcases plans with ⟨source, rfl⟩
  cases claimed : claimant? failure 0 retriers with
  | none =>
      have unclaimed := claimant?_eq_none claimed
      simp only [planRetry, claimed, unclaimed, HasSpare]
      simp
  | some found =>
      rcases found with ⟨place, retrier⟩
      rcases claimant?_eq_some claimed with ⟨index, same, isFirst, isRetrier⟩
      have here : place = index := by omega
      subst here
      simp only [planRetry, claimed, isFirst, HasSpare]
      rcases retrier.delay (counts.getD place 0) source with ⟨delay, later⟩
      simp [isRetrier]

end Plans

/-- A request between two attempts. -/
def Request.Pausing : Request → Prop
  | .retry _ => True
  | .sleep _ => True
  | _ => False

namespace Engine

variable {α : Type}

theorem eq_failed_of_failureOf? {result : Except Fault α} {failure : Failure}
    (failed : failureOf? result = some failure) : result = .error (.failed failure) := by
  match result with
  | .ok value => cases failed
  | .error (.failed other) =>
      cases failed
      rfl
  | .error (.malformed _) => cases failed
  | .error (.unknownResource _) => cases failed
  | .error (.noBatching _) => cases failed
  | .error (.tooManyTransitions _) => cases failed
  | .error .crashed => cases failed

/-! ## Attempts in a row -/

/-- An attempt, and what is asked after it. -/
structure Effort (α : Type) where
  /-- How often each retrier has fired before. -/
  counts : List Nat
  retries : Nat
  tried : History
  after : Process (Except Fault α)
  pause : History

def Effort.history (effort : Effort α) : History := effort.tried ++ effort.pause

def offer (state : String) (failure : Failure) (plan : RetryPlan) (again : Bool) : History :=
  [([], .drew), ([], .asked (.retry { state, failure, plan }) again)]

/-- To ask whether to retry, and to wait before the retry. -/
def granted (state : String) (failure : Failure) (plan : RetryPlan) : History :=
  offer state failure plan true ++ [([], .asked (.sleep (pauseOf plan)) ())]

theorem offer_pausing (state : String) (failure : Failure) (plan : RetryPlan) (again : Bool) :
    ∀ exchange ∈ (offer state failure plan again).exchanges, exchange.1.Pausing := by
  intro exchange isExchange
  cases List.mem_singleton.mp isExchange
  trivial

theorem granted_pausing (state : String) (failure : Failure) (plan : RetryPlan) :
    ∀ exchange ∈ (granted state failure plan).exchanges, exchange.1.Pausing := by
  intro exchange isExchange
  rw [granted, History.exchanges_append] at isExchange
  rcases List.mem_append.mp isExchange with isOffer | isSleep
  · exact offer_pausing state failure plan true exchange isOffer
  · cases List.mem_singleton.mp isSleep
    trivial

/-- What a run of attempts in a row consists of, and what it has come to. The fuel is the number of
retries that may still be granted. -/
inductive Attempted (state : String) (retriers : List Retrier)
    (attempt : Nat → Program (Except Fault α)) :
    (fuel : Nat) → (counts : List Nat) → (retries : Nat) → List (Effort α) →
      Process (Except Fault α × Nat) → Prop where
  | trying {fuel retries : Nat} {counts : List Nat} {tried : History}
      {middle : Process (Except Fault α)} {after : Process (Except Fault α × Nat)}
      (run : Run (.alone (attempt retries)) tried middle) (unfinished : middle.Unfinished)
      (goesOn : after.Unfinished) :
      Attempted state retriers attempt fuel counts retries
        [⟨counts, retries, tried, middle, []⟩] after
  | settled {fuel retries : Nat} {counts : List Nat} {tried : History} {result : Except Fault α}
      (run : Run (.alone (attempt retries)) tried (.alone (.done result)))
      (unfailed : failureOf? result = none) :
      Attempted state retriers attempt fuel counts retries
        [⟨counts, retries, tried, .alone (.done result), []⟩] (.alone (.done (result, retries)))
  /-- An attempt failed, and the pause after it is under way. -/
  | pausing {fuel retries : Nat} {counts : List Nat} {tried pause : History} {failure : Failure}
      {plan : RetryPlan} {after : Process (Except Fault α × Nat)}
      (run : Run (.alone (attempt retries)) tried (.alone (.done (.error (.failed failure)))))
      (plans : Plans retriers counts failure plan) (part : pause <+: offer state failure plan true)
      (goesOn : after.Unfinished) :
      Attempted state retriers attempt fuel counts retries
        [⟨counts, retries, tried, .alone (.done (.error (.failed failure))), pause⟩] after
  | declined {fuel retries : Nat} {counts : List Nat} {tried : History} {failure : Failure}
      {plan : RetryPlan} {again : Bool}
      (run : Run (.alone (attempt retries)) tried (.alone (.done (.error (.failed failure)))))
      (plans : Plans retriers counts failure plan) (exhausted : again = true → fuel = 0) :
      Attempted state retriers attempt fuel counts retries
        [⟨counts, retries, tried, .alone (.done (.error (.failed failure))),
          offer state failure plan again⟩]
        (.alone (.done (.error (.failed failure), retries)))
  | again {fuel retries : Nat} {counts : List Nat} {tried : History} {failure : Failure}
      {plan : RetryPlan} {efforts : List (Effort α)} {after : Process (Except Fault α × Nat)}
      (run : Run (.alone (attempt retries)) tried (.alone (.done (.error (.failed failure)))))
      (plans : Plans retriers counts failure plan)
      (further : Attempted state retriers attempt fuel (countRetry counts plan.retrier)
        (retries + 1) efforts after) :
      Attempted state retriers attempt (fuel + 1) counts retries
        (⟨counts, retries, tried, .alone (.done (.error (.failed failure))),
          granted state failure plan⟩ :: efforts) after

section Attempted

variable {state : String} {retriers : List Retrier} {attempt : Nat → Program (Except Fault α)}
  {fuel retries : Nat} {counts : List Nat} {failure : Failure}

/-- A run that asks whether to retry is a part of an offer, or an offer that is answered. -/
theorem askRetry_inv {history : History} {after : Process (Option RetryPlan)}
    (run : Run (.alone (askRetry state retriers counts failure)) history after) :
    ∃ plan, Plans retriers counts failure plan ∧
      (history <+: offer state failure plan true ∧ after.Unfinished ∨
        ∃ again, history = offer state failure plan again ∧
          after = .alone (.done (if again then some plan else none))) := by
  rcases run.draw_inv with ⟨nothing, unfinished⟩ | ⟨source, later, split, run⟩
  · exact ⟨_, ⟨default, rfl⟩, Or.inl ⟨nothing ▸ List.nil_prefix, unfinished⟩⟩
  refine ⟨_, ⟨source, rfl⟩, ?_⟩
  rcases run.ask_inv with ⟨nothing, unfinished⟩ | ⟨again, rest, splitLater, run⟩
  · rw [split, nothing]
    exact Or.inl ⟨⟨[_], rfl⟩, unfinished⟩
  · rcases run.done_inv with ⟨nothing, same⟩
    rw [split, splitLater, nothing]
    exact Or.inr ⟨again, rfl, same⟩

/-- A run of attempts in a row falls into efforts. -/
theorem retrying_attempted {history : History} {after : Process (Except Fault α × Nat)}
    (run : Run (.alone (retrying state retriers attempt fuel counts retries)) history after) :
    ∃ efforts, history = efforts.flatMap Effort.history ∧
      Attempted state retriers attempt fuel counts retries efforts after := by
  -- `retrying` opens one attempt at a time, and the fuel goes down with every retry granted.
  induction fuel using Nat.strongRecOn generalizing counts retries history with
  | ind fuel ih =>
      rw [retrying_eq] at run
      rcases run.bind_inv with ⟨middle, unfinished, tries, same⟩ |
        ⟨tried, later, result, split, tries, run⟩
      · refine ⟨_, ?_, .trying tries unfinished (same ▸ unfinished.bind _)⟩
        simp [Effort.history]
      cases failed : failureOf? result with
      | none =>
          rw [failed] at run
          rcases run.done_inv with ⟨nothing, same⟩
          rw [same]
          refine ⟨_, ?_, .settled tries failed⟩
          simp [Effort.history, split, nothing]
      | some failure =>
          rw [failed] at run
          rw [eq_failed_of_failureOf? failed] at tries run
          rcases run.bind_inv with ⟨middle, unfinished, asks, same⟩ |
            ⟨asked, further, answer, splitLater, asks, run⟩
          · rcases askRetry_inv asks with ⟨plan, plans, ⟨part, _⟩ | ⟨again, _, ended⟩⟩
            · refine ⟨_, ?_, .pausing tries plans part (same ▸ unfinished.bind _)⟩
              simp [Effort.history, split]
            · exact absurd ended (unfinished _)
          rcases askRetry_inv asks with ⟨plan, plans, ⟨_, unfinished⟩ | ⟨again, isOffer, ended⟩⟩
          · exact absurd rfl (unfinished _)
          cases ended
          -- A refusal and the end of the fuel both leave the failure as it is.
          have givesUp : (again = true → fuel = 0) →
              Run (.alone (.done (.error (.failed failure), retries))) further after →
              ∃ efforts, history = efforts.flatMap Effort.history ∧
                Attempted state retriers attempt fuel counts retries efforts after := by
            intro exhausted run
            rcases run.done_inv with ⟨nothing, same⟩
            rw [same]
            refine ⟨_, ?_, .declined tries plans exhausted⟩
            simp [Effort.history, split, splitLater, isOffer, nothing]
          cases fuel with
          | zero => exact givesUp (fun _ => rfl) run
          | succ fuel =>
              cases again with
              | false => exact givesUp (fun granted => nomatch granted) run
              | true =>
                  rcases run.ask_inv with ⟨nothing, unfinished⟩ | ⟨_, rest, splitFurther, run⟩
                  · refine ⟨_, ?_, .pausing tries plans (List.prefix_refl _) unfinished⟩
                    simp [Effort.history, split, splitLater, isOffer, nothing]
                  · rcases ih fuel (Nat.lt_succ_self fuel) run with ⟨efforts, whole, attempted⟩
                    refine ⟨_, ?_, .again tries plans attempted⟩
                    simp [Effort.history, split, splitLater, splitFurther, isOffer, whole, granted]

end Attempted

/-! ## One effort among others -/

/-- What one of several efforts can be. All but the last one are retried. -/
inductive Effort.Among (state : String) (retriers : List Retrier) (efforts : List (Effort α))
    (after : Process (Except Fault α × Nat)) (effort : Effort α) : Prop where
  | trying (isLast : efforts.getLast? = some effort) (unfinished : effort.after.Unfinished)
      (unpaused : effort.pause = []) (goesOn : after.Unfinished)
  | settled {result : Except Fault α} (isLast : efforts.getLast? = some effort)
      (ended : effort.after = .alone (.done result)) (unfailed : failureOf? result = none)
      (unpaused : effort.pause = []) (same : after = .alone (.done (result, effort.retries)))
  | pausing {failure : Failure} {plan : RetryPlan} (isLast : efforts.getLast? = some effort)
      (failed : effort.after = .alone (.done (.error (.failed failure))))
      (plans : Plans retriers effort.counts failure plan)
      (part : effort.pause <+: offer state failure plan true) (goesOn : after.Unfinished)
  | declined {failure : Failure} {plan : RetryPlan} {again : Bool}
      (isLast : efforts.getLast? = some effort)
      (failed : effort.after = .alone (.done (.error (.failed failure))))
      (plans : Plans retriers effort.counts failure plan)
      (offered : effort.pause = offer state failure plan again)
      (same : after = .alone (.done (.error (.failed failure), effort.retries)))
  | retried {failure : Failure} {plan : RetryPlan}
      (failed : effort.after = .alone (.done (.error (.failed failure))))
      (plans : Plans retriers effort.counts failure plan)
      (granted : effort.pause = granted state failure plan)

theorem Effort.Among.cons {state : String} {retriers : List Retrier} {efforts : List (Effort α)}
    {after : Process (Except Fault α × Nat)} {effort : Effort α}
    (among : effort.Among state retriers efforts after) (first : Effort α) :
    effort.Among state retriers (first :: efforts) after := by
  have later : efforts.getLast? = some effort → (first :: efforts).getLast? = some effort := by
    intro isLast
    rw [List.getLast?_cons, isLast]
    rfl
  cases among with
  | trying isLast unfinished unpaused goesOn =>
      exact .trying (later isLast) unfinished unpaused goesOn
  | settled isLast ended unfailed unpaused same =>
      exact .settled (later isLast) ended unfailed unpaused same
  | pausing isLast failed plans part goesOn =>
      exact .pausing (later isLast) failed plans part goesOn
  | declined isLast failed plans offered same =>
      exact .declined (later isLast) failed plans offered same
  | retried failed plans granted => exact .retried failed plans granted

/-- Between two attempts it is asked whether to retry, and waited. -/
theorem Effort.Among.pausing_exchanges {state : String} {retriers : List Retrier}
    {efforts : List (Effort α)} {after : Process (Except Fault α × Nat)} {effort : Effort α}
    (among : effort.Among state retriers efforts after) :
    ∀ exchange ∈ effort.pause.exchanges, exchange.1.Pausing := by
  intro exchange isExchange
  cases among with
  | trying _ _ unpaused => simp [unpaused] at isExchange
  | settled _ _ _ unpaused => simp [unpaused] at isExchange
  | pausing _ _ _ part =>
      exact offer_pausing _ _ _ _ exchange ((part.filterMap _).subset isExchange)
  | declined _ _ _ offered => exact offer_pausing _ _ _ _ exchange (offered ▸ isExchange)
  | retried _ _ isGranted => exact granted_pausing _ _ _ exchange (isGranted ▸ isExchange)

/-- Each of the attempts in a row is a run of the attempt, and what comes after it fits that. -/
theorem Attempted.among {state : String} {retriers : List Retrier}
    {attempt : Nat → Program (Except Fault α)} {fuel retries : Nat} {counts : List Nat}
    {efforts : List (Effort α)} {after : Process (Except Fault α × Nat)}
    (attempted : Attempted state retriers attempt fuel counts retries efforts after)
    {effort : Effort α} (isEffort : effort ∈ efforts) :
    Run (.alone (attempt effort.retries)) effort.tried effort.after ∧
      effort.Among state retriers efforts after := by
  induction attempted with
  | trying run unfinished goesOn =>
      cases List.mem_singleton.mp isEffort
      exact ⟨run, .trying rfl unfinished rfl goesOn⟩
  | settled run unfailed =>
      cases List.mem_singleton.mp isEffort
      exact ⟨run, .settled rfl rfl unfailed rfl rfl⟩
  | pausing run plans part goesOn =>
      cases List.mem_singleton.mp isEffort
      exact ⟨run, .pausing rfl rfl plans part goesOn⟩
  | declined run plans exhausted =>
      cases List.mem_singleton.mp isEffort
      exact ⟨run, .declined rfl rfl plans rfl rfl⟩
  | again run plans further ih =>
      rcases List.mem_cons.mp isEffort with same | isLater
      · cases same
        exact ⟨run, .retried rfl plans rfl⟩
      · rcases ih isLater with ⟨run, among⟩
        exact ⟨run, among.cons _⟩

theorem Attempted.result {state : String} {retriers : List Retrier}
    {attempt : Nat → Program (Except Fault α)} {fuel retries : Nat} {counts : List Nat}
    {efforts : List (Effort α)} {result : Except Fault α} {count : Nat}
    (attempted : Attempted state retriers attempt fuel counts retries efforts
      (.alone (.done (result, count)))) :
    ∃ last, efforts.getLast? = some last ∧ last.after = .alone (.done result) ∧
      last.retries = count := by
  generalize ended : Process.alone (.done (result, count)) = after at attempted
  induction attempted with
  | trying run unfinished goesOn => exact absurd ended.symm (goesOn _)
  | settled =>
      cases ended
      exact ⟨_, rfl, rfl, rfl⟩
  | pausing run plans part goesOn => exact absurd ended.symm (goesOn _)
  | declined =>
      cases ended
      exact ⟨_, rfl, rfl, rfl⟩
  | again run plans further ih =>
      rcases ih ended with ⟨last, isLast, same, count⟩
      refine ⟨last, ?_, same, count⟩
      rw [List.getLast?_cons, isLast]
      rfl

end Engine

end Workflow
