import Mathlib.Algebra.GroupWithZero.Nat
import Mathlib.Data.List.Forall2
import Workflow.Proofs.Stays

/-!
# Counters

Where every question whether to retry is answered as the retriers plan it, the counters tell how
often there was a retry, and no retrier fires more often than it allows. This is an invariant of
attempts in a row: one retry keeps it, so every attempt begins with it, however the attempts fail.
A failure is then retried exactly as long as the first retrier that claims it has retries left, and
the attempts are few.
-/

namespace Workflow

/-! ## Answers as planned -/

def Exchange.AsPlanned : Exchange → Prop
  | ⟨.retry report, again⟩ => again = report.plan.wouldRetry
  | _ => True

/-- Every question whether to retry that the task of a history itself asks is answered as
planned. -/
def History.AsPlanned (history : History) : Prop :=
  ∀ exchange ∈ history.exchanges, exchange.AsPlanned

namespace History.AsPlanned

variable {earlier later : History}

theorem left (planned : History.AsPlanned (earlier ++ later)) : earlier.AsPlanned := by
  intro exchange isExchange
  apply planned exchange
  rw [History.exchanges_append]
  exact List.mem_append_left _ isExchange

theorem right (planned : History.AsPlanned (earlier ++ later)) : later.AsPlanned := by
  intro exchange isExchange
  apply planned exchange
  rw [History.exchanges_append]
  exact List.mem_append_right _ isExchange

end History.AsPlanned

namespace Engine

variable {α : Type}

theorem again_of_offer {state : String} {failure : Failure} {plan : RetryPlan} {again : Bool}
    (planned : (offer state failure plan again).AsPlanned) : again = plan.wouldRetry :=
  planned ⟨.retry { state, failure, plan }, again⟩ List.mem_cons_self

/-- A retry that is granted as planned is one that the first claimant has left. -/
theorem spare_of_granted {state : String} {retriers : List Retrier} {counts : List Nat}
    {failure : Failure} {plan : RetryPlan} (plans : Plans retriers counts failure plan)
    (planned : (granted state failure plan).AsPlanned) :
    plan.retrier = claimantOf retriers failure ∧ HasSpare retriers counts failure :=
  ⟨plans.means.1, plans.means.2.mp (again_of_offer planned.left).symm⟩

/-! ## Counters within their bounds -/

abbrev Within (counts : List Nat) (retriers : List Retrier) : Prop :=
  List.Forall₂ (fun count retrier => count ≤ retrier.attempts) counts retriers

def allowance (retriers : List Retrier) : Nat := (retriers.map Retrier.attempts).sum

section Within

variable {counts : List Nat} {retriers : List Retrier}

theorem within_zero (retriers : List Retrier) : Within (retriers.map fun _ => 0) retriers := by
  induction retriers with
  | nil => exact .nil
  | cons retrier rest ih => exact .cons (Nat.zero_le _) ih

theorem Within.sum_le (within : Within counts retriers) : counts.sum ≤ allowance retriers := by
  induction within with
  | nil => exact Nat.le_refl _
  | cons fits _ ih =>
      simp only [allowance, List.map_cons, List.sum_cons] at ih ⊢
      omega

theorem Within.modify (within : Within counts retriers) {place : Nat} {retrier : Retrier}
    (found : retriers[place]? = some retrier) (spare : counts.getD place 0 < retrier.attempts) :
    Within (counts.modify place (· + 1)) retriers ∧
      (counts.modify place (· + 1)).sum = counts.sum + 1 := by
  induction within generalizing place with
  | nil => cases found
  | @cons count first counts rest fits within ih =>
      cases place with
      | zero =>
          cases found
          refine ⟨.cons spare within, ?_⟩
          simp only [List.modify_zero_cons, List.sum_cons]
          omega
      | succ place =>
          have spare : counts.getD place 0 < retrier.attempts := by simpa using spare
          rcases ih (by simpa using found) spare with ⟨kept, sum⟩
          refine ⟨.cons fits kept, ?_⟩
          simp only [List.modify_succ_cons, List.sum_cons, sum]
          omega

end Within

/-! ## The invariant -/

/-- What holds of the counters before an attempt. What may still be granted is enough for what the
retriers allow. -/
structure Counted (retriers : List Retrier) (fuel : Nat) (counts : List Nat) (retries : Nat) :
    Prop where
  within : Within counts retriers
  sum : counts.sum = retries
  enough : allowance retriers ≤ fuel + retries

theorem counted_zero (shared : Shared) (retriers : List Retrier) :
    Counted retriers (shared.patience retriers) (retriers.map fun _ => 0) 0 := by
  refine ⟨within_zero retriers, by simp, ?_⟩
  rw [Nat.add_zero, Shared.patience, allowance]
  induction retriers with
  | nil => exact Nat.zero_le _
  | cons retrier rest ih =>
      simp only [List.map_cons, List.sum_cons, List.foldr_cons]
      omega

section Counted

variable {retriers : List Retrier} {fuel retries : Nat} {counts : List Nat} {failure : Failure}

theorem Counted.count (counted : Counted retriers fuel counts retries)
    (spare : HasSpare retriers counts failure) :
    Within (countRetry counts (claimantOf retriers failure)) retriers ∧
      (countRetry counts (claimantOf retriers failure)).sum = retries + 1 := by
  rcases spare with ⟨place, retrier, isFirst, found, spare⟩
  rw [isFirst, countRetry, ← counted.sum]
  exact counted.within.modify found spare

/-- As long as a retrier has retries left, a retry can be granted. -/
theorem Counted.fuel_pos (counted : Counted retriers fuel counts retries)
    (spare : HasSpare retriers counts failure) : 0 < fuel := by
  rcases counted.count spare with ⟨within, sum⟩
  have bound := within.sum_le
  have enough := counted.enough
  omega

/-- One retry keeps the invariant. -/
theorem Counted.again (counted : Counted retriers (fuel + 1) counts retries)
    (spare : HasSpare retriers counts failure) :
    Counted retriers fuel (countRetry counts (claimantOf retriers failure)) (retries + 1) := by
  rcases counted.count spare with ⟨within, sum⟩
  have enough := counted.enough
  exact ⟨within, sum, by omega⟩

end Counted

/-! ## Efforts as planned -/

section Planned

variable {state : String} {retriers : List Retrier} {attempt : Nat → Program (Except Fault α)}
  {fuel retries : Nat} {counts : List Nat} {efforts : List (Effort α)}
  {after : Process (Except Fault α × Nat)}

def Planned (efforts : List (Effort α)) : Prop := ∀ effort ∈ efforts, effort.pause.AsPlanned

theorem planned_of_asPlanned (planned : History.AsPlanned (efforts.flatMap Effort.history)) :
    Planned efforts := by
  induction efforts with
  | nil => exact fun _ isEffort => nomatch isEffort
  | cons first rest ih =>
      rw [List.flatMap_cons] at planned
      intro effort isEffort
      rcases List.mem_cons.mp isEffort with same | isRest
      · rw [same]
        exact planned.left.right
      · exact ih planned.right effort isRest

theorem Attempted.head (attempted : Attempted state retriers attempt fuel counts retries efforts
    after) :
    ∃ effort rest, efforts = effort :: rest ∧ effort.counts = counts ∧ effort.retries = retries ∧
      Run (.alone (attempt retries)) effort.tried effort.after := by
  cases attempted with
  | trying run => exact ⟨_, _, rfl, rfl, rfl, run⟩
  | settled run => exact ⟨_, _, rfl, rfl, rfl, run⟩
  | pausing run => exact ⟨_, _, rfl, rfl, rfl, run⟩
  | declined run => exact ⟨_, _, rfl, rfl, rfl, run⟩
  | again run => exact ⟨_, _, rfl, rfl, rfl, run⟩

theorem Planned.tail {first : Effort α} {rest : List (Effort α)}
    (planned : Planned (first :: rest)) : Planned rest :=
  fun effort isLater => planned effort (List.mem_cons_of_mem _ isLater)

/-- Before every attempt the counters are within their bounds, and add up to the retries. -/
theorem Attempted.begun
    (attempted : Attempted state retriers attempt fuel counts retries efforts after)
    (planned : Planned efforts) (counted : Counted retriers fuel counts retries) {index : Nat}
    {effort : Effort α} (found : efforts[index]? = some effort) :
    effort.retries = retries + index ∧ Within effort.counts retriers ∧
      effort.counts.sum = retries + index ∧
      Run (.alone (attempt (retries + index))) effort.tried effort.after := by
  induction index generalizing fuel counts retries efforts with
  | zero =>
      rcases attempted.head with ⟨first, rest, split, sameCounts, sameRetries, run⟩
      rw [split] at found
      cases found
      rw [sameCounts]
      exact ⟨sameRetries, counted.within, counted.sum, run⟩
  | succ index ih =>
      cases attempted with
      | trying => cases found
      | settled => cases found
      | pausing => cases found
      | declined => cases found
      | @again _ _ _ _ failure plan _ _ run plans further =>
          rcases spare_of_granted plans (planned _ List.mem_cons_self) with ⟨isFirst, spare⟩
          rw [isFirst] at further
          have shift : retries + (index + 1) = retries + 1 + index := by omega
          rw [shift]
          exact ih further planned.tail (counted.again spare) found

/-- There are no more attempts than the retriers allow. -/
theorem Attempted.length_le
    (attempted : Attempted state retriers attempt fuel counts retries efforts after)
    (planned : Planned efforts) (counted : Counted retriers fuel counts retries) :
    efforts.length + retries ≤ 1 + allowance retriers := by
  rcases attempted.head with ⟨first, rest, split, _⟩
  have nonempty : efforts.length = rest.length + 1 := by rw [split, List.length_cons]
  have inside : rest.length < efforts.length := by omega
  -- What the counters add up to before the last attempt is within what the retriers allow.
  rcases attempted.begun planned counted (List.getElem?_eq_getElem inside) with
    ⟨_, within, sum, _⟩
  have bound := within.sum_le
  omega

/-- What is retried is a failure whose first claimant has retries left, and that one is counted. -/
theorem Attempted.retried
    (attempted : Attempted state retriers attempt fuel counts retries efforts after)
    (planned : Planned efforts) {index : Nat} {effort next : Effort α}
    (found : efforts[index]? = some effort) (isNext : efforts[index + 1]? = some next) :
    ∃ failure, effort.after = .alone (.done (.error (.failed failure))) ∧
      HasSpare retriers effort.counts failure ∧
      next.counts = countRetry effort.counts (claimantOf retriers failure) := by
  induction attempted generalizing index with
  | trying => cases isNext
  | settled => cases isNext
  | pausing => cases isNext
  | declined => cases isNext
  | @again _ _ _ _ failure plan _ _ run plans further ih =>
      cases index with
      | zero =>
          cases found
          rcases spare_of_granted plans (planned _ List.mem_cons_self) with ⟨isFirst, spare⟩
          rcases further.head with ⟨first, later, same, sameCounts, _⟩
          rw [same] at isNext
          cases isNext
          exact ⟨failure, rfl, spare, by rw [sameCounts, isFirst]⟩
      | succ index => exact ih planned.tail found isNext

/-- A failure that is not retried is one whose first claimant has no retries left, unless the run
has not got that far. -/
theorem Attempted.given
    (attempted : Attempted state retriers attempt fuel counts retries efforts after)
    (planned : Planned efforts) (counted : Counted retriers fuel counts retries)
    {last : Effort α} (isLast : efforts.getLast? = some last) {failure : Failure}
    (failed : last.after = .alone (.done (.error (.failed failure)))) :
    ¬ HasSpare retriers last.counts failure ∨ after.Unfinished := by
  induction attempted with
  | trying run unfinished =>
      cases isLast
      exact absurd failed (unfinished _)
  | settled run unfailed =>
      cases isLast
      cases failed
      cases unfailed
  | pausing run plans part goesOn => exact Or.inr goesOn
  | declined run plans exhausted =>
      cases isLast
      cases failed
      refine Or.inl fun spare => ?_
      have asked := again_of_offer (planned _ List.mem_cons_self)
      have noFuel := exhausted (asked.trans (plans.means.2.mpr spare))
      have fuel := counted.fuel_pos spare
      omega
  | again run plans further ih =>
      rcases spare_of_granted plans (planned _ List.mem_cons_self) with ⟨isFirst, spare⟩
      rw [isFirst] at ih
      rcases further.head with ⟨_, _, same, _⟩
      rw [same, List.getLast?_cons_cons, ← same] at isLast
      exact ih planned.tail (counted.again spare) isLast

end Planned

end Engine

end Workflow
