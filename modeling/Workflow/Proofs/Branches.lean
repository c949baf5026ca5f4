import Workflow.Proofs.Assignments
import Workflow.Proofs.Conclusions
import Workflow.Proofs.Surrender

/-!
# Branches

The branches of a Parallel run side by side, and each is retried by counters of its own. What the
group is at is described by its members: as long as it goes on, those that were joined ended with
the outputs that stand at their places, and when it is stopped, the one that stopped it ended with
the fault that is blamed. Every step keeps this, so in whatever order the branches end, the state
ends as their outcomes say.
-/

namespace Workflow

/-! ## Runs of groups -/

theorem Run.gather_inv {α σ : Type} {count : Nat} {member : Nat → Program Outcome} {start : σ}
    {absorb : σ → Nat → Completion → Progress σ} {next : σ → Program α} {history : History}
    {after : Process α}
    (run : Run (.alone (.gather count member start absorb next)) history after) :
    history = [] ∧ after.Unfinished ∨
      ∃ later, history = ([], .gathered count member) :: later ∧
        Run (.group (List.range count) (fun place => .alone (member place)) false start absorb next)
          later after := by
  cases run with
  | refl => exact Or.inl ⟨rfl, fun value same => by cases same⟩
  | step step run =>
      cases step with
      | gather => exact Or.inr ⟨_, rfl, run⟩

namespace Engine

/-! ## The group -/

/-- What a tally of branches makes of a Parallel. -/
def BranchTally.outcome (tally : BranchTally) : Outcome :=
  match tally.fault with
  | some fault => .error fault
  | none => .ok (.array tally.outputs)

/-- What the members of a group of branches are at, and what its tally says of them. -/
structure Joined (count : Nat) (left : List Nat) (member : Nat → Process Outcome)
    (stopping : Bool) (tally : BranchTally) : Prop where
  length : tally.outputs.length = count
  goes : stopping = false → tally.fault = none
  joined : stopping = false → ∀ place < count, place ∉ left → ∃ output,
    member place = .alone (.done (.ok output)) ∧ tally.outputs[place]? = some output
  stopped : stopping = true → ∃ place < count, ∃ fault,
    member place = .alone (.done (.error fault)) ∧ tally.fault = some (branchFault place fault)
  inside : ∀ place ∈ left, place < count

section Joined

variable {count : Nat} {left : List Nat} {member : Nat → Process Outcome} {stopping : Bool}
  {tally : BranchTally}

/-- A member that goes on has not ended, so it was not joined. -/
theorem Joined.update {place : Nat} {path : List Nat} {mark : Mark} {process : Process Outcome}
    (joined : Joined count left member stopping tally)
    (step : Step (member place) (path, mark) process) :
    Joined count left (Function.update member place process) stopping tally := by
  have differs : ∀ {other outcome}, member other = .alone (.done outcome) → other ≠ place := by
    rintro other outcome ended rfl
    rw [ended] at step
    cases step
  refine ⟨joined.length, joined.goes, ?_, ?_, joined.inside⟩
  · intro goes other inside notLeft
    rcases joined.joined goes other inside notLeft with ⟨output, ended, found⟩
    exact ⟨output, by rw [Function.update_of_ne (differs ended), ended], found⟩
  · intro stops
    rcases joined.stopped stops with ⟨other, inside, fault, ended, blamed⟩
    exact ⟨other, inside, fault, by rw [Function.update_of_ne (differs ended), ended], blamed⟩

theorem Joined.absorb {state : String} {place : Nat} {completion : Completion}
    (joined : Joined count left member false tally) (isLeft : place ∈ left)
    (completes : completion.Of (member place)) (calm : completion ≠ .crashed) :
    Joined count (left.erase place) member (tally.absorb state place completion).stops
      (tally.absorb state place completion).tally := by
  have insideRest : ∀ other ∈ left.erase place, other < count :=
    fun other isRest => joined.inside other (List.mem_of_mem_erase isRest)
  have inside := joined.inside place isLeft
  match completion with
  | .crashed => exact absurd rfl calm
  | .finished (.error fault) =>
      rw [BranchTally.absorb_error]
      exact ⟨joined.length, fun goes => (nomatch goes), fun goes => (nomatch goes),
        fun _ => ⟨place, inside, fault, completes.eq_done, rfl⟩, insideRest⟩
  | .finished (.ok output) =>
      refine ⟨?_, joined.goes, ?_, fun stops => (nomatch stops), insideRest⟩
      · exact (List.length_set).trans joined.length
      · intro _ other otherInside notLeft
        by_cases same : other = place
        · subst same
          refine ⟨output, completes.eq_done, ?_⟩
          exact List.getElem?_set_self (joined.length ▸ otherInside)
        · have notBefore : other ∉ left := by
            rwa [List.mem_erase_of_ne same] at notLeft
          rcases joined.joined rfl other otherInside notBefore with ⟨found, ended, atPlace⟩
          refine ⟨found, ended, ?_⟩
          exact (List.getElem?_set_ne (Ne.symm same)).trans atPlace

theorem Joined.drop (joined : Joined count left member true tally) (place : Nat) :
    Joined count (left.erase place) member true tally :=
  ⟨joined.length, fun goes => (nomatch goes), fun goes => (nomatch goes), joined.stopped,
    fun other isRest => joined.inside other (List.mem_of_mem_erase isRest)⟩

end Joined

section Parallel

variable {shared : Shared} {visit : Visit} {branches : List Runner}

/-- What a branch comes to, by retry counters of its own that start at zero. -/
abbrev ComesTo (retriers : List Retrier) (outcomes : Nat → Outcome) (outcome : Outcome) : Prop :=
  Concludes retriers outcomes (retriers.map fun _ => 0) 0 outcome

/-- The result of a Parallel whose branches have outcomes for each of their attempts. -/
structure Verdict (retriers : List Retrier) (count : Nat) (outcomes : Nat → Nat → Outcome)
    (result : Outcome) : Prop where
  succeeds : (∃ output, result = .ok output) ↔
    ∀ place < count, ∃ output, ComesTo retriers (outcomes place) (.ok output)
  /-- The outputs stand in the order of the branches. -/
  outputs : ∀ output, result = .ok output → ∃ outputs, output = .array outputs ∧
    outputs.length = count ∧ ∀ place output, outputs[place]? = some output →
      ComesTo retriers (outcomes place) (.ok output)
  /-- The fault is the one that some branch came to, as it is or named for the branch. -/
  fault : ∀ fault, result = .error fault → ∃ place < count, ∃ own,
    ComesTo retriers (outcomes place) (.error own) ∧ fault = branchFault place own

theorem Joined.verdict {count : Nat} {members : Nat → Process Outcome} {stopping : Bool}
    {tally : BranchTally} {retriers : List Retrier} {outcomes : Nat → Nat → Outcome}
    (joined : Joined count [] members stopping tally)
    (comes : ∀ place < count, ∀ outcome, members place = .alone (.done outcome) →
      ComesTo retriers (outcomes place) outcome) :
    Verdict retriers count outcomes tally.outcome := by
  cases stopping with
  | true =>
      rcases joined.stopped rfl with ⟨place, inside, fault, ended, blamed⟩
      have fails := comes place inside _ ended
      have result : tally.outcome = .error (branchFault place fault) := by
        rw [BranchTally.outcome, blamed]
      rw [result]
      refine ⟨⟨?_, fun all => ?_⟩, ?_, ?_⟩
      · rintro ⟨output, same⟩
        cases same
      · rcases all place inside with ⟨output, succeeds⟩
        cases fails.unique succeeds
      · intro output same
        cases same
      · rintro _ ⟨⟩
        exact ⟨place, inside, fault, fails, rfl⟩
  | false =>
      have joinedAt : ∀ place < count, ∃ output, ComesTo retriers (outcomes place) (.ok output) ∧
          tally.outputs[place]? = some output := by
        intro place inside
        rcases joined.joined rfl place inside List.not_mem_nil with ⟨output, ended, found⟩
        exact ⟨output, comes place inside _ ended, found⟩
      have result : tally.outcome = .ok (.array tally.outputs) := by
        rw [BranchTally.outcome, joined.goes rfl]
      rw [result]
      refine ⟨⟨fun _ place inside => ?_, fun _ => ⟨_, rfl⟩⟩, ?_, ?_⟩
      · rcases joinedAt place inside with ⟨output, succeeds, _⟩
        exact ⟨output, succeeds⟩
      · rintro _ ⟨⟩
        refine ⟨tally.outputs, rfl, joined.length, fun place output found => ?_⟩
        have inside : place < count := joined.length ▸ (List.getElem?_eq_some_iff.mp found).1
        rcases joinedAt place inside with ⟨_, succeeds, same⟩
        cases same.symm.trans found
        exact succeeds
      · intro fault same
        cases same

end Parallel

end Engine

end Workflow
