import Mathlib.Logic.Hydra
import Workflow.Proofs.Interleaving

/-!
# Termination

No process runs for ever, whatever is answered and however its tasks are interleaved: a step of a
member replaces it by something smaller, and members only ever leave their group. Nor is a process
ever stuck, and to go on it needs no crash. So every run can be continued to its end, and is
continued to its end if it is continued as long as that is possible.
-/

namespace Workflow

/-- A step that leads from one process to another. -/
def Process.Leads {α : Type} (after before : Process α) : Prop := ∃ mark, Step before mark after

section Groups

/-- The members that are left of a group. -/
def membersOf (left : List Nat) (member : Nat → Process Outcome) : Multiset (Process Outcome) :=
  Multiset.ofList (left.map member)

/-- A step from a process that cannot go on for ever. -/
def Descends (after before : Process Outcome) : Prop :=
  Acc Process.Leads before ∧ after.Leads before

theorem descends_wellFounded : WellFounded Descends := by
  constructor
  intro process
  by_cases accessible : Acc Process.Leads process
  · exact Subrelation.accessible (fun descends => descends.2) accessible
  · exact ⟨process, fun _ descends => absurd descends.1 accessible⟩

theorem membersOf_cons {left : List Nat} (member : Nat → Process Outcome) {place : Nat}
    (isLeft : place ∈ left) :
    membersOf left member = membersOf (left.erase place) member + {member place} := by
  have perm := (List.perm_cons_erase isLeft).map member
  rw [membersOf, Multiset.coe_eq_coe.mpr perm, List.map_cons, ← Multiset.cons_coe,
    add_comm, Multiset.singleton_add]
  rfl

theorem membersOf_update {left : List Nat} (member : Nat → Process Outcome) {place : Nat}
    (process : Process Outcome) (gone : place ∉ left) :
    membersOf left (Function.update member place process) = membersOf left member := by
  have same : left.map (Function.update member place process) = left.map member := by
    apply List.map_congr_left
    intro other isLeft
    have differs : other ≠ place := by
      rintro rfl
      exact gone isLeft
    exact Function.update_of_ne differs process member
  rw [membersOf, same]
  rfl

theorem membersOf_erase_descends {left : List Nat} (member : Nat → Process Outcome) {place : Nat}
    (isLeft : place ∈ left) :
    Relation.CutExpand Descends (membersOf (left.erase place) member)
      (membersOf left member) := by
  refine ⟨0, member place, by simp, ?_⟩
  rw [add_zero, membersOf_cons member isLeft]

theorem membersOf_update_descends {left : List Nat} (nodup : left.Nodup)
    (member : Nat → Process Outcome) {place : Nat} (isLeft : place ∈ left)
    {process : Process Outcome} (descends : Descends process (member place)) :
    Relation.CutExpand Descends (membersOf left (Function.update member place process))
      (membersOf left member) := by
  refine ⟨{process}, member place, by simpa using descends, ?_⟩
  rw [membersOf_cons member isLeft, membersOf_cons _ isLeft,
    membersOf_update member process nodup.not_mem_erase, Function.update_self]
  exact add_right_comm _ _ _

end Groups

/-- A group ends when its members do, whatever its tally then is. -/
theorem group_accessible {α σ : Type} {absorb : σ → Nat → Completion → Progress σ}
    {next : σ → Program α} (resumes : ∀ tally, Acc Process.Leads (.alone (next tally)))
    {left : List Nat} (nodup : left.Nodup) {member : Nat → Process Outcome}
    (members : ∀ place ∈ left, Acc Process.Leads (member place)) (stopping : Bool) (tally : σ) :
    Acc Process.Leads (.group left member stopping tally absorb next) := by
  have : Std.Irrefl Descends := descends_wellFounded.irrefl
  have smaller := descends_wellFounded.cutExpand.apply (membersOf left member)
  generalize bound : membersOf left member = members at smaller
  induction smaller generalizing left member stopping tally with
  | intro current _ ih =>
      subst bound
      refine ⟨_, ?_⟩
      rintro after ⟨mark, step⟩
      cases step with
      | @member _ _ _ _ _ _ _ _ place _ _ process isLeft step =>
          have descends : Descends process (member place) := ⟨members place isLeft, _, step⟩
          refine ih _ (membersOf_update_descends nodup member isLeft descends) nodup ?_ _ _ rfl
          intro other otherIsLeft
          by_cases same : other = place
          · subst same
            rw [Function.update_self]
            exact (members other isLeft).inv ⟨_, step⟩
          · rw [Function.update_of_ne same]
            exact members other otherIsLeft
      | absorb isLeft completes =>
          exact ih _ (membersOf_erase_descends member isLeft) (nodup.erase _)
            (fun other isLeft => members other (List.mem_of_mem_erase isLeft)) _ _ rfl
      | drop isLeft =>
          exact ih _ (membersOf_erase_descends member isLeft) (nodup.erase _)
            (fun other isLeft => members other (List.mem_of_mem_erase isLeft)) _ _ rfl
      | resume => exact resumes tally

/-- No program runs for ever. -/
theorem Program.terminates {α : Type} (program : Program α) :
    Acc Process.Leads (.alone program) := by
  induction program with
  | done value =>
      refine ⟨_, ?_⟩
      rintro after ⟨mark, step⟩
      cases step
  | ask request next ih =>
      refine ⟨_, ?_⟩
      rintro after ⟨mark, step⟩
      cases step with
      | ask request next answer => exact ih answer
  | draw drawn next ih =>
      refine ⟨_, ?_⟩
      rintro after ⟨mark, step⟩
      cases step with
      | draw drawn next source => exact ih _
  | gather count member start absorb next ihMember ihNext =>
      refine ⟨_, ?_⟩
      rintro after ⟨mark, step⟩
      cases step with
      | gather =>
          exact group_accessible ihNext List.nodup_range (fun place _ => ihMember place) _ _

theorem Run.accessible {α : Type} {first second : Process α} {history : History}
    (run : Run first history second) (accessible : Acc Process.Leads first) :
    Acc Process.Leads second :=
  run.preserves (fun step before => before.inv ⟨_, step⟩) accessible

/-! ## Progress -/

/-- A step that is no crash. -/
def Mark.Calm (mark : Mark) : Prop := ∀ place, mark ≠ .absorbed place .crashed

/-- No task crashes, at any depth. -/
def History.Calm (history : History) : Prop := ∀ entry ∈ history, entry.2.Calm

theorem History.calm_nil : History.Calm [] :=
  fun _ isEntry => nomatch isEntry

theorem History.Calm.append {history : History} (calm : history.Calm) {entry : List Nat × Mark}
    (last : entry.2.Calm) : (history ++ [entry]).Calm := by
  intro other isEntry
  rcases List.mem_append.mp isEntry with isOld | isLast
  · exact calm other isOld
  · rw [List.mem_singleton.mp isLast]
    exact last

instance (request : Request) : Nonempty request.Answer := by
  cases request <;> exact ⟨default⟩

/-- What has not ended can go on without a crash. -/
theorem Process.progress {α : Type} (process : Process α) :
    (∃ value, process = .alone (.done value)) ∨
      ∃ path mark after, Step process (path, mark) after ∧ mark.Calm := by
  induction process with
  | alone program =>
      cases program with
      | done value => exact Or.inl ⟨value, rfl⟩
      | ask request next =>
          have answer : request.Answer := Classical.choice inferInstance
          exact Or.inr ⟨_, _, _, .ask request next answer, nofun⟩
      | draw drawn next => exact Or.inr ⟨_, _, _, .draw drawn next default, nofun⟩
      | gather count member start absorb next =>
          exact Or.inr ⟨_, _, _, .gather count member start absorb next, nofun⟩
  | group left member stopping tally absorb next ih =>
      right
      cases left with
      | nil => exact ⟨_, _, _, .resume member stopping tally absorb next, nofun⟩
      | cons place rest =>
          have isLeft : place ∈ place :: rest := List.mem_cons_self
          cases stopping with
          | true => exact ⟨_, _, _, .drop isLeft, nofun⟩
          | false =>
              rcases ih place with ⟨outcome, ended⟩ | ⟨path, mark, after, step, calm⟩
              · have completes : Completion.Of (.finished outcome) (member place) :=
                  ended ▸ .finished outcome
                exact ⟨_, _, _, .absorb isLeft completes, fun _ same => nomatch same⟩
              · exact ⟨_, _, _, .member isLeft step, calm⟩

/-- What can always go on in some way can be run to its end in that way. -/
theorem Process.ends_with {α : Type} {way : List Nat × Mark → Prop}
    (progress : ∀ process : Process α, (∃ value, process = .alone (.done value)) ∨
      ∃ entry after, Step process entry after ∧ way entry)
    {process : Process α} (accessible : Acc Process.Leads process) :
    ∃ history value, Run process history (.alone (.done value)) ∧ ∀ entry ∈ history, way entry := by
  induction accessible with
  | intro process _ ih =>
      rcases progress process with ⟨value, rfl⟩ | ⟨entry, after, step, goes⟩
      · exact ⟨[], value, .refl _, fun _ isEntry => nomatch isEntry⟩
      · rcases ih after ⟨_, step⟩ with ⟨history, value, run, later⟩
        exact ⟨_, value, .step step run, List.forall_mem_cons.mpr ⟨goes, later⟩⟩

/-- Every process can be run to its end without a crash. -/
theorem Process.ends {α : Type} {process : Process α} (accessible : Acc Process.Leads process) :
    ∃ history value, Run process history (.alone (.done value)) ∧ history.Calm := by
  refine Process.ends_with (fun process => ?_) accessible
  rcases process.progress with ended | ⟨path, mark, after, step, calm⟩
  · exact Or.inl ended
  · exact Or.inr ⟨_, _, step, calm⟩

end Workflow
