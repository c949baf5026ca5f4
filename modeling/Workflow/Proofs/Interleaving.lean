import Mathlib.Logic.Function.Basic
import Workflow.Program

/-!
# Interleavings

A scheduler gives the tasks of a run their turns in one order. Here they are taken in any order: a
process is a program under way, a tree of tasks whose members belong to groups, and one step of it
is one step of any task of the tree. Requests are answered in any way, and any source of random
numbers may be drawn from. A member that has ended is taken in by the tally of its group at any
time; a member may crash before that. When a tally stops its group, members that are left are
dropped, each at any later time, until which they may still go on.

What is proved of all runs of a process holds whatever the host answers and however tasks are
interleaved.
-/

namespace Workflow

/-! ## Processes -/

/-- A program under way. -/
inductive Process : Type → Type 1 where
  /-- A program that waits for nobody. -/
  | alone {α : Type} (program : Program α) : Process α
  /-- A group with the places of the members that are left; the program goes on without them. -/
  | group {α σ : Type} (left : List Nat) (member : Nat → Process Outcome) (stopping : Bool)
      (tally : σ) (absorb : σ → Nat → Completion → Progress σ) (next : σ → Program α) : Process α

/-- What a step of a run is. -/
inductive Mark where
  | asked (request : Request) (answer : request.Answer)
  | drew
  /-- A group of members begins. -/
  | gathered (count : Nat) (member : Nat → Program Outcome)
  /-- A completion is taken in. -/
  | absorbed (place : Nat) (completion : Completion)
  /-- A member of a stopped group is gone. -/
  | dropped (place : Nat)
  /-- A group is gone, and its program goes on. -/
  | resumed

/-- What happened in a run, each time with the places of the groups that lead to the task. -/
abbrev History := List (List Nat × Mark)

/-- The groups of members that begin in a run, those of its members apart. -/
def History.gathered (history : History) : List (Nat × (Nat → Program Outcome)) :=
  history.filterMap fun entry =>
    match entry with
    | ([], .gathered count member) => some (count, member)
    | _ => none

theorem History.gathered_append (earlier later : History) :
    (earlier ++ later).gathered = earlier.gathered ++ later.gathered :=
  List.filterMap_append

def Progress.tally {σ : Type} : Progress σ → σ
  | .more tally => tally
  | .stop tally => tally

def Progress.stops {σ : Type} : Progress σ → Bool
  | .more _ => false
  | .stop _ => true

/-- How a member may be seen to complete: by the value it ended with, or by a crash. -/
inductive Completion.Of : Completion → Process Outcome → Prop where
  | finished (outcome : Outcome) : Completion.Of (.finished outcome) (.alone (.done outcome))
  | crashed (process : Process Outcome) : Completion.Of .crashed process

theorem Completion.Of.eq_done {outcome : Outcome} {process : Process Outcome}
    (completes : Completion.Of (.finished outcome) process) :
    process = .alone (.done outcome) := by
  cases completes
  rfl

/-- One step of one task of a process. -/
inductive Step : {α : Type} → Process α → List Nat × Mark → Process α → Prop where
  | ask {α : Type} (request : Request) (next : request.Answer → Program α)
      (answer : request.Answer) :
      Step (.alone (.ask request next)) ([], .asked request answer) (.alone (next answer))
  | draw {α β : Type} (drawn : Random.Source → β × Random.Source) (next : β → Program α)
      (source : Random.Source) :
      Step (.alone (.draw drawn next)) ([], .drew) (.alone (next (drawn source).1))
  | gather {α σ : Type} (count : Nat) (member : Nat → Program Outcome) (start : σ)
      (absorb : σ → Nat → Completion → Progress σ) (next : σ → Program α) :
      Step (.alone (.gather count member start absorb next)) ([], .gathered count member)
        (.group (List.range count) (fun place => .alone (member place)) false start absorb next)
  | member {α σ : Type} {left : List Nat} {member : Nat → Process Outcome} {stopping : Bool}
      {tally : σ} {absorb : σ → Nat → Completion → Progress σ} {next : σ → Program α}
      {place : Nat} {path : List Nat} {mark : Mark} {process : Process Outcome}
      (isLeft : place ∈ left) (step : Step (member place) (path, mark) process) :
      Step (.group left member stopping tally absorb next) (place :: path, mark)
        (.group left (Function.update member place process) stopping tally absorb next)
  | absorb {α σ : Type} {left : List Nat} {member : Nat → Process Outcome}
      {tally : σ} {absorb : σ → Nat → Completion → Progress σ} {next : σ → Program α}
      {place : Nat} {completion : Completion} (isLeft : place ∈ left)
      (completes : completion.Of (member place)) :
      Step (.group left member false tally absorb next) ([], .absorbed place completion)
        (.group (left.erase place) member (absorb tally place completion).stops
          (absorb tally place completion).tally absorb next)
  | drop {α σ : Type} {left : List Nat} {member : Nat → Process Outcome} {tally : σ}
      {absorb : σ → Nat → Completion → Progress σ} {next : σ → Program α} {place : Nat}
      (isLeft : place ∈ left) :
      Step (.group left member true tally absorb next) ([], .dropped place)
        (.group (left.erase place) member true tally absorb next)
  | resume {α σ : Type} (member : Nat → Process Outcome) (stopping : Bool) (tally : σ)
      (absorb : σ → Nat → Completion → Progress σ) (next : σ → Program α) :
      Step (.group [] member stopping tally absorb next) ([], .resumed) (.alone (next tally))

/-- Steps one after the other, with what happened in them. -/
inductive Run {α : Type} : Process α → History → Process α → Prop where
  | refl (process : Process α) : Run process [] process
  | step {first second third : Process α} {mark : List Nat × Mark} {later : History}
      (step : Step first mark second) (run : Run second later third) :
      Run first (mark :: later) third

namespace Run

variable {α : Type} {first second third : Process α} {earlier later : History}

theorem trans (run : Run first earlier second) (further : Run second later third) :
    Run first (earlier ++ later) third := by
  induction run with
  | refl process => exact further
  | step step run ih => exact .step step (ih further)

theorem preserves {holds : Process α → Prop}
    (kept : ∀ {before after mark}, Step before mark after → holds before → holds after)
    (run : Run first earlier second) (start : holds first) : holds second := by
  induction run with
  | refl process => exact start
  | step step run ih => exact ih (kept step start)

end Run

end Workflow
