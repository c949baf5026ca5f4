import Workflow.Proofs.Interleaving

/-!
# Contracts of programs

A contract says what holds of the value a program ends with, what the program itself may ask, and
which outcomes the members of the groups below it are allowed to end with. It is defined along the
program: for each request all answers are followed, for each draw all sources, and for a group
there has to be an invariant of its tally that every completion with an allowed outcome keeps, in
whatever order completions come.

`Process.Ensures` extends contracts to programs under way. One step keeps it, so every run does
(`Run.ensures`); what ends in a run ends as its contract says, and what is asked may be asked.
-/

namespace Workflow

/-! ## Contracts -/

/-- What a program may ask, and how the members of its groups may end. -/
structure Contract where
  allowed : Outcome → Prop
  asks : Request → Prop

/-- The contract that only says how members end; anything may be asked. -/
abbrev Contract.lax (allowed : Outcome → Prop) : Contract := ⟨allowed, fun _ => True⟩

/-- The contract of the members of groups: they may ask anything. -/
abbrev Contract.members (contract : Contract) : Contract := .lax contract.allowed

/-- Whether a completion may come of a member with an allowed outcome; a crash always may. -/
def Completion.Fits (allowed : Outcome → Prop) : Completion → Prop
  | .finished outcome => allowed outcome
  | .crashed => True

/-- A program keeps to a contract and ends only with values that meet a condition. -/
def Program.Ensures : {α : Type} → Contract → Program α → (α → Prop) → Prop
  | _, _, .done value, post => post value
  | _, contract, .ask request next, post =>
    contract.asks request ∧ ∀ answer, Program.Ensures contract (next answer) post
  | _, contract, .draw drawn next, post =>
    ∀ source, Program.Ensures contract (next (drawn source).1) post
  | _, contract, .gather (σ := σ) count member start absorb next, post =>
    ∃ holds : σ → Prop,
      (∀ place < count, Program.Ensures contract.members (member place) contract.allowed) ∧
      holds start ∧
      (∀ tally place completion, holds tally → completion.Fits contract.allowed →
        holds (absorb tally place completion).tally) ∧
      ∀ tally, holds tally → Program.Ensures contract (next tally) post

/-- A program under way keeps to a contract and ends only with values that meet a condition. -/
def Process.Ensures : {α : Type} → Contract → Process α → (α → Prop) → Prop
  | _, contract, .alone program, post => program.Ensures contract post
  | _, contract, .group (σ := σ) left member _ tally absorb next, post =>
    ∃ holds : σ → Prop,
      (∀ place ∈ left, Process.Ensures contract.members (member place) contract.allowed) ∧
      holds tally ∧
      (∀ tally place completion, holds tally → completion.Fits contract.allowed →
        holds (absorb tally place completion).tally) ∧
      ∀ tally, holds tally → (next tally).Ensures contract post

/-! ## Programs -/

namespace Program

variable {contract : Contract} {α β : Type}

theorem Ensures.mono {program : Program α} {post weaker : α → Prop}
    (holds : program.Ensures contract post) (implies : ∀ value, post value → weaker value) :
    program.Ensures contract weaker := by
  induction program with
  | done value => exact implies value holds
  | ask request next ih => exact ⟨holds.1, fun answer => ih answer (holds.2 answer) implies⟩
  | draw drawn next ih => exact fun source => ih _ (holds source) implies
  | gather count member start absorb next ihMember ihNext =>
      rcases holds with ⟨invariant, members, start, kept, resumes⟩
      exact ⟨invariant, members, start, kept, fun tally invariantHolds =>
        ihNext tally (resumes tally invariantHolds) implies⟩

theorem ensures_bind {program : Program α} {f : α → Program β} {post : β → Prop}
    (holds : program.Ensures contract fun value => (f value).Ensures contract post) :
    (program.bind f).Ensures contract post := by
  induction program with
  | done value => exact holds
  | ask request next ih => exact ⟨holds.1, fun answer => ih answer (holds.2 answer)⟩
  | draw drawn next ih => exact fun source => ih _ (holds source)
  | gather count member start absorb next ihMember ihNext =>
      rcases holds with ⟨invariant, members, start, kept, resumes⟩
      exact ⟨invariant, members, start, kept, fun tally invariantHolds =>
        ihNext tally (resumes tally invariantHolds)⟩

end Program

/-! ## Runs -/

section Runs

variable {contract : Contract} {α : Type} {post : α → Prop}

theorem Completion.Of.fits {completion : Completion} {process : Process Outcome}
    (completes : completion.Of process)
    (holds : process.Ensures contract.members contract.allowed) :
    completion.Fits contract.allowed := by
  cases completes with
  | finished outcome => exact holds
  | crashed process => trivial

theorem Step.ensures {before after : Process α} {mark : List Nat × Mark}
    (step : Step before mark after) (holds : before.Ensures contract post) :
    after.Ensures contract post := by
  induction step generalizing contract with
  | ask request next answer => exact holds.2 answer
  | draw drawn next source => exact holds source
  | gather count member start absorb next =>
      rcases holds with ⟨invariant, members, start, kept, resumes⟩
      exact ⟨invariant, fun place isLeft => members place (List.mem_range.mp isLeft), start, kept,
        resumes⟩
  | @member _ _ left member _ _ _ _ place _ _ process isLeft step ih =>
      rcases holds with ⟨invariant, members, current, kept, resumes⟩
      refine ⟨invariant, ?_, current, kept, resumes⟩
      intro other otherIsLeft
      by_cases same : other = place
      · subst other
        simpa using ih (members place isLeft)
      · simpa [Function.update, same] using members other otherIsLeft
  | @absorb _ _ left member tally _ _ place completion isLeft completes =>
      rcases holds with ⟨invariant, members, current, kept, resumes⟩
      have fits := completes.fits (members place isLeft)
      exact ⟨invariant, fun other isRest => members other (List.mem_of_mem_erase isRest),
        kept tally place completion current fits, kept, resumes⟩
  | drop isLeft =>
      rcases holds with ⟨invariant, members, current, kept, resumes⟩
      exact ⟨invariant, fun other isRest => members other (List.mem_of_mem_erase isRest),
        current, kept, resumes⟩
  | resume member stopping tally absorb next =>
      rcases holds with ⟨invariant, members, current, kept, resumes⟩
      exact resumes tally current

theorem Run.ensures {before after : Process α} {history : History}
    (run : Run before history after) (holds : before.Ensures contract post) :
    after.Ensures contract post :=
  run.preserves Step.ensures holds

theorem Step.asks {before after : Process α} {request : Request} {answer : request.Answer}
    (step : Step before ([], .asked request answer) after)
    (holds : before.Ensures contract post) : contract.asks request := by
  cases step with
  | ask => exact holds.1

theorem Run.asks {before after : Process α} {history : History}
    (run : Run before history after) (holds : before.Ensures contract post) {request : Request}
    {answer : request.Answer} (isAsked : ([], .asked request answer) ∈ history) :
    contract.asks request := by
  induction run with
  | refl process => cases isAsked
  | step step run ih =>
      rcases List.mem_cons.mp isAsked with same | isLater
      · subst same
        exact step.asks holds
      · exact ih (step.ensures holds) isLater

end Runs

/-- An invocation of a process, itself or nested at any depth, has ended with an outcome. -/
inductive Process.Shows : Process Outcome → Outcome → Prop where
  | here (outcome : Outcome) : Process.Shows (.alone (.done outcome)) outcome
  | nested {σ : Type} {left : List Nat} {member : Nat → Process Outcome} {stopping : Bool}
      {tally : σ} {absorb : σ → Nat → Completion → Progress σ} {next : σ → Program Outcome}
      {place : Nat} {outcome : Outcome} (isLeft : place ∈ left)
      (shows : Process.Shows (member place) outcome) :
      Process.Shows (.group left member stopping tally absorb next) outcome

/-- What ends at any depth ends with an allowed outcome. -/
theorem Process.Shows.allowed {contract : Contract} {process : Process Outcome}
    {outcome : Outcome} (shown : process.Shows outcome)
    (holds : process.Ensures contract contract.allowed) : contract.allowed outcome := by
  induction shown generalizing contract with
  | here outcome => exact holds
  | @nested _ _ member _ _ _ _ place _ isLeft shows ih =>
      rcases holds with ⟨invariant, members, _⟩
      have inner : (member place).Ensures contract.members contract.members.allowed :=
        members place isLeft
      have allowed := ih inner
      exact allowed

end Workflow
