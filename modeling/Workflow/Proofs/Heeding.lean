import Workflow.Proofs.Sequencing

/-!
# Heeding

Among the answers that a program is given, and among the completions that its groups take in, some
are faults that are no failures. A program heeds these when it ends with the very fault as soon as
it learns of it, whatever it was about to do; a group that takes in such a fault is stopped, and its
program ends once the members that are left are gone.

This is said along the program, like a contract. Every step of a process keeps it, a step that tells
of a fatal fault leads to a process that is doomed, and a doomed one only lets its group go. So what
is read off the history of any run (`Run.surrenders`) needs nothing but the program.
-/

namespace Workflow

/-! ## Fatal faults -/

/-- The fault that is no failure that an answer is, given the limit of transitions. -/
def Exchange.fatal? (limit : Nat) : Exchange → Option Fault
  | ⟨.enter, false⟩ => some (.tooManyTransitions limit)
  | ⟨.call resource _ _, .unknown⟩ => some (.unknownResource resource)
  | ⟨.split state _ _, none⟩ => some (.noBatching state)
  | _ => none

def Completion.fatal? : Completion → Option Fault
  | .finished (.error fault) => if fault.failure?.isNone then some fault else none
  | _ => none

/-- The fault that is no failure that a task learns of in a step. -/
def Mark.fatal? (limit : Nat) : Mark → Option Fault
  | .asked request answer => Exchange.fatal? limit ⟨request, answer⟩
  | .absorbed _ completion => completion.fatal?
  | _ => none

/-- A step in which a group is let go. -/
def Mark.Closing : Mark → Prop
  | .dropped _ => True
  | .resumed => True
  | _ => False

theorem Exchange.failure?_of_fatal? {limit : Nat} {exchange : Exchange} {fault : Fault}
    (fatal : exchange.fatal? limit = some fault) : fault.failure? = none := by
  unfold Exchange.fatal? at fatal
  split at fatal <;> cases fatal <;> rfl

theorem Completion.fatal?_eq_some {completion : Completion} {fault : Fault} :
    completion.fatal? = some fault ↔
      completion = .finished (.error fault) ∧ fault.failure? = none := by
  unfold Completion.fatal?
  split
  case h_1 other =>
    constructor
    · intro fatal
      split at fatal
      case isTrue none =>
        cases fatal
        exact ⟨rfl, Option.isNone_iff_eq_none.mp none⟩
      case isFalse => cases fatal
    · rintro ⟨same, none⟩
      cases same
      simp [none]
  case h_2 differs =>
    constructor
    · intro fatal
      cases fatal
    · rintro ⟨same, _⟩
      exact absurd same (differs fault)

/-! ## Programs -/

/-- Which groups a program may begin, and how many transitions there may be. -/
structure Manner where
  limit : Nat
  begins : Nat → (Nat → Program Outcome) → Prop

variable {α β : Type} {manner : Manner}

/-- A program is over, with what is to come of a fault. -/
def Program.Gives (ends : Fault → α → Prop) (fault : Fault) (program : Program α) : Prop :=
  ∃ value, program = .done value ∧ ends fault value

/-- A tally that is told of the fatal fault of a member stops its group, and its program is then
over. -/
def Heedful {σ : Type} (members : List Nat) (absorb : σ → Nat → Completion → Progress σ)
    (next : σ → Program α) (ends : Fault → α → Prop) : Prop :=
  ∀ tally, ∀ place ∈ members, ∀ fault, fault.failure? = none →
    ∃ final, absorb tally place (.finished (.error fault)) = .stop final ∧
      (next final).Gives ends fault

/-- A program begins only groups that it may begin, and heeds fatal faults. -/
def Program.Heeds (manner : Manner) : {α : Type} → (Fault → α → Prop) → Program α → Prop
  | _, _, .done _ => True
  | _, ends, .ask request next =>
    (∀ answer fault, Exchange.fatal? manner.limit ⟨request, answer⟩ = some fault →
      (next answer).Gives ends fault) ∧
    ∀ answer, Program.Heeds manner ends (next answer)
  | _, ends, .draw drawn next => ∀ source, Program.Heeds manner ends (next (drawn source).1)
  | _, ends, .gather count member _ absorb next =>
    manner.begins count member ∧ Heedful (List.range count) absorb next ends ∧
      ∀ tally, Program.Heeds manner ends (next tally)

theorem Program.Gives.bind {program : Program α} {ends : Fault → α → Prop} {fault : Fault}
    (gives : program.Gives ends fault) {f : α → Program β} {ends' : Fault → β → Prop}
    (passes : ∀ value, ends fault value → (f value).Gives ends' fault) :
    (program.bind f).Gives ends' fault := by
  rcases gives with ⟨value, rfl, holds⟩
  exact passes value holds

/-- Programs in sequence heed fatal faults when the second one passes on what comes of them. -/
theorem Program.heeds_bind {program : Program α} {f : α → Program β} {ends : Fault → α → Prop}
    {ends' : Fault → β → Prop} (first : program.Heeds manner ends)
    (passes : ∀ fault, fault.failure? = none → ∀ value, ends fault value →
      (f value).Gives ends' fault)
    (later : ∀ value, (f value).Heeds manner ends') : (program.bind f).Heeds manner ends' := by
  induction program with
  | done value => exact later value
  | ask request next ih =>
      refine ⟨fun answer fault fatal => ?_, fun answer => ih answer (first.2 answer) passes later⟩
      exact (first.1 answer fault fatal).bind (passes fault (Exchange.failure?_of_fatal? fatal))
  | draw drawn next ih => exact fun source => ih _ (first source) passes later
  | gather count member start absorb next _ ih =>
      refine ⟨first.1, ?_, fun tally => ih tally (first.2.2 tally) passes later⟩
      intro tally place isMember fault fatal
      rcases first.2.1 tally place isMember fault fatal with ⟨final, stops, gives⟩
      exact ⟨final, stops, gives.bind (passes fault fatal)⟩

/-! ## Processes -/

def Process.Heeds (manner : Manner) (ends : Fault → α → Prop) : Process α → Prop
  | .alone program => program.Heeds manner ends
  | .group left _ _ _ absorb next =>
    Heedful left absorb next ends ∧ ∀ tally, (next tally).Heeds manner ends

/-- All that is left to do is to let the group go. -/
def Process.Doomed (ends : Fault → α → Prop) (fault : Fault) : Process α → Prop
  | .alone program => program.Gives ends fault
  | .group _ _ stopping tally _ next => stopping = true ∧ (next tally).Gives ends fault

section Steps

variable {ends : Fault → α → Prop} {before after : Process α}

theorem Heedful.erase {σ : Type} {left : List Nat} {absorb : σ → Nat → Completion → Progress σ}
    {next : σ → Program α} (heedful : Heedful left absorb next ends) (place : Nat) :
    Heedful (left.erase place) absorb next ends :=
  fun tally other isLeft => heedful tally other (List.mem_of_mem_erase isLeft)

theorem Step.heeds {mark : List Nat × Mark} (step : Step before mark after)
    (heeds : before.Heeds manner ends) : after.Heeds manner ends := by
  cases step with
  | ask request next answer => exact heeds.2 answer
  | draw drawn next source => exact heeds source
  | gather => exact heeds.2
  | member => exact heeds
  | absorb => exact ⟨heeds.1.erase _, heeds.2⟩
  | drop => exact ⟨heeds.1.erase _, heeds.2⟩
  | resume member stopping tally => exact heeds.2 tally

theorem Step.doomed {mark : Mark} {fault : Fault} (step : Step before ([], mark) after)
    (heeds : before.Heeds manner ends) (fatal : mark.fatal? manner.limit = some fault) :
    after.Doomed ends fault := by
  cases step with
  | ask request next answer => exact heeds.1 answer fault fatal
  | draw => cases fatal
  | gather => cases fatal
  | @absorb _ _ _ _ tally _ _ place completion isLeft completes =>
      rcases Completion.fatal?_eq_some.mp fatal with ⟨rfl, none⟩
      rcases heeds.1 tally place isLeft fault none with ⟨final, stops, gives⟩
      rw [stops]
      exact ⟨rfl, gives⟩
  | drop => cases fatal
  | resume => cases fatal

theorem Step.closes {path : List Nat} {mark : Mark} {fault : Fault}
    (step : Step before (path, mark) after) (doomed : before.Doomed ends fault) :
    (path = [] → mark.Closing) ∧ after.Doomed ends fault := by
  cases step with
  | ask =>
      rcases doomed with ⟨value, same, _⟩
      cases same
  | draw =>
      rcases doomed with ⟨value, same, _⟩
      cases same
  | gather =>
      rcases doomed with ⟨value, same, _⟩
      cases same
  | member => exact ⟨fun same => (nomatch same), doomed⟩
  -- What is being stopped takes in no more completions.
  | absorb =>
      rcases doomed with ⟨stopping, _⟩
      cases stopping
  | drop => exact ⟨fun _ => trivial, doomed⟩
  | resume => exact ⟨fun _ => trivial, doomed.2⟩

theorem Step.begins {count : Nat} {member : Nat → Program Outcome}
    (step : Step before ([], .gathered count member) after) (heeds : before.Heeds manner ends) :
    manner.begins count member := by
  cases step with
  | gather => exact heeds.1

end Steps

/-! ## Runs -/

section Runs

variable {ends : Fault → α → Prop} {before after : Process α} {history : History}

theorem Run.closes (run : Run before history after) {fault : Fault}
    (doomed : before.Doomed ends fault) :
    (∀ mark, ([], mark) ∈ history → mark.Closing) ∧ after.Doomed ends fault := by
  induction run with
  | refl process => exact ⟨fun _ isMark => (nomatch isMark), doomed⟩
  | @step _ _ _ entry _ step run ih =>
      rcases step.closes doomed with ⟨closing, doomed⟩
      rcases ih doomed with ⟨laterClosing, doomed⟩
      refine ⟨?_, doomed⟩
      intro mark isMark
      rcases List.mem_cons.mp isMark with same | isLater
      · subst same
        exact closing rfl
      · exact laterClosing mark isLater

/-- A run begins only groups that its program may begin. -/
theorem Run.begins (run : Run before history after) (heeds : before.Heeds manner ends)
    {count : Nat} {member : Nat → Program Outcome}
    (isBegun : ([], .gathered count member) ∈ history) : manner.begins count member := by
  induction run with
  | refl process => cases isBegun
  | step step run ih =>
      rcases List.mem_cons.mp isBegun with same | isLater
      · subst same
        exact step.begins heeds
      · exact ih (step.heeds heeds) isLater

end Runs

/-! ## Actions -/

namespace Action

def Heeds (manner : Manner) (action : Action α) : Prop :=
  Program.Heeds manner (fun fault result => result = .error fault) action.run

theorem heeds_pure (value : α) : Heeds manner (pure value) :=
  trivial

theorem heeds_throw (fault : Fault) : Heeds manner (throw fault : Action α) :=
  trivial

theorem heeds_ofExcept (result : Except Fault α) : Heeds manner (ofExcept result) :=
  trivial

theorem heeds_evaluate (evaluation : Evaluation Evaluation.Error α) :
    Heeds manner (evaluate evaluation) :=
  fun _ => trivial

theorem heeds_ask {request : Request}
    (harmless : ∀ limit answer, Exchange.fatal? limit ⟨request, answer⟩ = none) :
    Heeds manner (ask request) := by
  refine ⟨fun answer fault fatal => ?_, fun _ => trivial⟩
  rw [harmless] at fatal
  cases fatal

theorem heeds_bind {action : Action α} {f : α → Action β} (first : action.Heeds manner)
    (later : ∀ value, (f value).Heeds manner) : Heeds manner (action >>= f) := by
  refine Program.heeds_bind first ?_ ?_
  · rintro fault _ _ rfl
    exact ⟨_, rfl, rfl⟩
  · intro result
    cases result with
    | ok value => exact later value
    | error fault => trivial

theorem heeds_map {action : Action α} (f : α → β) (heeds : action.Heeds manner) :
    Heeds manner (f <$> action) := by
  refine Program.heeds_bind heeds ?_ ?_
  · rintro fault _ _ rfl
    exact ⟨_, rfl, rfl⟩
  · intro result
    cases result <;> trivial

theorem heeds_tryCatch {action : Action α} {handle : Fault → Action α}
    (first : action.Heeds manner)
    (passes : ∀ fault, fault.failure? = none → handle fault = throw fault)
    (later : ∀ fault, (handle fault).Heeds manner) :
    Heeds manner (tryCatch action handle) := by
  refine Program.heeds_bind first ?_ ?_
  · rintro fault none _ rfl
    exact ⟨_, congrArg ExceptT.run (passes fault none), rfl⟩
  · intro result
    cases result with
    | ok value => trivial
    | error fault => exact later fault

/-- What an answer is made of heeds fatal faults when it makes them of those answers. -/
theorem heeds_ask_bind {request : Request} {f : request.Answer → Action α}
    (fails : ∀ answer fault, Exchange.fatal? manner.limit ⟨request, answer⟩ = some fault →
      f answer = throw fault)
    (later : ∀ answer, (f answer).Heeds manner) : Heeds manner (ask request >>= f) :=
  ⟨fun answer fault fatal => ⟨_, congrArg ExceptT.run (fails answer fault fatal), rfl⟩, later⟩

/-- What is made of a tally heeds fatal faults when the tally stops for them and fails for them. -/
theorem heeds_gather_bind {σ : Type} {count : Nat} {member : Nat → Program Outcome} {start : σ}
    {absorb : σ → Nat → Completion → Progress σ} {f : σ → Action α}
    (begins : manner.begins count member)
    (fails : ∀ tally, ∀ place < count, ∀ fault, fault.failure? = none →
      ∃ final, absorb tally place (.finished (.error fault)) = .stop final ∧
        f final = throw fault)
    (later : ∀ tally, (f tally).Heeds manner) :
    Heeds manner (gather count member start absorb >>= f) := by
  refine ⟨begins, ?_, later⟩
  intro tally place isMember fault none
  rcases fails tally place (List.mem_range.mp isMember) fault none with ⟨final, stops, failed⟩
  exact ⟨final, stops, _, congrArg ExceptT.run failed, rfl⟩

end Action

end Workflow
