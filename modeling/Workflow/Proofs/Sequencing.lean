import Workflow.Proofs.Contract

/-!
# Sequencing

A run of one program after another falls into a run of the first and a run of the second, and a run
of a group into the runs of its members. So what is proved of the runs of a program by itself holds
wherever the program stands. What a program itself asks is read off its history, the requests of its
members apart.
-/

namespace Workflow

variable {α β : Type}

/-! ## Processes in sequence -/

/-- Goes on from the value of a process. -/
def Process.bind : Process α → (α → Program β) → Process β
  | .alone program, f => .alone (program.bind f)
  | .group left member stopping tally absorb next, f =>
    .group left member stopping tally absorb fun tally => (next tally).bind f

/-- A process that goes on, or is held up for good. -/
def Process.Unfinished (process : Process α) : Prop := ∀ value, process ≠ .alone (.done value)

theorem Process.Unfinished.bind {process : Process α} (unfinished : process.Unfinished)
    (f : α → Program β) : (process.bind f).Unfinished := by
  intro value same
  cases process with
  | alone program =>
      cases program with
      | done value => exact unfinished value rfl
      | ask request next => cases same
      | draw drawn next => cases same
      | gather count member start absorb next => cases same
  | group left member stopping tally absorb next => cases same

/-- A step of two programs in sequence is one of the first, unless the first has ended. -/
theorem Step.bind_inv {process : Process α} {f : α → Program β} {mark : List Nat × Mark}
    {after : Process β} (step : Step (process.bind f) mark after) :
    (∃ middle, Step process mark middle ∧ after = middle.bind f) ∨
      ∃ value, process = .alone (.done value) := by
  cases process with
  | alone program =>
      cases program with
      | done value => exact Or.inr ⟨value, rfl⟩
      | ask request next =>
          cases step with
          | ask _ _ answer => exact Or.inl ⟨_, .ask request next answer, rfl⟩
      | draw drawn next =>
          cases step with
          | draw _ _ source => exact Or.inl ⟨_, .draw drawn next source, rfl⟩
      | gather count member start absorb next =>
          cases step with
          | gather => exact Or.inl ⟨_, .gather count member start absorb next, rfl⟩
  | group left member stopping tally absorb next =>
      cases step with
      | member isLeft step => exact Or.inl ⟨_, .member isLeft step, rfl⟩
      | absorb isLeft completes => exact Or.inl ⟨_, .absorb isLeft completes, rfl⟩
      | drop isLeft => exact Or.inl ⟨_, .drop isLeft, rfl⟩
      | resume => exact Or.inl ⟨_, .resume member stopping tally absorb next, rfl⟩

/-- A step of a process is one of the process with something after it. -/
theorem Step.bind {process after : Process α} {mark : List Nat × Mark}
    (step : Step process mark after) (f : α → Program β) :
    Step (process.bind f) mark (after.bind f) := by
  cases step with
  | ask request next answer => exact .ask request _ answer
  | draw drawn next source => exact .draw drawn _ source
  | gather count member start absorb next => exact .gather count member start absorb _
  | member isLeft step => exact .member isLeft step
  | absorb isLeft completes => exact .absorb isLeft completes
  | drop isLeft => exact .drop isLeft
  | resume member stopping tally absorb next => exact .resume member stopping tally absorb _

namespace Run

theorem bind {process after : Process α} {history : History} (run : Run process history after)
    (f : α → Program β) : Run (process.bind f) history (after.bind f) := by
  induction run with
  | refl process => exact .refl _
  | step step run ih => exact .step (step.bind f) ih

theorem bind_done {program : Program α} {f : α → Program β} {history : History} {value : α}
    {next : Program β} (run : Run (.alone program) history (.alone (.done value)))
    (goesOn : f value = next) : Run (.alone (program.bind f)) history (.alone next) :=
  goesOn ▸ run.bind f

/-- A run of two programs in sequence is one of the first that has not ended, or a run of the first
to its end and one of the second. -/
theorem bind_inv_process {process : Process α} {f : α → Program β} {history : History}
    {after : Process β} (run : Run (process.bind f) history after) :
    (∃ middle, middle.Unfinished ∧ Run process history middle ∧ after = middle.bind f) ∨
      ∃ earlier later value, history = earlier ++ later ∧
        Run process earlier (.alone (.done value)) ∧ Run (.alone (f value)) later after := by
  generalize same : process.bind f = first at run
  induction run generalizing process with
  | refl first =>
      subst same
      by_cases unfinished : process.Unfinished
      · exact Or.inl ⟨process, unfinished, .refl process, rfl⟩
      · simp only [Process.Unfinished, not_forall, not_not] at unfinished
        rcases unfinished with ⟨value, ended⟩
        subst ended
        exact Or.inr ⟨[], [], value, rfl, .refl _, .refl _⟩
  | @step _ _ _ mark later step run ih =>
      subst same
      rcases step.bind_inv with ⟨middle, first, same⟩ | ⟨value, ended⟩
      · rcases ih same.symm with ⟨last, unfinished, rest, sameAfter⟩ |
          ⟨before, behind, value, split, ended, rest⟩
        · exact Or.inl ⟨last, unfinished, .step first rest, sameAfter⟩
        · exact Or.inr ⟨mark :: before, behind, value, by rw [split]; rfl, .step first ended, rest⟩
      · subst ended
        exact Or.inr ⟨[], mark :: later, value, rfl, .refl _, .step step run⟩

theorem bind_inv {program : Program α} {f : α → Program β} {history : History}
    {after : Process β} (run : Run (.alone (program.bind f)) history after) :
    (∃ middle, middle.Unfinished ∧ Run (.alone program) history middle ∧ after = middle.bind f) ∨
      ∃ earlier later value, history = earlier ++ later ∧
        Run (.alone program) earlier (.alone (.done value)) ∧
          Run (.alone (f value)) later after :=
  have run : Run ((Process.alone program).bind f) history after := run
  run.bind_inv_process

/-- A run of two programs in sequence to the end runs both to the end. -/
theorem bind_done_inv {program : Program α} {f : α → Program β} {history : History} {result : β}
    (run : Run (.alone (program.bind f)) history (.alone (.done result))) :
    ∃ earlier later value, history = earlier ++ later ∧
      Run (.alone program) earlier (.alone (.done value)) ∧
        Run (.alone (f value)) later (.alone (.done result)) := by
  rcases run.bind_inv with ⟨middle, unfinished, _, same⟩ | ended
  · exact absurd same.symm (unfinished.bind f result)
  · exact ended

theorem done_inv {value : α} {history : History} {after : Process α}
    (run : Run (.alone (.done value)) history after) :
    history = [] ∧ after = .alone (.done value) := by
  cases run with
  | refl => exact ⟨rfl, rfl⟩
  | step step run => cases step

theorem ask_inv {request : Request} {next : request.Answer → Program α} {history : History}
    {after : Process α} (run : Run (.alone (.ask request next)) history after) :
    history = [] ∧ after.Unfinished ∨
      ∃ answer later, history = ([], .asked request answer) :: later ∧
        Run (.alone (next answer)) later after := by
  cases run with
  | refl => exact Or.inl ⟨rfl, fun value same => by cases same⟩
  | step step run =>
      cases step with
      | ask _ _ answer => exact Or.inr ⟨answer, _, rfl, run⟩

theorem draw_inv {drawn : Random.Source → α × Random.Source} {next : α → Program β}
    {history : History} {after : Process β} (run : Run (.alone (.draw drawn next)) history after) :
    history = [] ∧ after.Unfinished ∨
      ∃ source later, history = ([], .drew) :: later ∧
        Run (.alone (next (drawn source).1)) later after := by
  cases run with
  | refl => exact Or.inl ⟨rfl, fun value same => by cases same⟩
  | step step run =>
      cases step with
      | draw _ _ source => exact Or.inr ⟨source, _, rfl, run⟩

end Run

/-! ## Members -/

/-- What happened in the member of a group at a place. -/
def History.inside (place : Nat) (history : History) : History :=
  history.filterMap fun entry =>
    match entry with
    | (other :: path, mark) => if other = place then some (path, mark) else none
    | ([], _) => none

/-- A group under way. -/
def Process.Grouped (process : Process α) : Prop := ∀ program, process ≠ .alone program

/-- The member of a group at a place; nothing goes on in a process that is no group. -/
def Process.memberAt (place : Nat) : Process α → Process Outcome
  | .group _ member _ _ _ _ => member place
  | .alone _ => .alone (.done (.ok .null))

/-- A step of a group that goes on is a step of the member at a place, or leaves that as it is. -/
theorem Step.inside {process after : Process α} {mark : List Nat × Mark}
    (step : Step process mark after) (grouped : process.Grouped)
    (goesOn : mark ≠ ([], .resumed)) (place : Nat) :
    Run (process.memberAt place) (History.inside place [mark]) (after.memberAt place) := by
  cases step with
  | ask => exact absurd rfl (grouped _)
  | draw => exact absurd rfl (grouped _)
  | gather => exact absurd rfl (grouped _)
  | @member _ _ left member _ _ _ _ other path mark process isLeft step =>
      by_cases same : other = place
      · subst same
        have alone : History.inside other [(other :: path, mark)] = [(path, mark)] := by
          simp [History.inside]
        rw [alone]
        simpa [Process.memberAt] using Run.step step (.refl _)
      · have apart : History.inside place [(other :: path, mark)] = [] := by
          simp [History.inside, same]
        rw [apart]
        simpa [Process.memberAt, Function.update, Ne.symm same] using Run.refl (member place)
  | absorb isLeft completes => exact .refl _
  | drop isLeft => exact .refl _
  | resume => exact absurd rfl goesOn

/-- While a group goes on, each of its members runs by itself. -/
theorem Run.inside {process after : Process α} {history : History}
    (run : Run process history after) (grouped : process.Grouped)
    (goesOn : ([], .resumed) ∉ history) (place : Nat) :
    Run (process.memberAt place) (history.inside place) (after.memberAt place) := by
  induction run with
  | refl process => exact .refl _
  | @step first second third mark later step run ih =>
      have stepGoesOn : mark ≠ ([], .resumed) :=
        fun same => goesOn (same ▸ List.mem_cons_self)
      have secondGrouped : second.Grouped := by
        rintro program same
        subst same
        cases step with
        | ask => exact grouped _ rfl
        | draw => exact grouped _ rfl
        | resume => exact stepGoesOn rfl
      have rest := ih secondGrouped fun isLater => goesOn (List.mem_cons_of_mem _ isLater)
      have split : History.inside place (mark :: later) =
          History.inside place [mark] ++ History.inside place later :=
        List.filterMap_append (l := [mark])
      rw [split]
      exact (step.inside grouped stepGoesOn place).trans rest

/-! ## Exchanges -/

/-- A request with its answer. -/
abbrev Exchange := (request : Request) × request.Answer

/-- What the task of a history itself asked. -/
def History.exchanges (history : History) : List Exchange :=
  history.filterMap fun entry =>
    match entry with
    | ([], .asked request answer) => some ⟨request, answer⟩
    | _ => none

namespace History

@[simp]
theorem exchanges_nil : exchanges [] = [] :=
  rfl

theorem exchanges_append (earlier later : History) :
    exchanges (earlier ++ later) = exchanges earlier ++ exchanges later :=
  List.filterMap_append

theorem exchanges_flatMap {β : Type*} (items : List β) (f : β → History) :
    exchanges (items.flatMap f) = items.flatMap fun item => exchanges (f item) :=
  List.filterMap_flatMap

@[simp]
theorem exchanges_asked (request : Request) (answer : request.Answer) (history : History) :
    exchanges (([], .asked request answer) :: history) =
      ⟨request, answer⟩ :: exchanges history :=
  rfl

@[simp]
theorem exchanges_drew (history : History) :
    exchanges (([], .drew) :: history) = exchanges history :=
  rfl

end History

/-- What a program itself asks is what its contract lets it ask. -/
theorem Run.exchanges_asks {contract : Contract} {post : α → Prop} {program : Program α}
    {history : History} {after : Process α} (run : Run (.alone program) history after)
    (holds : program.Ensures contract post) :
    ∀ exchange ∈ history.exchanges, contract.asks exchange.1 := by
  intro exchange isExchange
  rcases List.mem_filterMap.mp isExchange with ⟨⟨path, mark⟩, isEntry, same⟩
  split at same
  case h_1 request answer isAsked =>
    cases same
    cases isAsked
    exact run.asks holds isEntry
  case h_2 => cases same

end Workflow
