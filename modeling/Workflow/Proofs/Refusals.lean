import Workflow.Proofs.Metering

/-!
# Refusals

A task that learns of a fatal fault is doomed, and its group waits for it. What may come next is
that the group goes on, that the group lets the task go because another member stopped it, or that
the fault is taken in, which dooms the group. So a fatal fault travels from a task to the ones that
enclose it, and at the root it is the result of the run, unless it was let go on its way. In
particular, a run in which a state entry was refused has no output.

A task does not crash while it waits for its members, nor once it has ended. This is said of runs
here, which otherwise are as before.
-/

namespace Workflow

variable {α : Type} {manner : Manner} {ends : Fault → α → Prop}

/-! ## Sober runs -/

/-- A task that has something of its own left to do. -/
def Process.Works : Process α → Prop
  | .alone (.done _) => False
  | .alone _ => True
  | .group .. => False

/-- A step that is taken at a path is sober when nobody crashes in it but a task at work. -/
def Process.Sober : (path : List Nat) → {α : Type} → Process α → Mark → Prop
  | [], _, process, mark =>
    ∀ place, mark = .absorbed place .crashed → (process.memberAt place).Works
  | place :: path, _, process, mark => Process.Sober path (process.memberAt place) mark

/-- A run in which only tasks at work crash. -/
inductive SoberRun : Process α → History → Process α → Prop where
  | refl (process : Process α) : SoberRun process [] process
  | step {first second third : Process α} {path : List Nat} {mark : Mark} {later : History}
      (step : Step first (path, mark) second) (sober : first.Sober path mark)
      (run : SoberRun second later third) : SoberRun first ((path, mark) :: later) third

theorem SoberRun.run {first second : Process α} {history : History}
    (sober : SoberRun first history second) : Run first history second := by
  induction sober with
  | refl process => exact .refl process
  | step step _ _ ih => exact .step step ih

/-! ## Watched processes -/

def Failing (fault : Fault) (outcome : Outcome) : Prop := outcome = .error fault

/-- The members of every group that may begin heed fatal faults as well. -/
def Manner.Closed (manner : Manner) : Prop :=
  ∀ count member, manner.begins count member → ∀ place < count,
    (member place).Heeds manner Failing

/-- All tasks of a process heed fatal faults, and no group waits twice for a member. -/
def Process.Watched (manner : Manner) : {α : Type} → (Fault → α → Prop) → Process α → Prop
  | _, ends, .alone program => program.Heeds manner ends
  | _, ends, .group left member _ _ absorb next =>
    left.Nodup ∧ (∀ place ∈ left, Process.Watched manner Failing (member place)) ∧
      Heedful left absorb next ends ∧ ∀ tally, (next tally).Heeds manner ends

theorem Process.Watched.heeds {process : Process α} (watched : process.Watched manner ends) :
    process.Heeds manner ends := by
  cases process with
  | alone program => exact watched
  | group => exact watched.2.2

theorem Step.watched (closed : manner.Closed) {before after : Process α} {event : List Nat × Mark}
    (step : Step before event after) (watched : before.Watched manner ends) :
    after.Watched manner ends := by
  induction step with
  | ask request next answer => exact watched.2 answer
  | draw drawn next source => exact watched source
  | gather count member =>
      refine ⟨List.nodup_range, fun place isLeft => ?_, watched.2⟩
      exact closed count member watched.1 place (List.mem_range.mp isLeft)
  | @member _ _ left member _ _ _ _ place _ _ process isLeft step ih =>
      rcases watched with ⟨nodup, members, rest⟩
      refine ⟨nodup, fun other otherIsLeft => ?_, rest⟩
      by_cases same : other = place
      · subst same
        rw [Function.update_self]
        exact ih (members other isLeft)
      · rw [Function.update_of_ne same]
        exact members other otherIsLeft
  | absorb =>
      rcases watched with ⟨nodup, members, heedful, rest⟩
      exact ⟨nodup.erase _, fun other isLeft => members other (List.mem_of_mem_erase isLeft),
        heedful.erase _, rest⟩
  | drop =>
      rcases watched with ⟨nodup, members, heedful, rest⟩
      exact ⟨nodup.erase _, fun other isLeft => members other (List.mem_of_mem_erase isLeft),
        heedful.erase _, rest⟩
  | resume member stopping tally => exact watched.2.2.2 tally

/-! ## Fated processes -/

/-- The task at a path is doomed, and every group on the way to it waits for the member in which it
is. -/
def Process.Fated (fault : Fault) :
    (path : List Nat) → {α : Type} → (Fault → α → Prop) → Process α → Prop
  | [], _, ends, process => process.Doomed ends fault
  | place :: path, _, _, .group left member _ _ _ _ =>
    place ∈ left ∧ Process.Fated fault path Failing (member place)
  | _ :: _, _, _, .alone _ => False

section Fated

variable {before after : Process α} {fault : Fault}

theorem Step.fated {path : List Nat} {mark : Mark} (step : Step before (path, mark) after)
    (watched : before.Watched manner ends) (fatal : mark.fatal? manner.limit = some fault) :
    after.Fated fault path ends := by
  induction path generalizing α with
  | nil => exact step.doomed watched.heeds fatal
  | cons place path ih =>
      cases step with
      | member isLeft step =>
          refine ⟨isLeft, ?_⟩
          rw [Function.update_self]
          exact ih step (watched.2.1 place isLeft)

theorem Process.Fated.waits {outer inner : List Nat} {place : Nat}
    (fated : before.Fated fault (outer ++ place :: inner) ends) :
    ¬ Step before (outer, .resumed) after := by
  intro step
  induction outer generalizing α with
  | nil =>
      cases step with
      | resume => cases fated.1
  | cons first outer ih =>
      cases step with
      | member isLeft step => exact ih fated.2 step

/-- A member that is doomed ends with the fault, or waits for its own members. -/
theorem Completion.Of.fated {completion : Completion} {process : Process Outcome}
    {path : List Nat} (completes : completion.Of process)
    (fated : process.Fated fault path Failing)
    (sober : completion = .crashed → process.Works) : completion = .finished (.error fault) := by
  cases completes with
  | finished outcome =>
      cases path with
      | nil =>
          rcases fated with ⟨value, same, failing⟩
          cases same
          rw [failing]
      | cons => cases fated
  | crashed =>
      have works := sober rfl
      cases process with
      | group => cases works
      | alone program =>
          cases path with
          | nil =>
              rcases fated with ⟨value, rfl, _⟩
              cases works
          | cons => cases fated

/-- Where a doomed task is, there is still one after a step, or else in one that encloses it, unless
one of these is dropped. -/
theorem Process.Fated.step {path here : List Nat} {mark : Mark}
    (fated : before.Fated fault path ends) (watched : before.Watched manner ends)
    (none : fault.failure? = none) (step : Step before (here, mark) after)
    (sober : before.Sober here mark) :
    (∃ outer inner, path = outer ++ inner ∧ after.Fated fault outer ends) ∨
      ∃ outer place inner, path = outer ++ place :: inner ∧
        (here, mark) = (outer, .dropped place) := by
  induction path generalizing α here with
  | nil => exact Or.inl ⟨[], [], rfl, (step.closes fated).2⟩
  | cons place path ih =>
      cases step with
      | ask => cases fated
      | draw => cases fated
      | gather => cases fated
      | resume => cases fated.1
      | @member _ _ left member _ _ _ _ other _ _ process isLeft step =>
          rcases fated with ⟨waits, fated⟩
          by_cases same : other = place
          · subst same
            rcases ih fated (watched.2.1 other isLeft) step sober with
              ⟨outer, inner, rfl, later⟩ | ⟨outer, gone, inner, rfl, isDrop⟩
            · refine Or.inl ⟨other :: outer, inner, rfl, isLeft, ?_⟩
              rw [Function.update_self]
              exact later
            · cases isDrop
              exact Or.inr ⟨other :: _, gone, inner, rfl, rfl⟩
          · refine Or.inl ⟨place :: path, [], (List.append_nil _).symm, waits, ?_⟩
            rw [Function.update_of_ne (Ne.symm same)]
            exact fated
      | @absorb _ _ left member tally absorb next other completion isLeft completes =>
          rcases fated with ⟨waits, fated⟩
          by_cases same : other = place
          · subst same
            have failed := completes.fated fated fun crashed =>
              sober other (by rw [crashed])
            rcases watched.2.2.1 tally other isLeft fault none with ⟨final, stops, gives⟩
            refine Or.inl ⟨[], other :: path, rfl, ?_⟩
            rw [failed, stops]
            exact ⟨rfl, gives⟩
          · refine Or.inl ⟨place :: path, [], (List.append_nil _).symm, ?_, fated⟩
            exact (List.mem_erase_of_ne (Ne.symm same)).mpr waits
      | @drop _ _ left member tally absorb next other isLeft =>
          rcases fated with ⟨waits, fated⟩
          by_cases same : other = place
          · subst same
            exact Or.inr ⟨[], other, path, rfl, rfl⟩
          · refine Or.inl ⟨place :: path, [], (List.append_nil _).symm, ?_, fated⟩
            exact (List.mem_erase_of_ne (Ne.symm same)).mpr waits

end Fated

/-! ## Stopped groups -/

/-- The group at a path is stopped, and a member of it is still there. -/
def Process.Stops (place : Nat) : (outer : List Nat) → {α : Type} → Process α → Prop
  | [], _, .group left _ stopping _ _ _ => stopping = true ∧ place ∈ left
  | first :: outer, _, .group _ member _ _ _ _ => Process.Stops place outer (member first)
  | _, _, .alone _ => False

/-- A group is stopped when a completion is taken in, and that is of another member than those that
are still there. -/
theorem Step.stops {before after : Process α} {here outer : List Nat} {mark : Mark} {place : Nat}
    (step : Step before (here, mark) after) (watched : before.Watched manner ends)
    (stops : after.Stops place outer) :
    before.Stops place outer ∧ (here, mark) ≠ (outer, .resumed) ∨
      ∃ other completion, (here, mark) = (outer, .absorbed other completion) ∧ other ≠ place := by
  induction outer generalizing α here with
  | nil =>
      cases step with
      | ask => cases stops
      | draw => cases stops
      | gather => cases stops.1
      | member => exact Or.inl ⟨stops, by simp⟩
      | absorb isLeft completes =>
          refine Or.inr ⟨_, _, rfl, ?_⟩
          rintro rfl
          exact watched.1.not_mem_erase stops.2
      | drop => exact Or.inl ⟨⟨rfl, List.mem_of_mem_erase stops.2⟩, by simp⟩
      | resume => cases stops
  | cons first outer ih =>
      cases step with
      | ask => cases stops
      | draw => cases stops
      | gather => cases outer <;> cases stops
      | @member _ _ left member _ _ _ _ other path mark process isLeft step =>
          by_cases same : other = first
          · subst same
            simp only [Process.Stops, Function.update_self] at stops
            rcases ih step (watched.2.1 other isLeft) stops with ⟨before, goesOn⟩ | stopped
            · exact Or.inl ⟨before, fun same => goesOn (by cases same; rfl)⟩
            · rcases stopped with ⟨sibling, completion, same, differs⟩
              cases same
              exact Or.inr ⟨sibling, completion, rfl, differs⟩
          · simp only [Process.Stops, Function.update_of_ne (Ne.symm same)] at stops
            refine Or.inl ⟨stops, fun equal => same ?_⟩
            cases equal
            rfl
      | absorb => exact Or.inl ⟨stops, by simp⟩
      | drop => exact Or.inl ⟨stops, by simp⟩
      | resume => cases stops

theorem Step.drops {before after : Process α} {outer : List Nat} {place : Nat}
    (step : Step before (outer, .dropped place) after) : before.Stops place outer := by
  induction outer generalizing α with
  | nil =>
      cases step with
      | drop isLeft => exact ⟨rfl, isLeft⟩
  | cons first outer ih =>
      cases step with
      | member _ step => exact ih step

/-- The group at a path takes in a completion of another member, and is not gone after that. -/
def History.StoppedBySibling (history : History) (outer : List Nat) (place : Nat) : Prop :=
  ∃ before other completion after,
    history = before ++ (outer, .absorbed other completion) :: after ∧ other ≠ place ∧
      (outer, .resumed) ∉ after

/-- What is dropped in a run was in a group that another member stopped, or that was stopped before
the run. -/
theorem Run.dropped (closed : manner.Closed) {first last : Process α} {history later : History}
    (run : Run first history last) (watched : first.Watched manner ends) {earlier : History}
    {outer : List Nat} {place : Nat}
    (split : history = earlier ++ (outer, .dropped place) :: later) :
    first.Stops place outer ∧ (outer, .resumed) ∉ earlier ∨
      earlier.StoppedBySibling outer place := by
  induction run generalizing earlier with
  | refl => simp at split
  | @step first second third event rest step run ih =>
      rcases event with ⟨here, mark⟩
      cases earlier with
      | nil =>
          cases split
          exact Or.inl ⟨step.drops, List.not_mem_nil⟩
      | cons first earlier =>
          cases split
          rcases ih (step.watched closed watched) rfl with ⟨stops, goesOn⟩ | stopped
          · rcases step.stops watched stops with ⟨stops, stays⟩ | ⟨other, completion, same, differs⟩
            · refine Or.inl ⟨stops, ?_⟩
              rw [List.mem_cons, not_or]
              exact ⟨stays.symm, goesOn⟩
            · exact Or.inr ⟨[], other, completion, earlier, by rw [same]; rfl, differs, goesOn⟩
          · rcases stopped with ⟨before, other, completion, after, rfl, differs, goesOn⟩
            exact Or.inr ⟨_ :: before, other, completion, after, rfl, differs, goesOn⟩

/-! ## Runs -/

theorem Mark.failure?_of_fatal? {limit : Nat} {mark : Mark} {fault : Fault}
    (fatal : mark.fatal? limit = some fault) : fault.failure? = none := by
  cases mark with
  | asked request answer => exact Exchange.failure?_of_fatal? fatal
  | absorbed place completion => exact (Completion.fatal?_eq_some.mp fatal).2
  | _ => cases fatal

/-- The task at a path, or one that encloses it, is dropped in what comes later. Its group is the
one that it was in before, and another member had stopped that. -/
def History.Abandons (earlier later : History) (path : List Nat) : Prop :=
  ∃ outer place inner before after, path = outer ++ place :: inner ∧
    later = before ++ (outer, .dropped place) :: after ∧ (outer, .resumed) ∉ before ∧
      History.StoppedBySibling (earlier ++ before) outer place

section Runs

variable {before : Process α} {fault : Fault} {value : α} {history : History}

/-- A doomed task decides the result, unless it is let go. -/
theorem SoberRun.fated (closed : manner.Closed) {path : List Nat} {last : Process α}
    (run : SoberRun before history last) (ended : last = .alone (.done value))
    (watched : before.Watched manner ends) (none : fault.failure? = none)
    (fated : before.Fated fault path ends) :
    ends fault value ∨ ∃ outer place inner before after, path = outer ++ place :: inner ∧
      history = before ++ (outer, .dropped place) :: after ∧ (outer, .resumed) ∉ before := by
  induction run generalizing path with
  | refl process =>
      subst ended
      cases path with
      | nil =>
          rcases fated with ⟨other, same, ends⟩
          cases same
          exact Or.inl ends
      | cons => cases fated
  | @step first second third here mark later step sober run ih =>
      rcases fated.step watched none step sober with
        ⟨outer, inner, rfl, later⟩ | ⟨outer, place, inner, rfl, same⟩
      · rcases ih ended (step.watched closed watched) later with
          ends | ⟨outside, place, between, before, after, rfl, rfl, goesOn⟩
        · exact Or.inl ends
        -- The group that drops the task has waited for it all the time.
        · refine Or.inr
            ⟨outside, place, between ++ inner, (here, mark) :: before, after, ?_, rfl, ?_⟩
          · rw [List.append_assoc, List.cons_append]
          · rw [List.mem_cons, not_or]
            refine ⟨?_, goesOn⟩
            rintro same
            cases same
            rw [List.append_assoc, List.cons_append] at fated
            exact fated.waits step
      · cases same
        exact Or.inr ⟨_, place, inner, [], later, rfl, rfl, List.not_mem_nil⟩

theorem SoberRun.split {last : Process α} {earlier later : History}
    (run : SoberRun before (earlier ++ later) last) :
    ∃ middle, SoberRun before earlier middle ∧ SoberRun middle later last := by
  induction earlier generalizing before with
  | nil => exact ⟨before, .refl before, run⟩
  | cons event earlier ih =>
      cases run with
      | step step sober run =>
          rcases ih run with ⟨middle, first, rest⟩
          exact ⟨middle, .step step sober first, rest⟩

/-- Whatever task learns of a fatal fault, the run ends with what comes of the fault, unless the
task or one that encloses it is let go because of another member of its group. -/
theorem SoberRun.ends_of_fatal (closed : manner.Closed) {program : Program α}
    (run : SoberRun (.alone program) history (.alone (.done value)))
    (heeds : program.Heeds manner ends) {earlier later : History} {path : List Nat} {mark : Mark}
    (split : history = earlier ++ (path, mark) :: later)
    (fatal : mark.fatal? manner.limit = some fault) :
    ends fault value ∨ History.Abandons (earlier ++ [(path, mark)]) later path := by
  subst split
  have whole := run.run
  rcases run.split with ⟨middle, first, rest⟩
  have watched : middle.Watched manner ends :=
    first.run.preserves (fun step watched => step.watched closed watched) heeds
  cases rest with
  | step step sober rest =>
      rcases rest.fated closed rfl (step.watched closed watched) (Mark.failure?_of_fatal? fatal)
        (step.fated watched fatal) with
        ends | ⟨outer, place, inner, before, after, rfl, rfl, goesOn⟩
      · exact Or.inl ends
      · refine Or.inr ⟨outer, place, inner, before, after, rfl, rfl, goesOn, ?_⟩
        have asOne : earlier ++ (outer ++ place :: inner, mark) ::
            (before ++ (outer, .dropped place) :: after) =
            (earlier ++ [(outer ++ place :: inner, mark)] ++ before) ++
              (outer, .dropped place) :: after := by
          simp
        rcases whole.dropped closed heeds asOne with ⟨stops, _⟩ | stopped
        · cases outer <;> cases stops
        · exact stopped

end Runs

namespace Engine

/-! ## Machines -/

def invoking (shared : Shared) : Manner where
  limit := shared.config.maxTransitions
  begins count member :=
    ∀ place < count, ∃ invocation : Invocation, member place = invocation.program shared

theorem Begins.invoking {shared : Shared} {visit : Visit} {kind : StateKind} {count : Nat}
    {member : Nat → Program Outcome} (begins : Begins shared visit kind count member) :
    (invoking shared).begins count member := by
  intro place inside
  rcases begins.invocation inside with ⟨invocation, _, same⟩
  exact ⟨invocation, same⟩

theorem closed_invoking (shared : Shared) : (invoking shared).Closed := by
  intro count member begins place inside
  rcases begins place inside with ⟨invocation, same⟩
  rw [same]
  cases invocation with
  | graph graph input frame =>
      exact heeds_runGraph_of_begins shared Begins.invoking rfl graph input frame
  | branch visit graph input =>
      exact heeds_runBranch_of_begins shared Begins.invoking rfl visit graph input
  | write resource input => exact heeds_invoke resource input none

theorem heeds_runMachine (shared : Shared) (machine : Machine) (inherited : Dialect) (id : String)
    (caller : Option Json) (input : Json) :
    (runMachine shared machine inherited id caller input).Heeds (invoking shared) Failing := by
  refine ⟨fun answer fault fatal => (nomatch fatal), fun started => ?_⟩
  exact heeds_runGraph_of_begins shared Begins.invoking rfl machine.graph input _

/-- There are no more state entries in a run than the limit allows, whatever is nested, repeated or
retried and in whatever order tasks take their turns. Once an entry was refused, at any depth, none
is granted any more, and the run has no output, unless the refused task or one that encloses it was
let go because of another member of its group. -/
theorem entries_limited (shared : Shared) (machine : Machine) (inherited : Dialect) (id : String)
    (caller : Option Json) (input : Json) {history : History}
    (metered : history.Metered shared.config.maxTransitions) :
    (∀ after, Run (.alone (runMachine shared machine inherited id caller input)) history after →
      ∃ entries, Recorded shared machine inherited id caller input history entries) ∧
    (∀ entries, Recorded shared machine inherited id caller input history entries →
      entries.length ≤ shared.config.maxTransitions) ∧
    ∀ earlier path later, history = earlier ++ (path, .asked .enter false) :: later →
      (∀ other, (other, .asked .enter true) ∉ later) ∧
      ∀ output, SoberRun (.alone (runMachine shared machine inherited id caller input)) history
          (.alone (.done (.ok output))) →
        History.Abandons (earlier ++ [(path, .asked .enter false)]) later path := by
  refine ⟨fun after run => runMachine_recorded run, fun entries recorded => ?_, ?_⟩
  · exact recorded.length_le.trans metered.granted_le
  · intro earlier path later split
    refine ⟨fun other => ?_, fun output run => ?_⟩
    · exact History.not_mem_of_granted_eq_zero (split ▸ metered).refused other
    · rcases run.ends_of_fatal (closed_invoking shared)
        (heeds_runMachine shared machine inherited id caller input) split rfl with failed | abandons
      · cases failed
      · exact abandons

def failing : Graph := .mk "Stop" [("Stop", .mk {} (.fail {} {}))] none none

def paired : State := .mk { ends := some true } (.parallel [failing, failing])

def pairedGraph : Graph := .mk "Pair" [("Pair", paired)] none none

/-- A Map that tolerates that one item fails. -/
def lenient : State :=
  .mk { ends := some true }
    (.map (some pairedGraph) none { toleratedCount := ⟨some (.literal 1), none⟩ })

def lenientMachine : Machine := { graph := .mk "Each" [("Each", lenient)] none none }

def tightShared : Shared := ⟨{ maxTransitions := 3 }, 0⟩

def lenientVisit : Visit :=
  visitOf tightShared "Each" lenient .null (startFrame lenientMachine .path "" none .null default)
    default 0 .null

def pairedVisit : Visit :=
  visitOf tightShared "Pair" paired .null (lenientVisit.frame.itemChild "Each" 0 .null) default 0
    .null

def stopFailure : Failure := ⟨"Stop", none⟩

def pairFailure : Failure :=
  .reserved .branchFailed ("branch " ++ Decimal.natText 0 ++ " failed: " ++ stopFailure.shown)

/-- A failure that the task at a path offers for a retry in vain. -/
def vain (path : List Nat) (state : String) (failure : Failure) : History :=
  (offer state failure (planRetry [] [] failure default).1 false).map fun event => (path, event.2)

def lenientStart : History :=
  [([], .asked .now default), ([], .asked .enter true), ([], .asked .now default),
    ([], .gathered 1 (runUnit lenientVisit (runGraph tightShared pairedGraph)
      [(0, ⟨1, .null, .null⟩)])),
    ([0], .asked .enter true), ([0], .asked .now default), ([0], .drew),
    ([0], .gathered 2 (branchesOf tightShared pairedVisit
      [runGraph tightShared failing, runGraph tightShared failing] .null)),
    ([0, 0], .asked .enter true)]

/-- The first branch fails, the second one is dropped, and the failure of the item is tolerated. -/
def lenientEnd : History :=
  ([0, 0], .asked .now default) :: vain [0, 0] "Stop" stopFailure ++
    vain [0, 0] "Pair" stopFailure ++
    [([0], .absorbed 0 (.finished (.error (.failed stopFailure)))), ([0], .dropped 1),
      ([0], .resumed)] ++
    vain [0] "Pair" pairFailure ++
    [([], .absorbed 0 (.finished (.error (.failed pairFailure)))), ([], .resumed), ([], .drew),
      ([], .asked (.completed ⟨"Each", .map, .null, .array [.null], []⟩) ())]

/-- The second branch is refused. -/
def lenientHistory : History := lenientStart ++ ([0, 1], .asked .enter false) :: lenientEnd

theorem metered_lenient : lenientHistory.Metered tightShared.config.maxTransitions := by
  simp [lenientHistory, lenientStart, lenientEnd, vain, offer, History.MeteredFrom, tightShared]

theorem run_lenient :
    SoberRun (.alone (runMachine tightShared lenientMachine .path "" none .null)) lenientHistory
      (.alone (.done (.ok (.array [.null])))) := by
  refine .step (.ask .now _ default) nofun ?_
  refine .step (.ask .enter _ true) nofun ?_
  refine .step (.ask .now _ default) nofun ?_
  refine .step (.gather 1 _ _ _ _) nofun ?_
  refine .step (.member (by decide) (.ask .enter _ true)) nofun ?_
  refine .step (.member (by decide) (.ask .now _ default)) nofun ?_
  refine .step (.member (by decide) (.draw _ _ default)) nofun ?_
  refine .step (.member (by decide) (.gather 2 _ _ _ _)) nofun ?_
  refine .step (.member (by decide) (.member (by decide) (.ask .enter _ true))) nofun ?_
  refine .step (.member (by decide) (.member (by decide) (.ask .enter _ false))) nofun ?_
  refine .step (.member (by decide) (.member (by decide) (.ask .now _ default))) nofun ?_
  refine .step (.member (by decide) (.member (by decide) (.draw _ _ default))) nofun ?_
  refine .step (.member (by decide) (.member (by decide) (.ask (.retry _) _ false))) nofun ?_
  refine .step (.member (by decide) (.member (by decide) (.draw _ _ default))) nofun ?_
  refine .step (.member (by decide) (.member (by decide) (.ask (.retry _) _ false))) nofun ?_
  refine .step (.member (by decide) (.absorb (by decide) (.finished _))) nofun ?_
  refine .step (.member (by decide) (.drop (by decide))) nofun ?_
  refine .step (.member (by decide) (.resume _ _ _ _ _)) nofun ?_
  refine .step (.member (by decide) (.draw _ _ default)) nofun ?_
  refine .step (.member (by decide) (.ask (.retry _) _ false)) nofun ?_
  refine .step (.absorb (by decide) (.finished _)) nofun ?_
  refine .step (.resume _ _ _ _ _) nofun ?_
  refine .step (.draw _ _ default) nofun ?_
  refine .step (.ask (.completed _) _ ()) nofun ?_
  exact .refl _

theorem entries_limited_lenient :
    (∃ entries, Recorded tightShared lenientMachine .path "" none .null lenientHistory entries ∧
      entries.length ≤ 3) ∧
    (∀ other, (other, .asked .enter true) ∉ lenientEnd) ∧
    History.Abandons (lenientStart ++ [([0, 1], .asked .enter false)]) lenientEnd [0, 1] := by
  rcases entries_limited tightShared lenientMachine .path "" none .null metered_lenient with
    ⟨recorded, few, refused⟩
  rcases recorded _ run_lenient.run with ⟨entries, isRecorded⟩
  rcases refused lenientStart [0, 1] lenientEnd rfl with ⟨none, abandons⟩
  exact ⟨⟨entries, isRecorded, few entries isRecorded⟩, none, abandons _ run_lenient⟩

end Engine

end Workflow
