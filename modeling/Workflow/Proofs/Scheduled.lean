import Workflow.Proofs.Contract
import Workflow.Schedule

/-!
# Contracts and schedules

What a contract promises of a program holds of every result of a schedule, whatever the host
answers. The invariant of a world looks at each of its tasks by itself: whatever it is held up by
keeps to its contract, and whatever it has been told is allowed. Every step of the scheduler keeps
the invariant.
-/

namespace Workflow.Schedule

variable {σ α : Type} {allowed : Outcome → Prop} {post : α → Prop}

/-! ## The invariant -/

/-- Whether what a task is told may be told of a member with an allowed outcome. -/
def Notice.Fits (allowed : Outcome → Prop) : Notice → Prop
  | .reply _ => True
  | .member _ completion => completion.Fits allowed

theorem fits_ofOutcome {outcome : Outcome} (isAllowed : allowed outcome) :
    (Completion.ofOutcome outcome).Fits allowed := by
  unfold Completion.ofOutcome
  split
  · trivial
  · exact isAllowed

/-- What a program is held up by keeps to a contract. -/
def Held.Ensures (allowed : Outcome → Prop) : Held α → (α → Prop) → Prop
  | .start program, post => program.Ensures (.lax allowed) post
  | .sleep _ next, post => next.Ensures (.lax allowed) post
  | .reply _ _ next, post => ∀ reply, (next reply).Ensures (.lax allowed) post
  | .group (σ := σ) _ _ _ _ tally absorb next, post =>
    ∃ holds : σ → Prop,
      holds tally ∧
      (∀ tally place completion, holds tally → completion.Fits allowed →
        holds (absorb tally place completion).tally) ∧
      ∀ tally, holds tally → (next tally).Ensures (.lax allowed) post

/-- A job that is a program keeps to the contract of a member. -/
def Job.Fits (allowed : Outcome → Prop) : Job σ → Prop
  | .program _ _ held => held.Ensures allowed allowed
  | _ => True

structure Task.Fits (allowed : Outcome → Prop) (task : Task σ) : Prop where
  job : task.job.Fits allowed
  inbox : ∀ notice ∈ task.inbox, notice.Fits allowed

/-- All tasks of a world keep to the contract of a member. -/
def World.Keeps (allowed : Outcome → Prop) (world : World σ) : Prop :=
  ∀ (id : Nat) (task : Task σ), world.tasks[id]? = some task → task.Fits allowed

/-- What a turn of a program ends with keeps to a contract. -/
def Turn.Fits (allowed : Outcome → Prop) (post : α → Prop) : Turn σ α → Prop
  | .done value world => post value ∧ world.Keeps allowed
  | .crashed world => world.Keeps allowed
  | .held waiting world => waiting.Ensures allowed post ∧ world.Keeps allowed

/-! ## Worlds -/

namespace World

variable {world : World σ}

theorem Keeps.task (keeps : world.Keeps allowed) (id : Nat) : (world.task id).Fits allowed := by
  rw [World.task]
  rw [Array.getD_eq_getD_getElem?]
  cases found : world.tasks[id]? with
  | some task => exact keeps id task found
  | none => exact ⟨trivial, fun _ isNotice => nomatch isNotice⟩

theorem Keeps.update (keeps : world.Keeps allowed) (id : Nat) {change : Task σ → Task σ}
    (fits : ∀ task : Task σ, task.Fits allowed → (change task).Fits allowed) :
    (world.update id change).Keeps allowed := by
  intro other task found
  simp only [World.update, Array.getElem?_modify] at found
  split at found
  case isTrue =>
    rcases Option.map_eq_some_iff.mp found with ⟨old, isOld, rfl⟩
    exact fits old (keeps other old isOld)
  case isFalse => exact keeps other task found

theorem Keeps.wake (keeps : world.Keeps allowed) (id : Nat) : (world.wake id).Keeps allowed := by
  rw [World.wake]
  split
  · exact keeps
  · split
    · exact keeps
    · exact keeps
    · exact Keeps.update keeps id fun task fits => ⟨fits.job, fits.inbox⟩

theorem Keeps.dequeue (keeps : world.Keeps allowed) {id : Nat} {later : World σ}
    (taken : world.dequeue = some (id, later)) : later.Keeps allowed := by
  have unqueued : ∀ id, (world.update id fun task => { task with queued := false }).Keeps
      allowed := fun id => keeps.update id fun task fits => ⟨fits.job, fits.inbox⟩
  rw [World.dequeue] at taken
  split at taken
  · cases taken
    exact unqueued id
  · cases taken
    exact unqueued id
  · cases taken

theorem Keeps.push (keeps : world.Keeps allowed) {task : Task σ} (fits : task.Fits allowed)
    {later : World σ} (same : later.tasks = world.tasks.push task) : later.Keeps allowed := by
  intro id other found
  rw [same, Array.getElem?_push] at found
  split at found
  case isTrue =>
    cases found
    exact fits
  case isFalse => exact keeps id other found

theorem Keeps.spawn (keeps : world.Keeps allowed) (job : Job σ) (fits : job.Fits allowed) :
    (world.spawn job).Keeps allowed :=
  keeps.push ⟨fits, by simp⟩ rfl

theorem Keeps.notify (keeps : world.Keeps allowed) (id : Nat) {notice : Notice}
    (fits : notice.Fits allowed) : (world.notify id notice).Keeps allowed := by
  have told : (world.update id fun task => { task with inbox := task.inbox ++ [notice] }).Keeps
      allowed := by
    refine keeps.update id fun task taskFits => ⟨taskFits.job, ?_⟩
    intro other isNotice
    rcases List.mem_append.mp isNotice with isOld | isNew
    · exact taskFits.inbox other isOld
    · rw [List.mem_singleton.mp isNew]
      exact fits
  exact told.wake id

theorem Keeps.cancel (keeps : world.Keeps allowed) (id : Nat) :
    (world.cancel id).Keeps allowed := by
  rw [World.cancel]
  split
  · exact keeps
  · have marked : (world.update id fun task => { task with cancelled := true }).Keeps allowed :=
      keeps.update id fun task fits => ⟨fits.job, fits.inbox⟩
    exact marked.wake id

theorem Keeps.cancelRange (keeps : world.Keeps allowed) (first count : Nat) :
    (world.cancelRange first count).Keeps allowed := by
  induction count generalizing world first with
  | zero => exact keeps
  | succ count ih => exact ih (keeps.cancel first) (first + 1)

theorem Keeps.release (keeps : world.Keeps allowed) (id : Nat) (held : Held α) :
    (world.release id held).Keeps allowed := by
  cases held with
  | start program => exact keeps
  | sleep deadline next => exact keeps
  | reply call deadline next =>
      cases deadline with
      | none => exact keeps.cancel call
      | some deadline =>
          have dropped : (world.dropAlarm deadline id).Keeps allowed := keeps
          exact dropped.cancel call
  | group first count left stopping tally absorb next => exact keeps.cancelRange first count

theorem Keeps.close (keeps : world.Keeps allowed) (id : Nat) : (world.close id).Keeps allowed :=
  keeps.update id fun _ _ => ⟨trivial, fun _ isNotice => nomatch isNotice⟩

theorem Keeps.drop (keeps : world.Keeps allowed) (id : Nat) : (world.drop id).Keeps allowed := by
  rw [World.drop]
  split
  · exact Keeps.notify (Keeps.close (keeps.release id _) id) _ trivial
  · exact keeps.close id
  · exact Keeps.close keeps id
  · exact keeps

theorem Keeps.ring (keeps : world.Keeps allowed) {later : World σ}
    (rung : world.ring = some later) : later.Keeps allowed := by
  have woken : ∀ (due : List (Nat × Nat)) (world : World σ), world.Keeps allowed →
      (due.foldl (fun world alarm => world.wake alarm.2) world).Keeps allowed := by
    intro due
    induction due with
    | nil => exact fun world keeps => keeps
    | cons first rest ih => exact fun world keeps => ih _ (keeps.wake _)
  rw [World.ring] at rung
  split at rung
  · cases rung
  · cases rung
    exact woken _ _ keeps

end World

/-! ## Turns -/

theorem spawnMembers_keeps {world : World σ} (keeps : world.Keeps allowed) (parent : Nat)
    {member : Nat → Program Outcome} (index count : Nat)
    (members : ∀ place < index + count, (member place).Ensures (.lax allowed) allowed) :
    (spawnMembers parent member index count world).Keeps allowed := by
  induction count generalizing index world with
  | zero => exact keeps
  | succ count ih =>
      have first := members index (by omega)
      refine ih (keeps.spawn (.program parent index (.start (member index))) first) (index + 1) ?_
      intro place inside
      exact members place (by omega)

/-- A program that runs until it is held up or ends keeps to its contract. -/
theorem runProgram_fits (host : Host σ) (id : Nat) {program : Program α}
    (ensures : program.Ensures (.lax allowed) post) {world : World σ}
    (keeps : world.Keeps allowed) :
    (runProgram host id program world).Fits allowed post := by
  induction program generalizing world with
  | done value => exact ⟨ensures, keeps⟩
  | draw drawn next ih => exact ih _ (ensures world.source) keeps
  | gather count member start absorb next ihMember ihNext =>
      rcases ensures with ⟨holds, members, starts, kept, resumes⟩
      rw [runProgram]
      split
      · exact ihNext start (resumes start starts) keeps
      · refine ⟨⟨holds, starts, kept, resumes⟩, spawnMembers_keeps keeps id 0 count ?_⟩
        simpa using members
  | ask request next ih =>
      cases request with
      | enter => exact ih _ (ensures.2 _) keeps
      | now => exact ih _ (ensures.2 _) keeps
      | sleep span =>
          simp only [runProgram]
          split
          · exact ih _ (ensures.2 _) keeps
          · exact ⟨ensures.2 _, keeps⟩
      | wait report =>
          simp only [runProgram]
          split
          · exact ih _ (ensures.2 _) keeps
          · exact ⟨ensures.2 _, keeps⟩
      | call resource input timeout =>
          simp only [runProgram]
          split
          · exact ih _ (ensures.2 _) keeps
          · split
            · exact ⟨ensures.2, keeps.spawn _ trivial⟩
            · split
              · exact ih _ (ensures.2 _) (keeps.spawn _ trivial)
              · exact ⟨ensures.2, keeps.spawn (.call (some id) resource input _) trivial⟩
      | completed report =>
          simp only [runProgram]
          split
          · exact keeps
          · exact ih _ (ensures.2 _) keeps
      | retry report => exact ih _ (ensures.2 _) keeps
      | heartbeat state seconds => exact ih _ (ensures.2 _) keeps
      | credentials state value => exact ih _ (ensures.2 _) keeps
      | split state items limit =>
          simp only [runProgram]
          split
          · exact ih _ (ensures.2 _) keeps
          · exact ih _ (ensures.2 _) keeps

theorem absorbNotices_holds {τ : Type} {absorb : τ → Nat → Completion → Progress τ}
    {holds : τ → Prop}
    (kept : ∀ tally place completion, holds tally → completion.Fits allowed →
      holds (absorb tally place completion).tally)
    {notices : List Notice} (fits : ∀ notice ∈ notices, notice.Fits allowed) {tally : τ}
    (current : holds tally) : holds (absorbNotices absorb tally notices).1 := by
  induction notices generalizing tally with
  | nil => exact current
  | cons notice rest ih =>
      have restFits := fun other isRest => fits other (List.mem_cons_of_mem _ isRest)
      cases notice with
      | reply reply => exact ih restFits current
      | member index completion =>
          have next := kept tally index completion current (fits _ List.mem_cons_self)
          rw [absorbNotices]
          cases progress : absorb tally index completion with
          | more tally =>
              rw [progress] at next
              exact ih restFits next
          | stop tally =>
              rw [progress] at next
              exact next

/-- What goes on after it was held up keeps to its contract. -/
theorem resume_fits (host : Host σ) (id : Nat) {held : Held α}
    (ensures : held.Ensures allowed post) {world : World σ} (keeps : world.Keeps allowed) :
    (resume host id held world).Fits allowed post := by
  have emptied : (world.update id fun task => { task with inbox := [] }).Keeps allowed :=
    keeps.update id fun task fits => ⟨fits.job, fun _ isNotice => nomatch isNotice⟩
  have detached : ∀ call, (resume.detach call world).Keeps allowed := by
    refine fun call => keeps.update call fun task fits => ?_
    split
    · exact ⟨trivial, fits.inbox⟩
    · exact ⟨trivial, fits.inbox⟩
    · exact fits
  cases held with
  | start program => exact runProgram_fits host id ensures keeps
  | sleep deadline next =>
      simp only [resume]
      split
      · exact runProgram_fits host id ensures keeps
      · exact ⟨ensures, keeps⟩
  | reply call deadline next =>
      simp only [resume]
      split
      · exact runProgram_fits host id (ensures _) emptied
      · exact runProgram_fits host id (ensures _) emptied
      · exact ⟨ensures, keeps⟩
      · split
        · exact runProgram_fits host id (ensures _) (detached call)
        · exact ⟨ensures, keeps⟩
  | group first count left stopping tally absorb next =>
      rcases ensures with ⟨holds, current, kept, resumes⟩
      have absorbed : holds (absorbNotices absorb tally (world.task id).inbox).1 :=
        absorbNotices_holds kept (keeps.task id).inbox current
      have later : holds (if stopping then (tally, false)
          else absorbNotices absorb tally (world.task id).inbox).1 := by
        split
        · exact current
        · exact absorbed
      simp only [resume]
      split
      · exact runProgram_fits host id (resumes _ later) emptied
      · refine ⟨⟨holds, later, kept, resumes⟩, ?_⟩
        generalize (if stopping then (tally, false)
          else absorbNotices absorb tally (world.task id).inbox).2 = stops
        cases stops with
        | true => exact emptied.cancelRange first count
        | false => exact emptied

theorem endCall_keeps {world : World σ} (keeps : world.Keeps allowed) (id : Nat)
    (caller : Option Nat) (reply : Reply) : (endCall id caller reply world).Keeps allowed := by
  cases caller with
  | none => exact keeps.close id
  | some caller => exact World.Keeps.notify (keeps.close id) caller trivial

theorem runActivity_keeps {world : World σ} (keeps : world.Keeps allowed) (id : Nat)
    (caller : Option Nat) (resource : String) (activity : Activity σ × σ) :
    (runActivity id caller resource activity world).Keeps allowed := by
  simp only [runActivity]
  split
  · refine endCall_keeps ?_ id caller _
    exact keeps
  · refine endCall_keeps ?_ id caller _
    exact keeps
  · refine endCall_keeps ?_ id caller _
    exact keeps
  · exact keeps.update id fun task fits => ⟨trivial, fits.inbox⟩

/-- A turn keeps the invariant. -/
theorem turn_keeps (host : Host σ) (id : Nat) {world : World σ} (keeps : world.Keeps allowed) :
    (turn host id world).Keeps allowed := by
  rw [turn]
  split
  · exact keeps.drop id
  · have fits := (keeps.task id).job
    split
    case h_1 => exact keeps
    case h_2 parent index held job =>
      rw [job] at fits
      have ended := resume_fits host id fits keeps
      split
      case h_1 outcome world result =>
        rw [result] at ended
        exact World.Keeps.notify (ended.2.close id) parent (fits_ofOutcome ended.1)
      case h_2 world result =>
        rw [result] at ended
        exact World.Keeps.notify (World.Keeps.close ended id) parent trivial
      case h_3 held world result =>
        rw [result] at ended
        exact ended.2.update id fun task taskFits => ⟨ended.1, taskFits.inbox⟩
    case h_3 =>
      refine runActivity_keeps ?_ id _ _ _
      exact keeps
    case h_4 =>
      split
      · exact runActivity_keeps keeps id _ _ _
      · exact keeps

/-! ## Runs -/

theorem turns_keeps (host : Host σ) (count : Nat) {world : World σ}
    (keeps : world.Keeps allowed) : (turns host count world).1.Keeps allowed := by
  induction count generalizing world with
  | zero => exact keeps
  | succ count ih =>
      rw [turns]
      split
      case h_1 => exact keeps
      case h_2 id later taken => exact ih (turn_keeps host id (keeps.dequeue taken))

/-- Rounds end with an outcome that keeps to the contract, or at the time limit. -/
theorem rounds_keeps {post : Outcome → Prop} (host : Host σ) (limit : Option Limit) (fuel : Nat)
    {held : Held Outcome}
    (ensures : held.Ensures allowed post) {world later : World σ} (keeps : world.Keeps allowed)
    {outcome : Outcome} (ended : rounds host limit fuel held world = some (outcome, later)) :
    later.Keeps allowed ∧ (post outcome ∨
      ∃ missed, limit = some missed ∧ outcome = .error (timeoutFault missed.seconds)) := by
  induction fuel generalizing held world with
  | zero => cases ended
  | succ fuel ih =>
      rw [rounds] at ended
      have polled : (if world.rootWoken then
          resume host world.root held { world with rootWoken := false }
          else .held held world : Turn σ Outcome).Fits allowed post := by
        split
        · exact resume_fits host world.root ensures keeps
        · exact ⟨ensures, keeps⟩
      dsimp only at ended
      split at ended
      case h_1 => cases ended
      case h_2 value world _ result =>
        rw [result] at polled
        split at ended <;> cases ended <;> exact ⟨polled.2, Or.inl polled.1⟩
      case h_3 => cases ended
      case h_4 held world result =>
        rw [result] at polled
        split at ended
        case h_1 missed isMissed =>
          cases ended
          have isLimit := (Option.filter_eq_some_iff.mp isMissed).1
          exact ⟨polled.2.release _ held, Or.inr ⟨missed, isLimit, rfl⟩⟩
        case h_2 =>
          have taken := turns_keeps host turnsPerRound polled.2
          split at ended
          · split at ended
            case h_1 rung => exact ih polled.1 (taken.ring rung) ended
            case h_2 => cases ended
          · exact ih polled.1 taken ended

/-- A run ends with an outcome that keeps to the contract of its program, or misses its time
limit. -/
theorem run_keeps {post : Outcome → Prop} (host : Host σ) (fuel : Nat) (timeout : Option Nat)
    {program : Program Outcome}
    (ensures : program.Ensures (.lax allowed) post) {world later : World σ}
    (keeps : world.Keeps allowed) {outcome : Outcome}
    (ended : run host fuel timeout program world = some (outcome, later)) :
    later.Keeps allowed ∧ (post outcome ∨
      ∃ seconds, timeout = some seconds ∧ outcome = .error (timeoutFault seconds)) := by
  have isOver : ({ job := .over } : Task σ).Fits allowed := ⟨trivial, by simp⟩
  have started : (Held.start program).Ensures allowed post := ensures
  simp only [run] at ended
  split at ended
  case h_1 =>
    rcases rounds_keeps host none fuel started (keeps.push isOver rfl) ended with
      ⟨laterKeeps, holds | ⟨missed, isLimit, _⟩⟩
    · exact ⟨laterKeeps, Or.inl holds⟩
    · cases isLimit
  case h_2 seconds =>
    split at ended
    case h_1 => cases ended
    case h_2 value world _ result =>
      have begun := result ▸ runProgram_fits host _ ensures (keeps.push isOver rfl)
      cases ended
      exact ⟨begun.2, Or.inl begun.1⟩
    case h_3 => cases ended
    case h_4 held world result =>
      have begun := result ▸ runProgram_fits host _ ensures (keeps.push isOver rfl)
      rcases rounds_keeps host _ fuel begun.1 (by exact begun.2) ended with
        ⟨laterKeeps, holds | ⟨missed, isLimit, same⟩⟩
      · exact ⟨laterKeeps, Or.inl holds⟩
      · cases isLimit
        exact ⟨laterKeeps, Or.inr ⟨seconds, rfl, same⟩⟩

/-- All of several runs end with outcomes that keep to the contract of the program, or miss the
time limit. -/
theorem runTimes_keeps {post : Outcome → Prop} (host : Host σ) (fuel : Nat)
    (timeout : Option Nat) {program : Program Outcome}
    (ensures : program.Ensures (.lax allowed) post)
    (count : Nat) {world later : World σ} (keeps : world.Keeps allowed)
    {outcomes : List Outcome}
    (ended : runTimes host fuel timeout program count world = some (outcomes, later)) :
    ∀ outcome ∈ outcomes, post outcome ∨
      ∃ seconds, timeout = some seconds ∧ outcome = .error (timeoutFault seconds) := by
  induction count generalizing world outcomes later with
  | zero =>
      cases ended
      exact fun _ isOutcome => nomatch isOutcome
  | succ count ih =>
      simp only [runTimes] at ended
      split at ended
      case h_1 => cases ended
      case h_2 first next firstEnded =>
        rcases run_keeps host fuel timeout ensures keeps firstEnded with ⟨nextKeeps, firstHolds⟩
        split at ended
        case h_1 => cases ended
        case h_2 others last othersEnded =>
          cases ended
          intro outcome isOutcome
          rcases List.mem_cons.mp isOutcome with same | isOther
          · exact same ▸ firstHolds
          · exact ih (by exact nextKeeps) othersEnded outcome isOther

end Workflow.Schedule
