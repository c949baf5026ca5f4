import Workflow.Proofs.Termination
import Workflow.Proofs.Tolerance

/-!
# Waves

The units of a Map run in waves, and the members of a wave complete in any order. The outcome of
each unit is taken as given; the claim is that nothing else matters. What a run of all waves may be
at is described by stages: between two waves, within a wave, and at the end. Every step leads from
a stage to a stage, so the verdict and the outputs at the end are functions of the outcomes, and so
is the last wave that begins.
-/

namespace Workflow.Engine

/-! ## Cutting into waves -/

theorem chunks_flatten {α : Type} {size : Nat} (positive : 0 < size) {fuel : Nat}
    {items : List α} (enough : items.length ≤ fuel) :
    (Intrinsic.chunks size fuel items).flatten = items := by
  induction fuel generalizing items with
  | zero =>
      have empty : items = [] := List.length_eq_zero_iff.mp (by omega)
      rw [empty]
      rfl
  | succ fuel ih =>
      cases items with
      | nil => rfl
      | cons item rest =>
          have fewer : ((item :: rest).drop size).length ≤ fuel := by
            simp only [List.length_drop, List.length_cons] at enough ⊢
            omega
          rw [Intrinsic.chunks, List.flatten_cons, ih fewer, List.take_append_drop]
          simp

theorem chunks_length_le {α : Type} {size fuel : Nat} {items chunk : List α}
    (isChunk : chunk ∈ Intrinsic.chunks size fuel items) : chunk.length ≤ size := by
  induction fuel generalizing items with
  | zero => cases isChunk
  | succ fuel ih =>
      cases items with
      | nil => cases isChunk
      | cons item rest =>
          rw [Intrinsic.chunks] at isChunk
          · rcases List.mem_cons.mp isChunk with same | isLater
            · rw [same]
              simp
            · exact ih isLater
          · simp

theorem waveSize_pos (concurrency : Option Nat) (units : Nat) : 0 < waveSize concurrency units := by
  rw [waveSize]
  cases concurrency.getD 0 with
  | zero => exact Nat.lt_of_lt_of_le Nat.one_pos (Nat.le_max_right units 1)
  | succ size => exact Nat.succ_pos size

theorem withPlaces_length (units : List WorkUnit) : (withPlaces units).length = units.length := by
  simp [withPlaces]

theorem withPlaces_places (units : List WorkUnit) :
    (withPlaces units).map Prod.fst = List.range units.length := by
  have places : (withPlaces units).map Prod.fst = units.zipIdx.map Prod.snd := by
    simp [withPlaces, Function.comp_def]
  rw [places, List.zipIdx_map_snd, List.range_eq_range']

theorem wavesOf_flatten (concurrency : Option Nat) (units : List WorkUnit) :
    (wavesOf concurrency units).flatten = withPlaces units :=
  chunks_flatten (waveSize_pos concurrency units.length) (withPlaces_length units).le

theorem mem_withPlaces {units : List WorkUnit} {place : Nat} {unit : WorkUnit} :
    (place, unit) ∈ withPlaces units ↔ units[place]? = some unit := by
  simp [withPlaces, List.mem_zipIdx_iff_getElem?]

/-! ## Parts of a wave -/

/-- The units at some indices of a wave. -/
def unitsAt (wave : List (Nat × WorkUnit)) (indices : List Nat) : List (Nat × WorkUnit) :=
  indices.filterMap fun index => wave[index]?

theorem unitsAt_range (wave : List (Nat × WorkUnit)) :
    unitsAt wave (List.range wave.length) = wave := by
  rw [unitsAt]
  induction wave with
  | nil => rfl
  | cons entry rest ih =>
      rw [List.length_cons, List.range_succ_eq_map, List.filterMap_cons, List.filterMap_map]
      simpa using ih

/-! ## Stages -/

section Stages

variable (visit : Visit) (processor : Runner) (limits : MapLimits) (outcomes : Nat → Outcome)
  (total : Nat) (waves : List (List (Nat × WorkUnit)))

/-- Goes on after a wave. -/
def afterWave (rest : List (List (Nat × WorkUnit))) (tally : MapTally) :
    Program (Except Fault (List Json)) :=
  match tally.verdict limits with
  | some fault => .done (.error fault)
  | none => (runWaves visit processor limits tally rest).run

theorem runWaves_cons (tally : MapTally) (wave : List (Nat × WorkUnit))
    (rest : List (List (Nat × WorkUnit))) :
    (runWaves visit processor limits tally (wave :: rest)).run =
      .gather wave.length (runUnit visit processor wave) tally (absorbUnit limits wave)
        (afterWave visit processor limits rest) := by
  rw [runWaves]
  refine congrArg (Program.gather _ _ _ _) (funext fun tally => ?_)
  change ExceptT.run (match tally.verdict limits with
    | some fault => throw fault
    | none => runWaves visit processor limits tally rest) = _
  rw [afterWave]
  cases tally.verdict limits <;> rfl

/-- The units before a wave. -/
abbrev before (started : Nat) : List (Nat × WorkUnit) := (waves.take started).flatten

/-- What a run of waves may be at, with the number of waves that have begun. -/
inductive Stage : Nat → Process (Except Fault (List Json)) → Prop where
  /-- Between two waves, or after the last one. -/
  | resting {started : Nat} {tally : MapTally} (inside : started ≤ waves.length)
      (describes : tally.Describes limits outcomes total (before waves started))
      (tolerated : limits.Tolerates outcomes (before waves started)) :
      Stage started (.alone (runWaves visit processor limits tally (waves.drop started)).run)
  /-- Within a wave, with the indices of the units that were seen and of those that are left. -/
  | running {started : Nat} {wave : List (Nat × WorkUnit)} {tally : MapTally}
      {seen left : List Nat} {member : Nat → Process Outcome} {stopping : Bool}
      (isWave : waves[started]? = some wave)
      (tolerated : limits.Tolerates outcomes (before waves started))
      (describes : tally.Describes limits outcomes total
        (unitsAt wave seen ++ before waves started))
      (within : (seen ++ left).Subperm (List.range wave.length))
      (whole : stopping = false → (seen ++ left).Perm (List.range wave.length))
      (failing : stopping = true →
        ¬ limits.Tolerates outcomes (unitsAt wave seen ++ before waves started))
      (members : ∀ index ∈ left, ∃ history, History.Calm history ∧
        Run (.alone (runUnit visit processor wave index)) history (member index)) :
      Stage (started + 1) (.group left member stopping tally (absorbUnit limits wave)
        (afterWave visit processor limits (waves.drop (started + 1))))
  | failed {started : Nat} {fault : Fault} (inside : started < waves.length)
      (tolerated : limits.Tolerates outcomes (before waves started))
      (failing : ¬ limits.Tolerates outcomes (before waves (started + 1))) :
      Stage (started + 1) (.alone (.done (.error fault)))

variable {visit processor limits outcomes total waves}

theorem before_succ {started : Nat} {wave : List (Nat × WorkUnit)}
    (isWave : waves[started]? = some wave) :
    before waves (started + 1) = before waves started ++ wave := by
  rw [before, List.take_add_one, isWave, List.flatten_append]
  simp

theorem tolerates_before {started earlier : Nat} (le : earlier ≤ started)
    (tolerated : limits.Tolerates outcomes (before waves started)) :
    limits.Tolerates outcomes (before waves earlier) := by
  apply tolerated.of_subperm
  apply List.Sublist.subperm
  exact (List.take_sublist_take_left le).flatten

theorem subperm_before {started : Nat} {wave : List (Nat × WorkUnit)}
    (isWave : waves[started]? = some wave) {seen : List Nat}
    (within : seen.Subperm (List.range wave.length)) :
    (unitsAt wave seen ++ before waves started).Subperm (before waves (started + 1)) := by
  rw [before_succ isWave]
  have part : (unitsAt wave seen).Subperm wave := by
    rcases within with ⟨middle, perm, sublist⟩
    have sub : (unitsAt wave seen).Subperm (unitsAt wave (List.range wave.length)) :=
      ⟨unitsAt wave middle, perm.filterMap _, sublist.filterMap _⟩
    rwa [unitsAt_range] at sub
  exact (part.append (List.Subperm.refl _)).trans List.perm_append_comm.subperm

theorem perm_before {started : Nat} {wave : List (Nat × WorkUnit)}
    (isWave : waves[started]? = some wave) {seen : List Nat}
    (whole : seen.Perm (List.range wave.length)) :
    (unitsAt wave seen ++ before waves started).Perm (before waves (started + 1)) := by
  rw [before_succ isWave]
  have part : (unitsAt wave seen).Perm wave := by
    have same := whole.filterMap fun index => wave[index]?
    exact same.trans (by rw [← unitsAt, unitsAt_range])
  exact (part.append_right _).trans List.perm_append_comm

/-- The outcomes are those of the units, whatever else happens in their runs. -/
def Fixed (visit : Visit) (processor : Runner) (outcomes : Nat → Outcome)
    (waves : List (List (Nat × WorkUnit))) : Prop :=
  ∀ wave ∈ waves, ∀ index place unit, wave[index]? = some (place, unit) →
    ∀ history outcome, History.Calm history →
      Run (.alone (runUnit visit processor wave index)) history (.alone (.done outcome)) →
        outcome = outcomes place

theorem stage_of_gather (visit : Visit) (processor : Runner) {started : Nat} {tally : MapTally}
    {wave : List (Nat × WorkUnit)} {rest : List (List (Nat × WorkUnit))}
    (cut : waves.drop started = wave :: rest)
    (describes : tally.Describes limits outcomes total (before waves started))
    (tolerated : limits.Tolerates outcomes (before waves started)) :
    waves[started]? = some wave ∧
    Stage visit processor limits outcomes total waves (started + 1)
      (.group (List.range wave.length) (fun index => .alone (runUnit visit processor wave index))
        false tally (absorbUnit limits wave) (afterWave visit processor limits rest)) := by
  have isWave : waves[started]? = some wave := by
    have first : (waves.drop started)[0]? = waves[started + 0]? := List.getElem?_drop
    rw [cut] at first
    simpa using first.symm
  have isRest : waves.drop (started + 1) = rest := by
    rw [← List.drop_drop, cut]
    rfl
  have nothing : ([] ++ List.range wave.length).Subperm (List.range wave.length) :=
    List.Subperm.refl _
  have described : tally.Describes limits outcomes total
      (unitsAt wave [] ++ before waves started) := describes
  refine ⟨isWave, ?_⟩
  rw [← isRest]
  refine .running isWave tolerated described nothing ?_ ?_ ?_
  · exact fun _ => List.Perm.refl _
  · exact fun stopping => nomatch stopping
  · exact fun index _ => ⟨[], History.calm_nil, .refl _⟩

/-- The groups of the first waves. -/
def groupsOf (visit : Visit) (processor : Runner) (waves : List (List (Nat × WorkUnit)))
    (started : Nat) : List (Nat × (Nat → Program Outcome)) :=
  (waves.take started).map fun wave => (wave.length, runUnit visit processor wave)

theorem groupsOf_succ {started : Nat} {wave : List (Nat × WorkUnit)}
    (isWave : waves[started]? = some wave) :
    groupsOf visit processor waves (started + 1) =
      groupsOf visit processor waves started ++
        [(wave.length, runUnit visit processor wave)] := by
  rw [groupsOf, List.take_add_one, isWave, List.map_append]
  rfl

theorem mem_range_of_within {wave : List (Nat × WorkUnit)} {seen left : List Nat} {index : Nat}
    (within : (seen ++ left).Subperm (List.range wave.length)) (isLeft : index ∈ left) :
    ∃ place unit, wave[index]? = some (place, unit) := by
  have inside := List.mem_range.mp (within.subset (List.mem_append_right seen isLeft))
  exact ⟨_, _, List.getElem?_eq_getElem inside⟩

theorem erase_perm (seen : List Nat) {left : List Nat} {index : Nat} (isLeft : index ∈ left) :
    (index :: seen ++ left.erase index).Perm (seen ++ left) := by
  have moved : (seen ++ index :: left.erase index).Perm (seen ++ left) :=
    (List.perm_cons_erase isLeft).symm.append_left seen
  exact List.perm_middle.symm.trans moved

/-- A wave that is over is followed by the next one, or by the end. -/
theorem stage_of_resume {started : Nat} {wave : List (Nat × WorkUnit)} {tally : MapTally}
    {seen : List Nat} {stopping : Bool} (isWave : waves[started]? = some wave)
    (tolerated : limits.Tolerates outcomes (before waves started))
    (describes : tally.Describes limits outcomes total (unitsAt wave seen ++ before waves started))
    (within : seen.Subperm (List.range wave.length))
    (whole : stopping = false → seen.Perm (List.range wave.length))
    (failing : stopping = true →
      ¬ limits.Tolerates outcomes (unitsAt wave seen ++ before waves started)) :
    Stage visit processor limits outcomes total waves (started + 1)
      (.alone (afterWave visit processor limits (waves.drop (started + 1)) tally)) := by
  have inside : started < waves.length := (List.getElem?_eq_some_iff.mp isWave).1
  have verdict := describes.verdict_eq_none
  have fails : ¬ limits.Tolerates outcomes (unitsAt wave seen ++ before waves started) →
      ¬ limits.Tolerates outcomes (before waves (started + 1)) := by
    intro failing all
    exact failing (all.of_subperm (subperm_before isWave within))
  rw [afterWave]
  cases fault : tally.verdict limits with
  | some cause =>
      refine .failed inside tolerated (fails fun all => ?_)
      rw [verdict.mpr all] at fault
      cases fault
  | none =>
      have all := verdict.mp fault
      cases stopping with
      | true => exact absurd all (failing rfl)
      | false =>
          have perm := perm_before isWave (whole rfl)
          exact .resting inside (describes.perm perm) (all.of_subperm perm.symm.subperm)

/-- A step leads from a stage to a stage, and begins a wave only when it is that wave's turn. -/
theorem Stage.step (fixed : Fixed visit processor outcomes waves) {started : Nat}
    {first second : Process (Except Fault (List Json))} {mark : List Nat × Mark}
    (stage : Stage visit processor limits outcomes total waves started first)
    (step : Step first mark second) (calm : mark.2.Calm) :
    ∃ next, Stage visit processor limits outcomes total waves next second ∧
      groupsOf visit processor waves next =
        groupsOf visit processor waves started ++ History.gathered [mark] := by
  cases stage with
  | @resting _ tally inside describes tolerated =>
      cases cut : waves.drop started with
      | nil =>
          rw [cut] at step
          cases step
      | cons wave rest =>
          rw [cut, runWaves_cons] at step
          cases step with
          | gather =>
              rcases stage_of_gather visit processor cut describes tolerated with
                ⟨isWave, next⟩
              exact ⟨started + 1, next, groupsOf_succ isWave⟩
  | failed => cases step
  | @running started wave tally seen left member stopping isWave tolerated describes within whole
      failing members =>
      cases step with
      | @member _ _ _ _ _ _ _ _ index path mark process isLeft step =>
          refine ⟨started + 1, ?_, by simp [History.gathered]⟩
          refine .running isWave tolerated describes within whole failing ?_
          intro other otherIsLeft
          by_cases same : other = index
          · subst same
            rcases members other isLeft with ⟨history, calmly, run⟩
            rw [Function.update_self]
            exact ⟨history ++ [(path, mark)], calmly.append calm,
              run.trans (.step step (.refl _))⟩
          · rw [Function.update_of_ne same]
            exact members other otherIsLeft
      | @absorb _ _ _ _ _ _ _ index completion isLeft completes =>
          refine ⟨started + 1, ?_, by simp [History.gathered]⟩
          rcases mem_range_of_within within isLeft with ⟨place, unit, found⟩
          have perm := erase_perm seen isLeft
          have restMembers := fun other (isRest : other ∈ left.erase index) =>
            members other (List.mem_of_mem_erase isRest)
          cases completion with
          | crashed => exact absurd rfl (calm index)
          | finished outcome =>
              rcases members index isLeft with ⟨history, calmly, run⟩
              rw [completes.eq_done] at run
              have isOutcome := fixed wave (List.mem_of_getElem? isWave) index place unit found
                history outcome calmly run
              subst isOutcome
              have more : unitsAt wave (index :: seen) = (place, unit) :: unitsAt wave seen := by
                simp [unitsAt, found]
              have described : (tally.absorb limits place unit.weight
                  (.finished (outcomes place))).tally.Describes limits outcomes total
                    ((place, unit) :: (unitsAt wave seen ++ before waves started)) :=
                describes.absorb place unit
              have absorbed : absorbUnit limits wave tally index (.finished (outcomes place)) =
                  tally.absorb limits place unit.weight (.finished (outcomes place)) := by
                simp [absorbUnit, found]
              rw [absorbed]
              refine .running isWave tolerated (by rw [more]; exact described)
                (perm.subperm.trans within) (fun _ => perm.trans (whole rfl)) ?_ restMembers
              intro stops
              rw [more]
              exact describes.not_tolerates_of_stops unit stops
      | @drop _ _ _ _ _ _ _ index isLeft =>
          refine ⟨started + 1, ?_, by simp [History.gathered]⟩
          have fewer : (seen ++ left.erase index).Subperm (seen ++ left) :=
            (List.erase_sublist.append_left seen).subperm
          exact .running isWave tolerated describes (fewer.trans within)
            (fun running => nomatch running) failing
            fun other isRest => members other (List.mem_of_mem_erase isRest)
      | resume =>
          refine ⟨started + 1, ?_, by simp [History.gathered]⟩
          rw [List.append_nil] at within whole
          exact stage_of_resume isWave tolerated describes within whole failing

theorem Stage.run (fixed : Fixed visit processor outcomes waves) {started : Nat}
    {first last : Process (Except Fault (List Json))} {history : History}
    (stage : Stage visit processor limits outcomes total waves started first)
    (run : Run first history last) (calm : history.Calm) :
    ∃ next, Stage visit processor limits outcomes total waves next last ∧
      groupsOf visit processor waves next =
        groupsOf visit processor waves started ++ history.gathered := by
  induction run generalizing started with
  | refl process => exact ⟨started, stage, by simp [History.gathered]⟩
  | @step _ _ _ mark later step run ih =>
      rcases stage.step fixed step (calm mark List.mem_cons_self) with ⟨middle, reached, first⟩
      rcases ih reached fun entry isLater => calm entry (List.mem_cons_of_mem _ isLater) with
        ⟨next, reached, rest⟩
      refine ⟨next, reached, ?_⟩
      rw [rest, first, List.append_assoc, ← History.gathered_append, List.singleton_append]

/-! ## What a stage says -/

theorem Stage.started_le {started : Nat} {process : Process (Except Fault (List Json))}
    (stage : Stage visit processor limits outcomes total waves started process) :
    started ≤ waves.length := by
  cases stage with
  | resting inside => exact inside
  | running isWave => exact (List.getElem?_eq_some_iff.mp isWave).1
  | failed inside => exact inside

/-- No wave begins after one that makes the state fail. -/
theorem Stage.started_le_failing {started failing : Nat}
    {process : Process (Except Fault (List Json))}
    (stage : Stage visit processor limits outcomes total waves started process)
    (fails : ¬ limits.Tolerates outcomes (before waves failing)) : started ≤ failing := by
  by_contra later
  cases stage with
  | resting inside describes tolerated =>
      exact fails (tolerates_before (by omega) tolerated)
  | running isWave tolerated => exact fails (tolerates_before (by omega) tolerated)
  | failed inside tolerated => exact fails (tolerates_before (by omega) tolerated)

/-- At the end, the verdict and the outputs are those of the outcomes. -/
theorem Stage.result {started : Nat} {result : Except Fault (List Json)}
    (stage : Stage visit processor limits outcomes total waves started (.alone (.done result)))
    (places : ∀ place < total, isAmong waves.flatten place = true) :
    ((∃ outputs, result = .ok outputs) ↔ limits.Tolerates outcomes waves.flatten) ∧
      ∀ outputs, result = .ok outputs →
        outputs = (List.range total).map fun place => outputOf (outcomes place) := by
  generalize atEnd : Process.alone (.done result) = process at stage
  cases stage with
  | running => cases atEnd
  | failed inside tolerated failing =>
      cases atEnd
      have never : ¬ limits.Tolerates outcomes waves.flatten := by
        intro all
        rw [← List.take_length (l := waves)] at all
        exact failing (tolerates_before inside all)
      refine ⟨⟨?_, fun all => absurd all never⟩, ?_⟩
      · rintro ⟨_, same⟩
        cases same
      · exact fun _ same => nomatch same
  | @resting _ tally inside describes tolerated =>
      cases cut : waves.drop started with
      | cons wave rest =>
          rw [cut, runWaves_cons] at atEnd
          cases atEnd
      | nil =>
          rw [cut] at atEnd
          cases atEnd
          have all : waves.take started = waves :=
            List.take_of_length_le (List.drop_eq_nil_iff.mp cut)
          rw [before, all] at describes tolerated
          refine ⟨⟨fun _ => tolerated, fun _ => ⟨_, rfl⟩⟩, ?_⟩
          intro outputs same
          cases same
          rw [describes.outputs]
          apply List.map_congr_left
          intro place isPlace
          rw [if_pos (places place (List.mem_range.mp isPlace))]

end Stages

/-! ## Runs of all units -/

/-- How many members of a group are left. -/
def width {α : Type} : Process α → Nat
  | .alone _ => 0
  | .group left _ _ _ _ _ => left.length

theorem Stage.width_le {visit : Visit} {processor : Runner} {limits : MapLimits}
    {outcomes : Nat → Outcome} {total size started : Nat} {waves : List (List (Nat × WorkUnit))}
    {process : Process (Except Fault (List Json))}
    (stage : Stage visit processor limits outcomes total waves started process)
    (small : ∀ wave ∈ waves, wave.length ≤ size) : width process ≤ size := by
  cases stage with
  | resting => exact Nat.zero_le _
  | failed => exact Nat.zero_le _
  | @running _ wave _ seen left _ _ isWave _ _ within =>
      have fits := small wave (List.mem_of_getElem? isWave)
      have bound := within.length_le
      simp only [List.length_append, List.length_range] at bound
      simp only [width]
      omega

theorem isAmong_withPlaces {units : List WorkUnit} {place : Nat} (inside : place < units.length) :
    isAmong (withPlaces units) place = true := by
  rw [isAmong]
  rw [List.any_eq_true]
  refine ⟨(place, units[place]), ?_, by simp⟩
  exact mem_withPlaces.mpr (List.getElem?_eq_getElem inside)

/-- The units of the waves that have begun are the first ones, each of them once. -/
theorem before_places (concurrency : Option Nat) (units : List WorkUnit) (started : Nat) :
    (before (wavesOf concurrency units) started).map Prod.fst =
      List.range (before (wavesOf concurrency units) started).length := by
  have isPrefix : before (wavesOf concurrency units) started <+: withPlaces units := by
    rw [← wavesOf_flatten concurrency units]
    exact (List.take_prefix started _).flatten
  have short := isPrefix.length_le
  rw [withPlaces_length] at short
  have cut := List.prefix_iff_eq_take.mp (isPrefix.map Prod.fst)
  rw [withPlaces_places, List.take_range, List.length_map, Nat.min_eq_left short] at cut
  exact cut

/-- Whatever the order in which the units of a Map complete, and however many may run side by side:
the run ends, and it succeeds exactly when the outcomes of its units are tolerated, with their
outputs in order. Units begin in waves of consecutive units that are no larger than may run side by
side, and no wave begins after one that makes the state fail. -/
theorem runUnits_settles (visit : Visit) (processor : Runner) (limits : MapLimits)
    (concurrency : Option Nat) (units : List WorkUnit) (outcomes : Nat → Outcome)
    (fixed : ∀ place unit, units[place]? = some unit → ∀ history outcome, History.Calm history →
      Run (.alone (processor unit.input (visit.frame.itemChild visit.name place unit.shown)))
        history (.alone (.done outcome)) → outcome = outcomes place)
    {history : History} {process : Process (Except Fault (List Json))}
    (run : Run (.alone (runUnits visit processor limits concurrency units).run) history process)
    (calm : history.Calm) :
    (∀ result, process = .alone (.done result) →
      ((∃ outputs, result = .ok outputs) ↔ limits.Tolerates outcomes (withPlaces units)) ∧
      ∀ outputs, result = .ok outputs →
        outputs = (List.range units.length).map fun place => outputOf (outcomes place)) ∧
    (Acc Process.Leads process ∧
      ∃ further result, Run process further (.alone (.done result)) ∧ further.Calm) ∧
    width process ≤ waveSize concurrency units.length ∧
    (wavesOf concurrency units).flatten = withPlaces units ∧
    (∀ wave ∈ wavesOf concurrency units, wave.length ≤ waveSize concurrency units.length) ∧
    ∃ started ≤ (wavesOf concurrency units).length,
      history.gathered = groupsOf visit processor (wavesOf concurrency units) started ∧
      (before (wavesOf concurrency units) started).map Prod.fst =
        List.range (before (wavesOf concurrency units) started).length ∧
      ∀ failing, ¬ limits.Tolerates outcomes (before (wavesOf concurrency units) failing) →
        started ≤ failing := by
  have small : ∀ wave ∈ wavesOf concurrency units,
      wave.length ≤ waveSize concurrency units.length := fun wave => chunks_length_le
  have whole := wavesOf_flatten concurrency units
  have fixed : Fixed visit processor outcomes (wavesOf concurrency units) := by
    intro wave isWave index place unit found history outcome calm run
    have isUnit : (place, unit) ∈ withPlaces units := by
      rw [← whole]
      exact List.mem_flatten.mpr ⟨wave, isWave, List.mem_of_getElem? found⟩
    apply fixed place unit (mem_withPlaces.mp isUnit) history outcome calm
    simpa only [runUnit, found] using run
  have start : Stage visit processor limits outcomes units.length (wavesOf concurrency units) 0
      (.alone (runUnits visit processor limits concurrency units).run) :=
    .resting (Nat.zero_le _) (MapTally.describes_start _ List.map_const') ⟨by simp, by
      cases limits.tolerance <;> simp [failedWeight]⟩
  rcases start.run fixed run calm with ⟨started, stage, groups⟩
  have accessible := run.accessible (Program.terminates _)
  refine ⟨?_, ⟨accessible, Process.ends accessible⟩, stage.width_le small, whole, small, started,
    stage.started_le, ?_, before_places concurrency units started, ?_⟩
  · intro result same
    rw [same] at stage
    have settled := stage.result (by
      rw [whole]
      exact fun place => isAmong_withPlaces)
    rwa [whole] at settled
  · simpa [groupsOf] using groups.symm
  · exact fun failing => stage.started_le_failing

/-- A processor that gives back its input, and fails on `null`. -/
def echo : Runner
  | .null, _ => .done (.error (.reserved .taskFailed ""))
  | input, _ => .done (.ok input)

/-- An attempt of a Map by the name of `Each`. -/
def eachVisit : Visit :=
  { name := "Each", common := {}, raw := .null, effective := .null, env := default
    frame := default }

/-- Two items, of which one may fail. -/
def eachLimits : MapLimits :=
  { state := "Each", items := 2, tolerance := some 1, cancelWave := true }

def eachUnits : List WorkUnit := [⟨1, .null, .null⟩, ⟨1, .null, .bool true⟩]

/-- What the two units do one after the other. -/
def eachHistory : History :=
  [([], .gathered 1 (runUnit eachVisit echo [(0, ⟨1, .null, .null⟩)])),
    ([], .absorbed 0 (.finished (.error (.reserved .taskFailed "")))), ([], .resumed),
    ([], .gathered 1 (runUnit eachVisit echo [(1, ⟨1, .null, .bool true⟩)])),
    ([], .absorbed 0 (.finished (.ok (.bool true)))), ([], .resumed)]

theorem run_each : Run (.alone (runUnits eachVisit echo eachLimits (some 1) eachUnits).run)
    eachHistory (.alone (.done (.ok [.null, .bool true]))) := by
  refine .step (.gather 1 _ _ _ _) ?_
  refine .step (.absorb (by decide) (.finished _)) ?_
  refine .step (.resume _ _ _ _ _) ?_
  refine .step (.gather 1 _ _ _ _) ?_
  refine .step (.absorb (by decide) (.finished _)) ?_
  refine .step (.resume _ _ _ _ _) ?_
  exact .refl _

theorem eachHistory_calm : eachHistory.Calm := by
  intro entry isEntry
  simp only [eachHistory, List.mem_cons, List.not_mem_nil, or_false] at isEntry
  rcases isEntry with rfl | rfl | rfl | rfl | rfl | rfl <;> exact fun _ same => nomatch same

/-- The outcomes of the two units. -/
def eachOutcomes : Nat → Outcome
  | 0 => .error (.reserved .taskFailed "")
  | _ => .ok (.bool true)

theorem eachOutcomes_fixed (place : Nat) (unit : WorkUnit) (found : eachUnits[place]? = some unit)
    (history : History) (outcome : Outcome) (_ : History.Calm history)
    (run : Run
      (.alone (echo unit.input (eachVisit.frame.itemChild eachVisit.name place unit.shown)))
      history (.alone (.done outcome))) : outcome = eachOutcomes place := by
  match place with
  | 0 =>
      cases found
      cases run with
      | refl => rfl
      | step step => cases step
  | 1 =>
      cases found
      cases run with
      | refl => rfl
      | step step => cases step
  | place + 2 => cases found

theorem runUnits_settles_each :
    eachHistory.Calm ∧ eachLimits.Tolerates eachOutcomes (withPlaces eachUnits) :=
  ⟨eachHistory_calm,
    ((runUnits_settles eachVisit echo eachLimits (some 1) eachUnits eachOutcomes
      eachOutcomes_fixed run_each eachHistory_calm).1 _ rfl).1.mp ⟨_, rfl⟩⟩

end Workflow.Engine
