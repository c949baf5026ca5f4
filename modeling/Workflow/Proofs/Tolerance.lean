import Mathlib.Algebra.GroupWithZero.Nat
import Mathlib.Data.List.Perm.Basic
import Workflow.Engine.Map
import Workflow.Proofs.Interleaving

/-!
# Tolerance

What a Map tolerates is said here of the units themselves: none of them may end in a fault that is
no failure, and the weights of those that fail may add up to the tolerance, or to nothing where
none is set. The tally of a Map sees one completion after the other. It is proved to describe the
units it has seen, in whatever order they came, so that its verdict is about what they tolerate.
-/

namespace Workflow.Engine

/-! ## Outcomes of units -/

/-- Whether an outcome is a failure, which may be tolerated. -/
def isFailed : Outcome → Bool
  | .error (.failed _) => true
  | _ => false

/-- Whether an outcome is a fault that is no failure. -/
def isFatal : Outcome → Bool
  | .ok _ => false
  | .error fault => fault.failure?.isNone

/-- What a unit leaves at its place: its output, or `null` when it did not succeed. -/
def outputOf : Outcome → Json
  | .ok output => output
  | .error _ => .null

/-- Whether the unit at a place is among some units. -/
def isAmong (units : List (Nat × WorkUnit)) (place : Nat) : Bool :=
  units.any fun entry => entry.1 == place

/-- How many items of some units failed. -/
def failedWeight (outcomes : Nat → Outcome) (units : List (Nat × WorkUnit)) : Nat :=
  ((units.filter fun entry => isFailed (outcomes entry.1)).map fun entry => entry.2.weight).sum

/-- No unit ends in a fault that is no failure, and no more units fail than are tolerated. -/
def MapLimits.Tolerates (limits : MapLimits) (outcomes : Nat → Outcome)
    (units : List (Nat × WorkUnit)) : Prop :=
  (∀ entry ∈ units, isFatal (outcomes entry.1) = false) ∧
    match limits.tolerance with
    | none => ∀ entry ∈ units, isFailed (outcomes entry.1) = false
    | some tolerance => failedWeight outcomes units ≤ tolerance

variable {limits : MapLimits} {outcomes : Nat → Outcome}

theorem isAmong_cons_self (place : Nat) (unit : WorkUnit) (units : List (Nat × WorkUnit)) :
    isAmong ((place, unit) :: units) place = true := by
  simp [isAmong]

theorem isAmong_cons_of_ne {place other : Nat} (differs : place ≠ other) (unit : WorkUnit)
    (units : List (Nat × WorkUnit)) :
    isAmong ((place, unit) :: units) other = isAmong units other := by
  simp only [isAmong]
  rw [List.any_cons, beq_false_of_ne differs, Bool.false_or]

theorem failedWeight_cons (outcomes : Nat → Outcome) (entry : Nat × WorkUnit)
    (units : List (Nat × WorkUnit)) :
    failedWeight outcomes (entry :: units) =
      (if isFailed (outcomes entry.1) then entry.2.weight else 0) +
        failedWeight outcomes units := by
  simp only [failedWeight]
  by_cases failed : isFailed (outcomes entry.1) = true
  · simp [failed]
  · simp [failed]

theorem failedWeight_le_of_sublist {units further : List (Nat × WorkUnit)}
    (part : units.Sublist further) :
    failedWeight outcomes units ≤ failedWeight outcomes further := by
  induction part with
  | slnil => exact Nat.le_refl _
  | cons entry _ ih =>
      rw [failedWeight_cons]
      omega
  | cons_cons entry _ ih =>
      rw [failedWeight_cons, failedWeight_cons]
      omega

theorem failedWeight_le_of_subperm {units further : List (Nat × WorkUnit)}
    (part : units.Subperm further) :
    failedWeight outcomes units ≤ failedWeight outcomes further := by
  rcases part with ⟨middle, perm, sublist⟩
  have same : failedWeight outcomes middle = failedWeight outcomes units :=
    ((perm.filter _).map _).sum_nat
  rw [← same]
  exact failedWeight_le_of_sublist sublist

/-- What is tolerated of some units is tolerated of fewer. -/
theorem MapLimits.Tolerates.of_subperm {units further : List (Nat × WorkUnit)}
    (tolerated : limits.Tolerates outcomes further) (part : units.Subperm further) :
    limits.Tolerates outcomes units := by
  rcases tolerated with ⟨noFatal, few⟩
  refine ⟨fun entry isUnit => noFatal entry (part.subset isUnit), ?_⟩
  split at few
  case h_1 unset =>
    exact fun entry isUnit => few entry (part.subset isUnit)
  case h_2 tolerance set =>
    exact Nat.le_trans (failedWeight_le_of_subperm part) few

/-! ## What a tally describes -/

/-- A tally says of the units it has seen how many items failed, whether that is too many, whether
there was a fault, and what they left at their places. -/
structure MapTally.Describes (limits : MapLimits) (outcomes : Nat → Outcome) (total : Nat)
    (seen : List (Nat × WorkUnit)) (tally : MapTally) : Prop where
  failed : tally.failed = failedWeight outcomes seen
  first : tally.first = none ↔
    (limits.tolerance = none → ∀ entry ∈ seen, isFailed (outcomes entry.1) = false)
  exceeded : tally.exceeded = false ↔
    ∀ tolerance, limits.tolerance = some tolerance → failedWeight outcomes seen ≤ tolerance
  fault : tally.fault = none ↔ ∀ entry ∈ seen, isFatal (outcomes entry.1) = false
  outputs : tally.outputs = (List.range total).map fun place =>
    if isAmong seen place then outputOf (outcomes place) else .null

namespace MapTally

theorem describes_start (total : Nat) {outputs : List Json}
    (empty : outputs = List.replicate total .null) :
    Describes limits outcomes total [] { outputs } := by
  refine ⟨rfl, by simp, by simp [failedWeight], by simp, ?_⟩
  simp [empty, isAmong, List.map_const']

/-- A tally fails the state exactly when what it has seen is not tolerated. -/
theorem Describes.verdict_eq_none {total : Nat} {seen : List (Nat × WorkUnit)}
    {tally : MapTally} (describes : tally.Describes limits outcomes total seen) :
    tally.verdict limits = none ↔ limits.Tolerates outcomes seen := by
  have clear : tally.verdict limits = none ↔
      tally.fault = none ∧ tally.first = none ∧ tally.exceeded = false := by
    rw [MapTally.verdict]
    split <;> simp_all
  rw [clear, describes.fault, describes.first, describes.exceeded]
  rw [MapLimits.Tolerates]
  cases limits.tolerance <;> simp

theorem set_outputs {total place : Nat} {seen : List (Nat × WorkUnit)} {unit : WorkUnit}
    {output : Json} (same : output = outputOf (outcomes place)) :
    ((List.range total).map fun other =>
      if isAmong seen other then outputOf (outcomes other) else .null).set place output =
    (List.range total).map fun other =>
      if isAmong ((place, unit) :: seen) other then outputOf (outcomes other) else .null := by
  apply List.ext_getElem
  · simp
  · intro index left right
    by_cases here : place = index
    · subst here
      simp [isAmong_cons_self, same]
    · simp [isAmong_cons_of_ne here, List.getElem_set_ne here]

theorem keep_outputs {total place : Nat} (seen : List (Nat × WorkUnit)) (unit : WorkUnit)
    (isNull : outputOf (outcomes place) = .null) :
    ((List.range total).map fun other =>
      if isAmong seen other then outputOf (outcomes other) else .null) =
    (List.range total).map fun other =>
      if isAmong ((place, unit) :: seen) other then outputOf (outcomes other) else .null := by
  apply List.map_congr_left
  intro other _
  by_cases here : place = other
  · subst here
    simp [isNull]
  · rw [isAmong_cons_of_ne here]

/-- The order in which units were seen does not matter. -/
theorem Describes.perm {seen other : List (Nat × WorkUnit)} {tally : MapTally}
    (describes : tally.Describes limits outcomes total seen) (perm : seen.Perm other) :
    tally.Describes limits outcomes total other := by
  have weight : failedWeight outcomes seen = failedWeight outcomes other :=
    ((perm.filter _).map _).sum_nat
  have among : isAmong seen = isAmong other := funext fun place => perm.any_eq
  refine ⟨?_, ?_, ?_, ?_, ?_⟩
  · rw [← weight]
    exact describes.failed
  · simpa [perm.mem_iff] using describes.first
  · rw [← weight]
    exact describes.exceeded
  · simpa [perm.mem_iff] using describes.fault
  · rw [← among]
    exact describes.outputs

/-! ## One more unit -/

theorem absorb_failed (limits : MapLimits) (tally : MapTally) (place weight : Nat)
    (failure : Failure) :
    (tally.absorb limits place weight (.finished (.error (.failed failure)))).tally =
      tally.fail limits weight failure := by
  simp only [MapTally.absorb]
  split <;> rfl

theorem absorb_fatal (limits : MapLimits) (tally : MapTally) (place weight : Nat)
    {fault : Fault} (fatal : isFatal (.error fault) = true) :
    tally.absorb limits place weight (.finished (.error fault)) =
      .stop { tally with fault := some fault } := by
  cases fault with
  | failed failure => cases fatal
  | _ => rfl

theorem Describes.absorb_ok {total place : Nat} {seen : List (Nat × WorkUnit)}
    {tally : MapTally} (describes : tally.Describes limits outcomes total seen) (unit : WorkUnit)
    {output : Json} (outcome : outcomes place = .ok output) :
    MapTally.Describes limits outcomes total ((place, unit) :: seen)
      { tally with outputs := tally.outputs.set place output } := by
  have weight := failedWeight_cons outcomes (place, unit) seen
  simp only [outcome, isFailed, Bool.false_eq_true, if_false, Nat.zero_add] at weight
  refine ⟨?_, ?_, ?_, ?_, ?_⟩
  · rw [weight]
    exact describes.failed
  · simpa [outcome, isFailed] using describes.first
  · rw [weight]
    exact describes.exceeded
  · simpa [outcome, isFatal] using describes.fault
  · have isOutput : output = outputOf (outcomes place) := by rw [outcome, outputOf]
    rw [describes.outputs]
    exact set_outputs isOutput

theorem Describes.fail {total place : Nat} {seen : List (Nat × WorkUnit)}
    {tally : MapTally} (describes : tally.Describes limits outcomes total seen) (unit : WorkUnit)
    {failure : Failure} (outcome : outcomes place = .error (.failed failure)) :
    MapTally.Describes limits outcomes total ((place, unit) :: seen)
      (tally.fail limits unit.weight failure) := by
  have weight := failedWeight_cons outcomes (place, unit) seen
  simp only [outcome, isFailed, if_true] at weight
  have isNull : outputOf (outcomes place) = .null := by rw [outcome, outputOf]
  have sameOutputs := describes.outputs.trans (keep_outputs seen unit isNull)
  have sameFault : tally.fault = none ↔
      ∀ entry ∈ (place, unit) :: seen, isFatal (outcomes entry.1) = false := by
    simpa [outcome, isFatal, Fault.failure?] using describes.fault
  have sum : tally.failed + unit.weight = failedWeight outcomes ((place, unit) :: seen) := by
    rw [weight, describes.failed, Nat.add_comm]
  rw [MapTally.fail]
  cases tolerance : limits.tolerance with
  | none =>
      refine ⟨sum, ?_, ?_, sameFault, sameOutputs⟩
      · simp [tolerance, outcome, isFailed]
      · simpa [tolerance] using describes.exceeded
  | some tolerated =>
      refine ⟨sum, ?_, ?_, sameFault, sameOutputs⟩
      · simpa [tolerance] using describes.first
      · have before := describes.exceeded
        simp only [tolerance, Option.some.injEq, forall_eq'] at before ⊢
        rw [Bool.or_eq_false_iff, before, sum, decide_eq_false_iff_not, weight]
        omega

theorem Describes.absorb_fatal {total place : Nat} {seen : List (Nat × WorkUnit)}
    {tally : MapTally} (describes : tally.Describes limits outcomes total seen) (unit : WorkUnit)
    {fault : Fault} (outcome : outcomes place = .error fault)
    (fatal : isFatal (.error fault) = true) :
    MapTally.Describes limits outcomes total ((place, unit) :: seen)
      { tally with fault := some fault } := by
  have notFailed : isFailed (outcomes place) = false := by
    rw [outcome]
    cases fault with
    | failed failure => cases fatal
    | _ => rfl
  have weight := failedWeight_cons outcomes (place, unit) seen
  simp only [notFailed, Bool.false_eq_true, if_false, Nat.zero_add] at weight
  have isNull : outputOf (outcomes place) = .null := by rw [outcome, outputOf]
  refine ⟨?_, ?_, ?_, ?_, describes.outputs.trans (keep_outputs seen unit isNull)⟩
  · rw [weight]
    exact describes.failed
  · simpa [notFailed] using describes.first
  · rw [weight]
    exact describes.exceeded
  · simp [outcome, fatal]

/-- A tally that takes in the outcome of one more unit describes that unit too. -/
theorem Describes.absorb {total : Nat} {seen : List (Nat × WorkUnit)} {tally : MapTally}
    (describes : tally.Describes limits outcomes total seen) (place : Nat) (unit : WorkUnit) :
    (tally.absorb limits place unit.weight (.finished (outcomes place))).tally.Describes limits
      outcomes total ((place, unit) :: seen) := by
  match outcome : outcomes place with
  | .ok output => exact describes.absorb_ok unit outcome
  | .error fault =>
      by_cases fatal : isFatal (.error fault) = true
      · rw [MapTally.absorb_fatal limits tally place unit.weight fatal]
        exact describes.absorb_fatal unit outcome fatal
      · cases fault with
        | failed failure =>
            rw [absorb_failed]
            exact describes.fail unit outcome
        | _ => exact absurd rfl fatal

/-- A tally stops its wave only when the state is going to fail. -/
theorem Describes.not_tolerates_of_stops {total place : Nat} {seen : List (Nat × WorkUnit)}
    {tally : MapTally} (describes : tally.Describes limits outcomes total seen) (unit : WorkUnit)
    (stops : (tally.absorb limits place unit.weight (.finished (outcomes place))).stops = true) :
    ¬ limits.Tolerates outcomes ((place, unit) :: seen) := by
  have after := describes.absorb place unit
  intro tolerated
  have clear := after.verdict_eq_none.mpr tolerated
  match outcome : outcomes place with
  | .ok output =>
      rw [outcome] at stops
      cases stops
  | .error fault =>
      rw [outcome] at stops clear
      by_cases fatal : isFatal (.error fault) = true
      · rw [MapTally.absorb_fatal limits tally place unit.weight fatal] at clear
        cases clear
      · cases fault with
        | failed failure =>
            rw [absorb_failed] at clear
            have unset : (tally.fail limits unit.weight failure).first = none ∧
                (tally.fail limits unit.weight failure).exceeded = false := by
              rw [MapTally.verdict] at clear
              split at clear <;> simp_all
            simp [MapTally.absorb, unset.1, unset.2, Progress.stops] at stops
        | _ => exact absurd rfl fatal

end MapTally

end Workflow.Engine
