import Mathlib.Data.List.Forall2
import Mathlib.Tactic.Linarith
import Mathlib.Tactic.Positivity
import Mathlib.Tactic.Ring
import Workflow.Path.Select

/-!
# Slices

A slice `[start:stop:step]` means what it means in Python: the places `first`, `first + step`,
`first + 2 * step` and so on, as long as they lie before the stop, where `first` and the stop are
the bounds counted from the end if they are negative, and moved to the nearer end of the list if
they lie outside of it. `Bounds.Lists` says so of each place by itself, without a walk.

The walk of a selector reaches exactly these places. It takes one step more than it has to, though,
so a last step that leaves the signed 64-bit integers makes it fail although all places are found.
-/

namespace Workflow.Path

/-! ## Bounds -/

/-- A slice whose bounds are both known and lie within the list, or at its ends. -/
structure Bounds where
  first : Int
  stop : Int
  step : Int

namespace Bounds

/-- A bound among the places of a list. A walk backwards stops in front of the first place, and
starts at the last one. -/
def adjusted (length : Nat) (step bound : Int) : Int :=
  if bound < 0 then
    if length + bound < 0 then (if step < 0 then -1 else 0) else length + bound
  else if length ≤ bound then (if step < 0 then length - 1 else length) else bound

/-- The bounds of a slice of a list. A bound that is missing is an end of the list, and a step that
is missing is one. -/
def ofSlice (length : Nat) (start stop step : Option Int) : Bounds :=
  let step := step.getD 1
  { first := (start.map (adjusted length step)).getD (if step < 0 then length - 1 else 0)
    stop := (stop.map (adjusted length step)).getD (if step < 0 then -1 else length)
    step }

variable (bounds : Bounds)

/-- The place that a number of steps leads to. -/
def place (steps : Nat) : Int := bounds.first + steps * bounds.step

/-- Whether the place that a number of steps leads to lies before the stop. No place does when there
are no steps to take. -/
def Reaches (steps : Nat) : Prop :=
  (0 < bounds.step ∧ bounds.place steps < bounds.stop) ∨
    (bounds.step < 0 ∧ bounds.stop < bounds.place steps)

instance (steps : Nat) : Decidable (bounds.Reaches steps) :=
  inferInstanceAs (Decidable (_ ∨ _))

/-- The places of a slice are those that lie before the stop, in the order of the steps. -/
def Lists (places : List Nat) : Prop :=
  ∀ steps : Nat, places[steps]? =
    if bounds.Reaches steps then some (bounds.place steps).toNat else none

/-- The bounds after one step. -/
def next : Bounds := { bounds with first := bounds.first + bounds.step }

variable {bounds}

theorem place_succ (steps : Nat) :
    bounds.place (steps + 1) = bounds.place steps + bounds.step := by
  simp only [place, Nat.cast_add, Nat.cast_one]
  ring

theorem place_next (steps : Nat) : bounds.next.place steps = bounds.place (steps + 1) := by
  simp only [place, next, Nat.cast_add, Nat.cast_one]
  ring

theorem reaches_next {steps : Nat} : bounds.next.Reaches steps ↔ bounds.Reaches (steps + 1) := by
  simp only [Reaches, place_next]
  rfl

/-- The places go on in one direction, so nothing lies before the stop again. -/
theorem Reaches.zero {steps : Nat} (reaches : bounds.Reaches steps) : bounds.Reaches 0 := by
  simp only [Reaches, place] at reaches ⊢
  rcases reaches with ⟨forward, before⟩ | ⟨backward, before⟩
  · have : 0 ≤ steps * bounds.step := by positivity
    exact Or.inl ⟨forward, by push_cast; linarith⟩
  · have : steps * bounds.step ≤ 0 := mul_nonpos_of_nonneg_of_nonpos (by positivity) backward.le
    exact Or.inr ⟨backward, by push_cast; linarith⟩

theorem Lists.unique {places others : List Nat} (lists : bounds.Lists places)
    (listsOthers : bounds.Lists others) : places = others :=
  List.ext_getElem? fun steps => (lists steps).trans (listsOthers steps).symm

theorem lists_nil (stays : ¬bounds.Reaches 0) : bounds.Lists [] := by
  intro steps
  rw [if_neg fun reaches => stays reaches.zero, List.getElem?_nil]

theorem lists_cons {places : List Nat} (reaches : bounds.Reaches 0)
    (later : bounds.next.Lists places) : bounds.Lists (bounds.first.toNat :: places) := by
  intro steps
  cases steps with
  | zero => simp [reaches, place]
  | succ steps => simp only [List.getElem?_cons_succ, later steps, reaches_next, place_next]

theorem Lists.exists_steps {places : List Nat} (lists : bounds.Lists places) {place : Nat}
    (isPlace : place ∈ places) :
    ∃ steps, bounds.Reaches steps ∧ (bounds.place steps).toNat = place ∧
      places[steps]? = some place := by
  obtain ⟨steps, found⟩ := List.mem_iff_getElem?.mp isPlace
  have same := lists steps
  rw [found] at same
  split at same
  · next reaches => exact ⟨steps, reaches, (Option.some.inj same).symm, found⟩
  · cases same

/-! ### Bounds of a list -/

section OfSlice

variable {length : Nat} {start stop step : Option Int}

theorem clampBound_eq_adjusted (length : Nat) {step : Int} (moves : step ≠ 0) (bound : Int) :
    clampBound length (decide (0 < step)) bound = adjusted length step bound := by
  by_cases forward : 0 < step
  · simp only [clampBound, adjusted, decide_eq_true forward, if_true]
    split <;> split <;> omega
  · simp only [clampBound, adjusted, decide_eq_false forward, Bool.false_eq_true, if_false]
    split <;> split <;> omega

theorem adjusted_bounds (length : Nat) (step bound : Int) :
    (0 ≤ step → 0 ≤ adjusted length step bound ∧ adjusted length step bound ≤ length) ∧
      (step < 0 → -1 ≤ adjusted length step bound ∧ adjusted length step bound < length) := by
  simp only [adjusted]
  constructor <;> intro direction <;> constructor <;> split <;> split <;> omega

theorem first_bounds :
    (0 < (ofSlice length start stop step).step → 0 ≤ (ofSlice length start stop step).first) ∧
      ((ofSlice length start stop step).step < 0 →
        (ofSlice length start stop step).first < length) := by
  cases start with
  | none =>
      constructor <;> intro direction <;>
        simp only [ofSlice, Option.map_none, Option.getD_none] at direction ⊢ <;> split <;> omega
  | some bound =>
      have bounds := adjusted_bounds length (step.getD 1) bound
      exact ⟨fun forward => (bounds.1 forward.le).1, fun backward => (bounds.2 backward).2⟩

theorem stop_bounds :
    (0 < (ofSlice length start stop step).step →
        (ofSlice length start stop step).stop ≤ length) ∧
      ((ofSlice length start stop step).step < 0 →
        -1 ≤ (ofSlice length start stop step).stop) := by
  cases stop with
  | none =>
      constructor <;> intro direction <;>
        simp only [ofSlice, Option.map_none, Option.getD_none] at direction ⊢ <;> split <;> omega
  | some bound =>
      have bounds := adjusted_bounds length (step.getD 1) bound
      exact ⟨fun forward => (bounds.1 forward.le).2, fun backward => (bounds.2 backward).1⟩

/-- What lies before the stop is a place of the list. -/
theorem Reaches.inside {steps : Nat} (reaches : (ofSlice length start stop step).Reaches steps) :
    0 ≤ (ofSlice length start stop step).place steps ∧
      (ofSlice length start stop step).place steps < length := by
  have first := @first_bounds length start stop step
  have last := @stop_bounds length start stop step
  generalize ofSlice length start stop step = bounds at *
  rw [Reaches, place] at reaches
  rw [place]
  rcases reaches with ⟨forward, before⟩ | ⟨backward, before⟩
  · have : 0 ≤ steps * bounds.step := by positivity
    have := first.1 forward
    have := last.1 forward
    omega
  · have : steps * bounds.step ≤ 0 := mul_nonpos_of_nonneg_of_nonpos (by positivity) backward.le
    have := first.2 backward
    have := last.2 backward
    omega

/-- One step for each place of the list, and one more, lead to the stop. -/
theorem not_reaches_length : ¬(ofSlice length start stop step).Reaches (length + 1) := by
  intro reaches
  have inside := reaches.inside
  have begins := reaches.zero.inside
  rw [Reaches] at reaches
  generalize ofSlice length start stop step = bounds at *
  simp only [place] at inside begins
  rcases reaches with ⟨forward, before⟩ | ⟨backward, before⟩
  · have : (length + 1 : Int) * 1 ≤ (length + 1) * bounds.step := by gcongr; omega
    push_cast at inside begins
    omega
  · have : (length + 1 : Int) * bounds.step ≤ (length + 1) * (-1) := by gcongr; omega
    push_cast at inside begins
    omega

end OfSlice

/-! ## Walks -/

/-- Whether what is one step behind a place is no signed 64-bit integer. -/
def Overruns (step : Int) (place : Nat) : Prop :=
  Number.maxSigned < place + step ∨ place + step < Number.minSigned

instance (step : Int) (place : Nat) : Decidable (Overruns step place) :=
  inferInstanceAs (Decidable (_ ∨ _))

/-- Places that a walk takes unless it cannot step on from one of them. -/
def guarded (step : Int) (places : List Nat) : Except Overrun (List Nat) :=
  match places.find? (Overruns step ·) with
  | some place => .error ⟨place, step⟩
  | none => .ok places

theorem guarded_cons (step : Int) (place : Nat) (places : List Nat) :
    guarded step (place :: places) =
      if Overruns step place then .error ⟨place, step⟩
      else (guarded step places).map (place :: ·) := by
  simp only [guarded, List.find?_cons]
  by_cases overruns : Overruns step place
  · simp [overruns]
  · simp only [overruns, decide_false, if_false]
    cases places.find? (Overruns step ·) <;> rfl

theorem reaches_zero_iff (moves : bounds.step ≠ 0) :
    bounds.Reaches 0 ↔
      if decide (0 < bounds.step) then bounds.first < bounds.stop
        else bounds.stop < bounds.first := by
  by_cases forward : 0 < bounds.step <;> simp [Reaches, place, forward] <;> omega

/-- A walk with fuel enough takes the places before the stop, up to one that it cannot step on
from. -/
theorem walk_eq_guarded (bounds : Bounds) {fuel : Nat} (moves : bounds.step ≠ 0)
    (natural : ∀ steps, bounds.Reaches steps → 0 ≤ bounds.place steps)
    (ends : ¬bounds.Reaches fuel) :
    ∃ places, bounds.Lists places ∧
      walk fuel (decide (0 < bounds.step)) bounds.step bounds.stop bounds.first =
        guarded bounds.step places := by
  induction fuel generalizing bounds with
  | zero => exact ⟨[], lists_nil ends, rfl⟩
  | succ fuel ih =>
      by_cases reaches : bounds.Reaches 0
      · have laterNatural : ∀ steps, bounds.next.Reaches steps → 0 ≤ bounds.next.place steps := by
          intro steps reachesLater
          rw [place_next]
          exact natural _ (reaches_next.mp reachesLater)
        obtain ⟨places, lists, walks⟩ :=
          ih bounds.next moves laterNatural fun goesOn => ends (reaches_next.mp goesOn)
        refine ⟨_, lists_cons reaches lists, ?_⟩
        have natural : (bounds.first.toNat : Int) = bounds.first := by
          have := natural 0 reaches
          simp only [place] at this
          omega
        rw [walk, if_pos ((reaches_zero_iff moves).mp reaches), guarded_cons]
        simp only [Overruns, natural]
        split
        · rfl
        · exact congrArg (Except.map _) walks
      · rw [walk, if_neg fun goesOn => reaches ((reaches_zero_iff moves).mpr goesOn)]
        exact ⟨[], lists_nil reaches, rfl⟩

/-- The places of a slice, walked by a selector. -/
theorem slicePlaces_eq_guarded (length : Nat) (start stop step : Option Int) :
    ∃ places, (ofSlice length start stop step).Lists places ∧
      slicePlaces length start stop step = guarded (step.getD 1) places := by
  by_cases moves : step.getD 1 = 0
  · refine ⟨[], lists_nil fun reaches => ?_, by simp [slicePlaces, moves, guarded]⟩
    have stays : (ofSlice length start stop step).step = 0 := moves
    rw [Reaches, stays] at reaches
    omega
  · obtain ⟨places, lists, walks⟩ := walk_eq_guarded (ofSlice length start stop step) moves
      (fun _ reaches => reaches.inside.1) not_reaches_length
    refine ⟨places, lists, Eq.trans ?_ walks⟩
    have begins : (if decide (0 < step.getD 1) then 0 else (length : Int) - 1) =
        if step.getD 1 < 0 then (length : Int) - 1 else 0 := by
      by_cases forward : 0 < step.getD 1 <;> simp [forward] <;> omega
    have ends : (if decide (0 < step.getD 1) then (length : Int) else -1) =
        if step.getD 1 < 0 then -1 else (length : Int) := by
      by_cases forward : 0 < step.getD 1 <;> simp [forward] <;> omega
    have clamps := funext (clampBound_eq_adjusted length moves)
    simp only [slicePlaces, if_neg moves, ofSlice, begins, ends, clamps]
    rfl

/-! ## Items -/

/-- The items at places of a list, one for each place. -/
theorem forall₂_filterMap {items : List Json} {places : List Nat}
    (inside : ∀ place ∈ places, place < items.length) :
    List.Forall₂ (fun place item => items[place]? = some item) places
      (places.filterMap fun place => items[place]?) := by
  induction places with
  | nil => exact .nil
  | cons place rest ih =>
      have found := List.getElem?_eq_getElem (inside place List.mem_cons_self)
      rw [List.filterMap_cons, found]
      exact .cons found (ih fun other isOther => inside other (List.mem_cons_of_mem _ isOther))

/-- Only the last step of a slice can leave the signed 64-bit integers, and only upwards. -/
theorem Lists.last_of_overruns {length : Nat} {start stop step : Option Int} {places : List Nat}
    (lists : (ofSlice length start stop step).Lists places)
    (fits : length ≤ Number.maxSigned) (signed : Number.minSigned ≤ step.getD 1) {place : Nat}
    (isPlace : place ∈ places) (overruns : Overruns (step.getD 1) place) :
    places.getLast? = some place ∧ Number.maxSigned < place + step.getD 1 := by
  obtain ⟨steps, reaches, same, found⟩ := lists.exists_steps isPlace
  have here := reaches.inside
  have above : Number.maxSigned < place + step.getD 1 := by
    rw [Overruns] at overruns
    omega
  have stops : ¬(ofSlice length start stop step).Reaches (steps + 1) := by
    intro reachesNext
    have there := reachesNext.inside
    have next : (ofSlice length start stop step).place (steps + 1) = place + step.getD 1 := by
      rw [← same, Int.toNat_of_nonneg here.1]
      exact place_succ steps
    omega
  have behind := lists (steps + 1)
  rw [if_neg stops, List.getElem?_eq_none_iff] at behind
  have isInside : steps < places.length := (List.getElem?_eq_some_iff.mp found).1
  refine ⟨?_, above⟩
  rw [List.getLast?_eq_getElem?, show places.length - 1 = steps by omega, found]

end Bounds

/-- A slice selects the items at the places between its bounds, in the order of its steps, unless
one of these places cannot be stepped on from. In a list whose places are signed 64-bit integers
that can only be the last place, when the step is too long to be added to it. -/
theorem apply_slice_places (items : List Json) (start stop step : Option Int) :
    ∃ places found,
      (Bounds.ofSlice items.length start stop step).Lists places ∧
      List.Forall₂ (fun place item => items[place]? = some item) places found ∧
      (Selector.slice start stop step).apply (.array items) =
        (match places.find? (Bounds.Overruns (step.getD 1) ·) with
        | some place => .error ⟨place, step.getD 1⟩
        | none => .ok found) ∧
      (items.length ≤ Number.maxSigned → Number.minSigned ≤ step.getD 1 → ∀ place ∈ places,
        Bounds.Overruns (step.getD 1) place →
          places.getLast? = some place ∧ Number.maxSigned < place + step.getD 1) := by
  obtain ⟨places, lists, walks⟩ := Bounds.slicePlaces_eq_guarded items.length start stop step
  have inside : ∀ place ∈ places, place < items.length := by
    intro place isPlace
    obtain ⟨steps, reaches, same, _⟩ := lists.exists_steps isPlace
    have := reaches.inside
    omega
  refine ⟨places, _, lists, Bounds.forall₂_filterMap inside, ?_, ?_⟩
  · rw [Selector.apply, slice, walks, Bounds.guarded]
    cases places.find? (Bounds.Overruns (step.getD 1) ·) <;> rfl
  · intro fits signed place isPlace overruns
    exact lists.last_of_overruns fits signed isPlace overruns

/-- A slice that walks backwards from far behind the list to far in front of it. -/
theorem apply_slice_places_backwards :
    (3 : Nat) ≤ Number.maxSigned ∧ Number.minSigned ≤ (some (-2 : Int)).getD 1 ∧
      (Selector.slice (some Number.maxSigned) (some Number.minSigned) (some (-2))).apply
        (.array [.nat 10, .nat 11, .nat 12]) = .ok [.nat 12, .nat 10] := by
  obtain ⟨places, found, lists, areFound, applies, _⟩ :=
    apply_slice_places [.nat 10, .nat 11, .nat 12] (some Number.maxSigned)
      (some Number.minSigned) (some (-2))
  have isList : (Bounds.ofSlice 3 (some Number.maxSigned) (some Number.minSigned)
      (some (-2))).Lists [2, 0] := by
    intro steps
    match steps with
    | 0 => rfl
    | 1 => rfl
    | steps + 2 =>
        have isBounds : Bounds.ofSlice 3 (some Number.maxSigned) (some Number.minSigned)
            (some (-2)) = ⟨2, -1, -2⟩ := rfl
        rw [isBounds, if_neg]
        · rfl
        · simp only [Bounds.Reaches, Bounds.place]
          omega
  cases lists.unique isList
  cases areFound with
  | cons first rest =>
      cases rest with
      | cons second rest =>
          cases rest
          cases first
          cases second
          exact ⟨by decide, by decide, applies⟩

/-- A slice that has reached its only place, the last of the list, and cannot step on from it. -/
theorem slice_overruns :
    (Bounds.ofSlice 2 (some 1) none (some Number.maxSigned)).Lists [1] ∧
      (Selector.slice (some 1) none (some Number.maxSigned)).apply (.array [.nat 0, .nat 1]) =
        .error ⟨1, Number.maxSigned⟩ := by
  refine ⟨fun steps => ?_, rfl⟩
  match steps with
  | 0 => rfl
  | steps + 1 =>
      have isBounds : Bounds.ofSlice 2 (some 1) none (some Number.maxSigned) =
          ⟨1, 2, Number.maxSigned⟩ := rfl
      rw [isBounds, if_neg]
      · rfl
      · simp only [Bounds.Reaches, Bounds.place, Number.maxSigned]
        omega

end Workflow.Path
