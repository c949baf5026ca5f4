import Workflow.Definition.Load

/-!
# Reachability

Which states the check of a graph refuses. The walk from the entry sees exactly the states that a
finite chain of successors leads to, whatever cycles there are: what it has seen can be reached, and
whatever a state that was seen goes on to is seen or pending, so in the end, with nothing pending,
what was seen is closed under successors. The walk has steps enough, since a state pays for its
successors once, when it is first seen.
-/

namespace Workflow.Definition

/-! ## Chains of successors -/

/-- A name can be reached from the entry along finitely many successors. -/
inductive Reaches (states : List (String × State)) (startAt : String) : String → Prop where
  | entry : Reaches states startAt startAt
  | step {name target : String} {state : State} (reaches : Reaches states startAt name)
      (isState : Graph.find? name states = some state) (goes : target ∈ state.successors) :
      Reaches states startAt target

/-! ## The walk -/

/-- What a walk has still to look at and what it has seen: all of it can be reached, and whatever a
state that was seen goes on to is seen or pending. -/
structure Walking (states : List (String × State)) (startAt : String)
    (pending seen : List String) : Prop where
  entry : startAt ∈ pending ∨ startAt ∈ seen
  reaches : ∀ name, name ∈ pending ∨ name ∈ seen → Reaches states startAt name
  goesOn : ∀ name ∈ seen, ∀ state, Graph.find? name states = some state →
    ∀ target ∈ state.successors, target ∈ pending ∨ target ∈ seen

namespace Walking

variable {states : List (String × State)} {startAt name : String} {pending seen : List String}

theorem start : Walking states startAt [startAt] [] where
  entry := .inl List.mem_cons_self
  reaches := by
    rintro name (here | there)
    · rw [List.mem_singleton.mp here]
      exact .entry
    · cases there
  goesOn := by simp

/-- A name that was seen before is passed over. -/
theorem skip (walking : Walking states startAt (name :: pending) seen) (known : name ∈ seen) :
    Walking states startAt pending seen where
  entry := by
    rcases walking.entry with here | there
    · rcases List.mem_cons.mp here with rfl | behind
      · exact .inr known
      · exact .inl behind
    · exact .inr there
  reaches := by
    rintro other (behind | there)
    · exact walking.reaches other (.inl (List.mem_cons_of_mem name behind))
    · exact walking.reaches other (.inr there)
  goesOn := by
    intro other isSeen state found target goes
    rcases walking.goesOn other isSeen state found target goes with here | there
    · rcases List.mem_cons.mp here with rfl | behind
      · exact .inr known
      · exact .inl behind
    · exact .inr there

/-- What a name goes on to, if it is the name of a state, becomes pending. -/
theorem visit {more : List String} (walking : Walking states startAt (name :: pending) seen)
    (goes : ∀ state, Graph.find? name states = some state → state.successors ⊆ more)
    (reaches : ∀ target ∈ more, Reaches states startAt target) :
    Walking states startAt (more ++ pending) (name :: seen) where
  entry := by
    have entry := walking.entry
    grind
  reaches := by
    have reached := walking.reaches
    grind
  goesOn := by
    intro other isSeen state found target isTarget
    rcases List.mem_cons.mp isSeen with rfl | before
    · exact .inl (List.mem_append_left pending (goes state found isTarget))
    · have goesOn := walking.goesOn other before state found target isTarget
      grind

end Walking

/-- The number of successors of the states that were not seen. -/
def openCost (seen : List String) : List (String × State) → Nat
  | [] => 0
  | (name, state) :: rest =>
    (if name ∈ seen then 0 else state.successors.length) + openCost seen rest

theorem openCost_cons_le (name : String) (seen : List String) (states : List (String × State)) :
    openCost (name :: seen) states ≤ openCost seen states := by
  induction states with
  | nil => exact Nat.le_refl 0
  | cons entry rest ih =>
    rcases entry with ⟨other, state⟩
    simp only [openCost, List.mem_cons]
    split <;> split <;> grind

/-- A state that is seen for the first time pays for its successors. -/
theorem openCost_visit {name : String} {seen : List String} (fresh : name ∉ seen)
    {states : List (String × State)} {state : State}
    (found : Graph.find? name states = some state) :
    openCost (name :: seen) states + state.successors.length ≤ openCost seen states := by
  induction states with
  | nil => cases found
  | cons entry rest ih =>
    rcases entry with ⟨other, first⟩
    rw [Graph.find?] at found
    split at found
    next same =>
      cases found
      subst same
      have others := openCost_cons_le other seen rest
      simp only [openCost, List.mem_cons_self, if_true, fresh, if_false]
      omega
    next apart =>
      have others := ih found
      simp only [openCost, List.mem_cons, apart, false_or]
      omega

theorem walkLength_eq (states : List (String × State)) :
    walkLength states = 1 + openCost [] states := by
  have sum : ∀ start, states.foldl (fun length entry => length + entry.2.successors.length)
      start = start + openCost [] states := by
    induction states with
    | nil => simp [openCost]
    | cons entry rest ih =>
      intro start
      simp only [List.foldl_cons, ih, openCost, List.not_mem_nil, if_false]
      omega
  exact sum 1

/-- A walk with enough steps leaves nothing pending. -/
theorem walking_reach {states : List (String × State)} {startAt : String} {fuel : Nat}
    {pending seen : List String} (walking : Walking states startAt pending seen)
    (enough : pending.length + openCost seen states ≤ fuel) :
    Walking states startAt [] (reach states fuel pending seen) := by
  induction fuel, pending, seen using reach.induct states with
  | case1 pending seen =>
    obtain rfl : pending = [] := List.eq_nil_of_length_eq_zero (by omega)
    rw [reach]
    exact walking
  | case2 fuel seen positive =>
    rw [reach]
    · exact walking
    · exact positive
  | case3 fuel name pending seen known ih =>
    simp only [reach, known, if_true]
    simp only [List.length_cons] at enough
    exact ih (walking.skip (List.contains_iff_mem.mp known)) (by omega)
  | case4 fuel name pending seen fresh state found ih =>
    simp only [reach, fresh, Bool.false_eq_true, if_false, found]
    have paid := openCost_visit (mt List.contains_iff_mem.mpr fresh) found
    simp only [List.length_cons] at enough
    apply ih
    · apply walking.visit
      · rintro other same
        cases found.symm.trans same
        exact List.Subset.refl _
      · intro target goes
        exact .step (walking.reaches name (.inl List.mem_cons_self)) found goes
    · simp only [List.length_append]
      omega
  | case5 fuel name pending seen fresh missing ih =>
    simp only [reach, fresh, Bool.false_eq_true, if_false, missing]
    have less := openCost_cons_le name seen states
    simp only [List.length_cons] at enough
    apply ih
    · change Walking states startAt ([] ++ pending) (name :: seen)
      apply walking.visit
      · simp [missing]
      · simp
    · omega

theorem mem_reachable_iff {states : List (String × State)} {startAt name : String} :
    name ∈ reachable states startAt ↔ Reaches states startAt name := by
  have done : Walking states startAt [] (reachable states startAt) := by
    apply walking_reach .start
    rw [walkLength_eq]
    exact Nat.le_refl _
  constructor
  · intro seen
    exact done.reaches name (.inr seen)
  · intro reaches
    induction reaches with
    | entry => simpa using done.entry
    | step _ isState goes ih => simpa using done.goesOn _ ih _ isState _ goes

/-! ## The least name -/

theorem least?_eq_none {names : List String} : least? names = none ↔ names = [] := by
  cases names with
  | nil => simp [least?]
  | cons name rest =>
    rw [least?]
    split
    · split <;> simp
    · simp

theorem least?_eq_some {names : List String} {name : String} (found : least? names = some name) :
    name ∈ names ∧ ∀ other ∈ names, name ≤ other := by
  induction names generalizing name with
  | nil => cases found
  | cons first rest ih =>
    rw [least?] at found
    split at found
    next other known =>
      obtain ⟨isMember, least⟩ := ih known
      split at found
      next less =>
        cases found
        grind
      next more =>
        cases found
        have := String.not_lt.mp more
        grind
    next unknown =>
      cases found
      simp [least?_eq_none.mp unknown]

/-! ## The check -/

theorem mem_unreached_iff {states : List (String × State)} {startAt name : String} :
    name ∈ unreached states startAt ↔
      name ∈ states.map Prod.fst ∧ ¬Reaches states startAt name := by
  simp only [unreached, List.mem_filter, Bool.not_eq_true', List.contains_eq_mem,
    decide_eq_false_iff_not, mem_reachable_iff]

/-- The check of a graph passes exactly if every state can be reached from the entry, and otherwise
it names the first state in byte order that cannot. -/
theorem checkReachable_settles {states : List (String × State)} {startAt : String}
    (entry : Graph.find? startAt states ≠ none) :
    (checkReachable states startAt = .ok () ↔
      ∀ name ∈ states.map Prod.fst, Reaches states startAt name) ∧
    ((∃ name ∈ states.map Prod.fst, ¬Reaches states startAt name) →
      ∃ name ∈ states.map Prod.fst, ¬Reaches states startAt name ∧
        (∀ other ∈ states.map Prod.fst, ¬Reaches states startAt other → name ≤ other) ∧
        checkReachable states startAt = .error (.unreachable name)) := by
  have present : ¬(Graph.find? startAt states).isNone = true := by simpa using entry
  rw [checkReachable, if_neg present]
  cases found : least? (unreached states startAt) with
  | none =>
    have all : ∀ name ∈ states.map Prod.fst, Reaches states startAt name := by
      intro name isState
      apply Classical.byContradiction
      intro lost
      have isLost := mem_unreached_iff.mpr ⟨isState, lost⟩
      simp [least?_eq_none.mp found] at isLost
    refine ⟨iff_of_true rfl all, ?_⟩
    rintro ⟨name, isState, lost⟩
    exact absurd (all name isState) lost
  | some name =>
    obtain ⟨isLost, least⟩ := least?_eq_some found
    obtain ⟨isState, lost⟩ := mem_unreached_iff.mp isLost
    refine ⟨iff_of_false nofun fun all => lost (all name isState), ?_⟩
    rintro -
    refine ⟨name, isState, lost, ?_, rfl⟩
    intro other isOther otherLost
    exact least other (mem_unreached_iff.mpr ⟨isOther, otherLost⟩)

/-- Two states in a cycle and one behind a catcher, and two states that nothing leads to. -/
def strays : List (String × State) :=
  [("Stray", .mk { next := some "Call" } (.pass none)),
   ("Call", .mk { next := some "Pick", catchers := [{ errorEquals := [], next := "Rescue" }] }
     (.task { resource := "call" })),
   ("Pick", .mk {} (.choice [] (some "Call"))),
   ("Rescue", .mk {} .succeed),
   ("Orphan", .mk {} .succeed)]

theorem unreached_strays : unreached strays "Call" = ["Stray", "Orphan"] := by
  decide

theorem checkReachable_settles_strays :
    Graph.find? "Call" strays ≠ none ∧ ¬Reaches strays "Call" "Stray" ∧
      checkReachable strays "Call" = .error (.unreachable "Orphan") := by
  have entry : Graph.find? "Call" strays ≠ none := by simp [Graph.find?, strays]
  have lost : ∀ name ∈ strays.map Prod.fst, ¬Reaches strays "Call" name ↔
      name = "Stray" ∨ name = "Orphan" := by
    intro name isState
    have unreached := @mem_unreached_iff strays "Call" name
    simpa [unreached_strays, isState] using unreached.symm
  have isStray : "Stray" ∈ strays.map Prod.fst := by simp [strays]
  have isOrphan : "Orphan" ∈ strays.map Prod.fst := by simp [strays]
  have strayLost := (lost "Stray" isStray).mpr (.inl rfl)
  have orphanLost := (lost "Orphan" isOrphan).mpr (.inr rfl)
  obtain ⟨name, isState, isLost, least, refused⟩ :=
    (checkReachable_settles entry).2 ⟨"Stray", isStray, strayLost⟩
  have first := least "Orphan" isOrphan orphanLost
  rcases (lost name isState).mp isLost with rfl | rfl
  · exact absurd first (by decide)
  · exact ⟨entry, strayLost, refused⟩

end Workflow.Definition
