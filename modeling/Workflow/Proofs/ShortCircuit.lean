import Mathlib.Logic.Relation
import Workflow.Proofs.Genuine

/-!
# Evaluation that stops early

The members of a conjunction or a disjunction are evaluated from left to right, up to one whose
value settles the whole or that fails. Two relations say what this comes to, without an order of
computation: `Rule.Yields` gives a rule its value, looking at no more members than it has to, and
`Rule.Reached` says which rules below it are looked at. An evaluation fails exactly with the error
of a rule that it reaches, and it reaches at most one such rule.

Where no leaf fails and nothing nests too deep, stopping early cannot be seen: the value is the
truth of the rule, `Rule.truth`, which does not depend on the order of members.
-/

namespace Workflow.Rule

/-! ## Rules by their parts -/

/-- The members of a conjunction or a disjunction, with the value by which a single member settles
the whole. -/
def members? : Rule → Option (Bool × List Rule)
  | .all rules => some (false, rules)
  | .any rules => some (true, rules)
  | _ => none

/-- What a rule comes to that has no rules below it. -/
def leafResult? (scope : Scope) : Rule → Option (Except Error Bool)
  | .test subject operator operand =>
    some ((evaluateTest scope subject operator operand).mapError .evaluation)
  | .condition text =>
    some ((Functional.condition text scope).mapError fun error => .evaluation (.functional error))
  | _ => none

/-- A rule is a conjunction or a disjunction of members, a negation, or a leaf. -/
@[elab_as_elim]
theorem byParts {motive : Rule → Prop}
    (members : ∀ rule settling rules, rule.members? = some (settling, rules) →
      (∀ member ∈ rules, motive member) → motive rule)
    (not : ∀ inner, motive inner → motive (.not inner))
    (leaf : ∀ rule, (∀ scope, ∃ result, rule.leafResult? scope = some result) → motive rule) :
    ∀ rule, motive rule
  | .all rules => members _ _ _ rfl (each rules)
  | .any rules => members _ _ _ rfl (each rules)
  | .not inner => not inner (byParts members not leaf inner)
  | .test _ _ _ => leaf _ fun _ => ⟨_, rfl⟩
  | .condition _ => leaf _ fun _ => ⟨_, rfl⟩
where
  each : ∀ rules : List Rule, ∀ member ∈ rules, motive member
    | [], _, isMember => nomatch isMember
    | rule :: rest, member, isMember => by
      rcases List.mem_cons.mp isMember with same | isRest
      · rw [same]
        exact byParts members not leaf rule
      · exact each rest member isRest

mutual

/-- The truth of a rule whose leaves all have a value; one that fails counts as false. -/
def truth (scope : Scope) : Rule → Bool
  | .all rules => allTrue scope rules
  | .any rules => anyTrue scope rules
  | .not inner => !inner.truth scope
  | .test subject operator operand =>
    match evaluateTest scope subject operator operand with
    | .ok value => value
    | .error _ => false
  | .condition text =>
    match Functional.condition text scope with
    | .ok value => value
    | .error _ => false

def allTrue (scope : Scope) : List Rule → Bool
  | [] => true
  | rule :: rest => rule.truth scope && allTrue scope rest

def anyTrue (scope : Scope) : List Rule → Bool
  | [] => false
  | rule :: rest => rule.truth scope || anyTrue scope rest

end

mutual

/-- The leaves of a rule, from left to right. -/
def leaves : Rule → List Rule
  | .all rules => leavesOf rules
  | .any rules => leavesOf rules
  | .not inner => inner.leaves
  | .test subject operator operand => [.test subject operator operand]
  | .condition text => [.condition text]

def leavesOf : List Rule → List Rule
  | [] => []
  | rule :: rest => rule.leaves ++ leavesOf rest

end

section Members

variable {rule : Rule} {settling : Bool} {rules : List Rule}

theorem members?_cases (members : rule.members? = some (settling, rules)) :
    (settling = false ∧ rule = .all rules) ∨ (settling = true ∧ rule = .any rules) := by
  cases rule with
  | all others =>
      cases members
      exact Or.inl ⟨rfl, rfl⟩
  | any others =>
      cases members
      exact Or.inr ⟨rfl, rfl⟩
  | _ => cases members

theorem allTrue_eq (scope : Scope) (rules : List Rule) :
    allTrue scope rules = rules.all (truth scope) := by
  induction rules with
  | nil => rfl
  | cons rule rest ih => rw [allTrue, ih, List.all_cons]

theorem anyTrue_eq (scope : Scope) (rules : List Rule) :
    anyTrue scope rules = rules.any (truth scope) := by
  induction rules with
  | nil => rfl
  | cons rule rest ih => rw [anyTrue, ih, List.any_cons]

/-- One member with the settling value gives the whole that value. -/
theorem truth_eq_settling_iff (members : rule.members? = some (settling, rules)) (scope : Scope) :
    rule.truth scope = settling ↔ ∃ member ∈ rules, member.truth scope = settling := by
  rcases members?_cases members with ⟨rfl, rfl⟩ | ⟨rfl, rfl⟩
  · rw [truth, allTrue_eq, List.all_eq_false]
    simp only [Bool.not_eq_true]
  · rw [truth, anyTrue_eq, List.any_eq_true]

theorem mem_leavesOf {leaf : Rule} :
    leaf ∈ leavesOf rules ↔ ∃ member ∈ rules, leaf ∈ member.leaves := by
  induction rules with
  | nil => simp [leavesOf]
  | cons rule rest ih => simp [leavesOf, ih]

theorem mem_leaves_iff (members : rule.members? = some (settling, rules)) {leaf : Rule} :
    leaf ∈ rule.leaves ↔ ∃ member ∈ rules, leaf ∈ member.leaves := by
  rcases members?_cases members with ⟨_, rfl⟩ | ⟨_, rfl⟩ <;> rw [leaves, mem_leavesOf]

theorem deepest_le_iff {bound : Nat} :
    deepest rules ≤ bound ↔ ∀ member ∈ rules, member.depth ≤ bound := by
  induction rules with
  | nil => simp [deepest]
  | cons rule rest ih => rw [deepest, Nat.max_le, ih, List.forall_mem_cons]

theorem depth_le_succ_iff (members : rule.members? = some (settling, rules)) {bound : Nat} :
    rule.depth ≤ bound + 1 ↔ ∀ member ∈ rules, member.depth ≤ bound := by
  rcases members?_cases members with ⟨_, rfl⟩ | ⟨_, rfl⟩ <;>
    rw [depth, Nat.succ_le_succ_iff, deepest_le_iff]

end Members

/-! ## Stopping at a member -/

section Splitting

variable {α : Type} {holds : α → Prop}

/-- Either all elements of a list have a property, or the list splits at the first that has not. -/
theorem all_or_first (holds : α → Prop) (list : List α) :
    (∀ element ∈ list, holds element) ∨
      ∃ before next after, list = before ++ next :: after ∧
        (∀ earlier ∈ before, holds earlier) ∧ ¬holds next := by
  induction list with
  | nil => exact Or.inl fun _ isElement => nomatch isElement
  | cons head tail ih =>
      by_cases held : holds head
      · rcases ih with all | ⟨before, next, after, rfl, first, stops⟩
        · exact Or.inl (List.forall_mem_cons.mpr ⟨held, all⟩)
        · exact Or.inr ⟨head :: before, next, after, rfl,
            List.forall_mem_cons.mpr ⟨held, first⟩, stops⟩
      · exact Or.inr ⟨[], head, tail, rfl, (fun _ isElement => nomatch isElement), held⟩

/-- There is one place at which a list splits like this. -/
theorem first_unique {before others after rest : List α} {next other : α}
    (same : before ++ next :: after = others ++ other :: rest)
    (first : ∀ earlier ∈ before, holds earlier) (stops : ¬holds next)
    (firstOther : ∀ earlier ∈ others, holds earlier) (stopsOther : ¬holds other) :
    before = others ∧ next = other := by
  induction before generalizing others with
  | nil =>
      cases others with
      | nil => exact ⟨rfl, (List.cons.inj same).1⟩
      | cons head tail =>
          rw [(List.cons.inj same).1] at stops
          exact absurd (firstOther head List.mem_cons_self) stops
  | cons head tail ih =>
      cases others with
      | nil =>
          rw [← (List.cons.inj same).1] at stopsOther
          exact absurd (first head List.mem_cons_self) stopsOther
      | cons _ _ =>
          rcases List.cons.inj same with ⟨rfl, sameTail⟩
          rcases ih sameTail (List.forall_mem_cons.mp first).2
            (List.forall_mem_cons.mp firstOther).2 with ⟨rfl, rfl⟩
          exact ⟨rfl, rfl⟩

end Splitting

section Until

variable {scope : Scope} {depth : Nat} {settling : Bool}

/-- Evaluates rules up to the first that has a value. -/
def evaluateUntil (scope : Scope) (depth : Nat) (settling : Bool) : List Rule → Except Error Bool
  | [] => .ok !settling
  | rule :: rest => do
    if (← rule.evaluate scope depth) = settling then return settling
    else evaluateUntil scope depth settling rest

theorem evaluateAll_eq (scope : Scope) (depth : Nat) (rules : List Rule) :
    evaluateAll scope depth rules = evaluateUntil scope depth false rules := by
  induction rules with
  | nil => rfl
  | cons rule rest ih =>
      rw [evaluateAll, evaluateUntil, ih]
      cases rule.evaluate scope depth with
      | error error => rfl
      | ok value => cases value <;> rfl

theorem evaluateAny_eq (scope : Scope) (depth : Nat) (rules : List Rule) :
    evaluateAny scope depth rules = evaluateUntil scope depth true rules := by
  induction rules with
  | nil => rfl
  | cons rule rest ih =>
      rw [evaluateAny, evaluateUntil, ih]

theorem evaluateUntil_cons_of_pass {rule : Rule} {rest : List Rule}
    (passes : rule.evaluate scope depth = .ok !settling) :
    evaluateUntil scope depth settling (rule :: rest) =
      evaluateUntil scope depth settling rest := by
  cases settling <;> rw [evaluateUntil, passes] <;> rfl

theorem evaluateUntil_append {before rest : List Rule}
    (pass : ∀ member ∈ before, member.evaluate scope depth = .ok !settling) :
    evaluateUntil scope depth settling (before ++ rest) =
      evaluateUntil scope depth settling rest := by
  induction before with
  | nil => rfl
  | cons rule before ih =>
      rw [List.cons_append, evaluateUntil_cons_of_pass (pass rule List.mem_cons_self)]
      exact ih fun member isMember => pass member (List.mem_cons_of_mem _ isMember)

theorem evaluateUntil_of_pass {rules : List Rule}
    (pass : ∀ member ∈ rules, member.evaluate scope depth = .ok !settling) :
    evaluateUntil scope depth settling rules = .ok !settling := by
  rw [← List.append_nil rules, evaluateUntil_append pass]
  rfl

theorem evaluateUntil_cons_of_stop {rule : Rule} {rest : List Rule}
    (stops : rule.evaluate scope depth ≠ .ok !settling) :
    evaluateUntil scope depth settling (rule :: rest) = rule.evaluate scope depth := by
  rw [evaluateUntil]
  cases result : rule.evaluate scope depth with
  | error error => rfl
  | ok value =>
      rw [result] at stops
      cases value <;> cases settling
      case false.true => exact absurd rfl stops
      case true.false => exact absurd rfl stops
      all_goals rfl

/-- Either all members pass, or the first that does not decides. -/
theorem evaluateUntil_cases (scope : Scope) (depth : Nat) (settling : Bool) (rules : List Rule) :
    ((∀ member ∈ rules, member.evaluate scope depth = .ok !settling) ∧
        evaluateUntil scope depth settling rules = .ok !settling) ∨
      ∃ before next after, rules = before ++ next :: after ∧
        (∀ member ∈ before, member.evaluate scope depth = .ok !settling) ∧
        next.evaluate scope depth ≠ .ok !settling ∧
        evaluateUntil scope depth settling rules = next.evaluate scope depth := by
  rcases all_or_first (fun member => member.evaluate scope depth = .ok !settling) rules with
    pass | ⟨before, next, after, rfl, pass, stops⟩
  · exact Or.inl ⟨pass, evaluateUntil_of_pass pass⟩
  · refine Or.inr ⟨before, next, after, rfl, pass, stops, ?_⟩
    rw [evaluateUntil_append pass, evaluateUntil_cons_of_stop stops]

end Until

/-! ## Rules at a depth -/

section Evaluation

variable {scope : Scope} {depth : Nat} {rule : Rule}

theorem evaluate_of_members (shallow : depth ≤ scope.config.maxChoiceDepth) {settling : Bool}
    {rules : List Rule} (members : rule.members? = some (settling, rules)) :
    rule.evaluate scope depth = evaluateUntil scope (depth + 1) settling rules := by
  rcases members?_cases members with ⟨rfl, rfl⟩ | ⟨rfl, rfl⟩
  · rw [evaluate, if_neg (Nat.not_lt.mpr shallow), evaluateAll_eq]
  · rw [evaluate, if_neg (Nat.not_lt.mpr shallow), evaluateAny_eq]

theorem evaluate_not (shallow : depth ≤ scope.config.maxChoiceDepth) {inner : Rule} :
    (Rule.not inner).evaluate scope depth =
      (inner.evaluate scope (depth + 1)).map fun value => !value := by
  rw [evaluate, if_neg (Nat.not_lt.mpr shallow)]

theorem evaluate_of_leaf (shallow : depth ≤ scope.config.maxChoiceDepth)
    {result : Except Error Bool} (leaf : rule.leafResult? scope = some result) :
    rule.evaluate scope depth = result := by
  cases rule with
  | test subject operator operand =>
      rw [evaluate, if_neg (Nat.not_lt.mpr shallow)]
      exact Option.some.inj leaf
  | condition text =>
      rw [evaluate, if_neg (Nat.not_lt.mpr shallow)]
      exact Option.some.inj leaf
  | _ => cases leaf

end Evaluation

/-- The value that a rule at a depth has when its members are looked at from left to right, and no
further than the first that settles the whole. -/
inductive Yields (scope : Scope) : Nat → Rule → Bool → Prop where
  | leaf {depth : Nat} {rule : Rule} {value : Bool}
      (shallow : depth ≤ scope.config.maxChoiceDepth)
      (result : rule.leafResult? scope = some (.ok value)) : Yields scope depth rule value
  | negated {depth : Nat} {inner : Rule} {value : Bool}
      (shallow : depth ≤ scope.config.maxChoiceDepth)
      (yields : Yields scope (depth + 1) inner value) : Yields scope depth (.not inner) !value
  | settled {depth : Nat} {rule : Rule} {settling : Bool} {before : List Rule} {member : Rule}
      {after : List Rule} (shallow : depth ≤ scope.config.maxChoiceDepth)
      (members : rule.members? = some (settling, before ++ member :: after))
      (pass : ∀ earlier ∈ before, Yields scope (depth + 1) earlier !settling)
      (settles : Yields scope (depth + 1) member settling) : Yields scope depth rule settling
  | passed {depth : Nat} {rule : Rule} {settling : Bool} {rules : List Rule}
      (shallow : depth ≤ scope.config.maxChoiceDepth)
      (members : rule.members? = some (settling, rules))
      (pass : ∀ member ∈ rules, Yields scope (depth + 1) member !settling) :
      Yields scope depth rule !settling

/-- The evaluation of a rule at a depth gets to the rule at a position below it: no member in front
of it settles the whole. -/
inductive Reached (scope : Scope) : Nat → Rule → List Nat → Rule → Prop where
  | here (depth : Nat) (rule : Rule) : Reached scope depth rule [] rule
  | negated {depth : Nat} {inner : Rule} {path : List Nat} {node : Rule}
      (shallow : depth ≤ scope.config.maxChoiceDepth)
      (below : Reached scope (depth + 1) inner path node) :
      Reached scope depth (.not inner) (0 :: path) node
  | member {depth : Nat} {rule : Rule} {settling : Bool} {before : List Rule} {member : Rule}
      {after : List Rule} {path : List Nat} {node : Rule}
      (shallow : depth ≤ scope.config.maxChoiceDepth)
      (members : rule.members? = some (settling, before ++ member :: after))
      (pass : ∀ earlier ∈ before, Yields scope (depth + 1) earlier !settling)
      (below : Reached scope (depth + 1) member path node) :
      Reached scope depth rule (before.length :: path) node

/-- The error that a rule at a depth raises itself, not one of those below it: it is nested too
deep, or it is a leaf that has no value. -/
def Errs (scope : Scope) (depth : Nat) (rule : Rule) (error : Error) : Prop :=
  (scope.config.maxChoiceDepth < depth ∧ error = .tooDeep scope.config.maxChoiceDepth) ∨
    (depth ≤ scope.config.maxChoiceDepth ∧ rule.leafResult? scope = some (.error error))

section Adequacy

variable {scope : Scope} {depth : Nat} {rule : Rule}

theorem evaluate_of_yields {value : Bool} (yields : Yields scope depth rule value) :
    rule.evaluate scope depth = .ok value := by
  induction yields with
  | leaf shallow result => exact evaluate_of_leaf shallow result
  | negated shallow _ ih =>
      rw [evaluate_not shallow, ih]
      rfl
  | @settled _ _ settling _ _ _ shallow members _ _ pass settles =>
      have stops : (.ok settling : Except Error Bool) ≠ .ok !settling := by
        cases settling <;> simp
      rw [evaluate_of_members shallow members, evaluateUntil_append pass,
        evaluateUntil_cons_of_stop (settles ▸ stops), settles]
  | passed shallow members _ pass =>
      rw [evaluate_of_members shallow members, evaluateUntil_of_pass pass]

/-- An error that is raised where the evaluation gets to is what the whole fails with. -/
theorem evaluate_of_reached {path : List Nat} {node : Rule} {error : Error}
    (reached : Reached scope depth rule path node)
    (errs : node.Errs scope (depth + path.length) error) :
    rule.evaluate scope depth = .error error := by
  induction reached with
  | here depth rule =>
      rcases errs with ⟨deep, rfl⟩ | ⟨shallow, failed⟩
      · exact evaluate_of_deep deep
      · exact evaluate_of_leaf shallow failed
  | negated shallow _ ih =>
      rw [evaluate_not shallow, ih (by rwa [Nat.add_right_comm])]
      rfl
  | member shallow members pass _ ih =>
      have failed := ih (by rwa [Nat.add_right_comm])
      rw [evaluate_of_members shallow members,
        evaluateUntil_append fun earlier isEarlier => evaluate_of_yields (pass earlier isEarlier),
        evaluateUntil_cons_of_stop (by rw [failed]; exact nofun), failed]

theorem shallow_of_ok {value : Bool} (evaluated : rule.evaluate scope depth = .ok value) :
    depth ≤ scope.config.maxChoiceDepth := by
  by_contra deep
  rw [evaluate_of_deep (Nat.lt_of_not_le deep)] at evaluated
  cases evaluated

theorem yields_of_evaluate {value : Bool} (evaluated : rule.evaluate scope depth = .ok value) :
    Yields scope depth rule value := by
  induction rule using byParts generalizing depth value with
  | members rule settling rules members ih =>
      have shallow := shallow_of_ok evaluated
      rw [evaluate_of_members shallow members] at evaluated
      rcases evaluateUntil_cases scope (depth + 1) settling rules with
        ⟨pass, result⟩ | ⟨before, next, after, rfl, pass, stops, result⟩
      · rw [result] at evaluated
        cases evaluated
        exact .passed shallow members fun member isMember => ih member isMember (pass _ isMember)
      · rw [result] at evaluated
        have settles : value = settling := by
          rw [evaluated] at stops
          exact Bool.not_eq_not.mp fun same => stops (by rw [same])
        subst settles
        have isNext : next ∈ before ++ next :: after := by simp
        refine .settled shallow members (fun earlier isEarlier => ?_) (ih next isNext evaluated)
        exact ih earlier (List.mem_append_left _ isEarlier) (pass earlier isEarlier)
  | not inner ih =>
      have shallow := shallow_of_ok evaluated
      rw [evaluate_not shallow] at evaluated
      cases result : inner.evaluate scope (depth + 1) with
      | error error =>
          rw [result] at evaluated
          cases evaluated
      | ok value =>
          rw [result] at evaluated
          cases evaluated
          exact .negated shallow (ih result)
  | leaf rule isLeaf =>
      have shallow := shallow_of_ok evaluated
      rcases isLeaf scope with ⟨result, same⟩
      rw [evaluate_of_leaf shallow same] at evaluated
      exact .leaf shallow (by rw [same, evaluated])

/-- Evaluation gives a rule the value that looking from left to right gives it. -/
theorem evaluate_ok_iff {value : Bool} :
    rule.evaluate scope depth = .ok value ↔ Yields scope depth rule value :=
  ⟨yields_of_evaluate, evaluate_of_yields⟩

theorem reached_of_deep (deep : scope.config.maxChoiceDepth < depth) {error : Error}
    (failed : rule.evaluate scope depth = .error error) :
    ∃ path node, Reached scope depth rule path node ∧
      node.Errs scope (depth + path.length) error := by
  rw [evaluate_of_deep deep] at failed
  cases failed
  exact ⟨[], rule, .here depth rule, Or.inl ⟨deep, rfl⟩⟩

theorem reached_of_evaluate {error : Error} (failed : rule.evaluate scope depth = .error error) :
    ∃ path node, Reached scope depth rule path node ∧
      node.Errs scope (depth + path.length) error := by
  induction rule using byParts generalizing depth with
  | members rule settling rules members ih =>
      by_cases shallow : depth ≤ scope.config.maxChoiceDepth
      case neg => exact reached_of_deep (Nat.lt_of_not_le shallow) failed
      rw [evaluate_of_members shallow members] at failed
      rcases evaluateUntil_cases scope (depth + 1) settling rules with
        ⟨_, result⟩ | ⟨before, next, after, rfl, pass, _, result⟩
      · rw [result] at failed
        cases failed
      · rw [result] at failed
        rcases ih next (by simp) failed with ⟨path, node, below, errs⟩
        refine ⟨before.length :: path, node, .member shallow members ?_ below, ?_⟩
        · exact fun earlier isEarlier => yields_of_evaluate (pass earlier isEarlier)
        · rwa [List.length_cons, Nat.add_comm path.length, ← Nat.add_assoc]
  | not inner ih =>
      by_cases shallow : depth ≤ scope.config.maxChoiceDepth
      case neg => exact reached_of_deep (Nat.lt_of_not_le shallow) failed
      rw [evaluate_not shallow] at failed
      cases result : inner.evaluate scope (depth + 1) with
      | ok value =>
          rw [result] at failed
          cases failed
      | error error =>
          rw [result] at failed
          cases failed
          rcases ih result with ⟨path, node, below, errs⟩
          refine ⟨0 :: path, node, .negated shallow below, ?_⟩
          rwa [List.length_cons, Nat.add_comm path.length, ← Nat.add_assoc]
  | leaf rule isLeaf =>
      by_cases shallow : depth ≤ scope.config.maxChoiceDepth
      case neg => exact reached_of_deep (Nat.lt_of_not_le shallow) failed
      rcases isLeaf scope with ⟨result, same⟩
      rw [evaluate_of_leaf shallow same] at failed
      exact ⟨[], rule, .here depth rule, Or.inr ⟨shallow, by rw [same, failed]⟩⟩

/-- An evaluation fails exactly with the error of a rule that it gets to. -/
theorem evaluate_error_iff {error : Error} :
    rule.evaluate scope depth = .error error ↔
      ∃ path node, Reached scope depth rule path node ∧
        node.Errs scope (depth + path.length) error :=
  ⟨reached_of_evaluate, fun ⟨_, _, reached, errs⟩ => evaluate_of_reached reached errs⟩

theorem leafResult?_of_members {settling : Bool} {rules : List Rule}
    (members : rule.members? = some (settling, rules)) : rule.leafResult? scope = none := by
  rcases members?_cases members with ⟨_, rfl⟩ | ⟨_, rfl⟩ <;> rfl

/-- A rule that raises an error itself is the end of the way. -/
theorem Errs.eq_of_reached {path : List Nat} {node : Rule} {error : Error}
    (errs : rule.Errs scope depth error) (reached : Reached scope depth rule path node) :
    path = [] ∧ node = rule := by
  have passable {inner : Rule} (shallow : depth ≤ scope.config.maxChoiceDepth)
      (none : inner.leafResult? scope = none) : ¬inner.Errs scope depth error := by
    rintro (⟨deep, _⟩ | ⟨_, failed⟩)
    · exact Nat.not_lt.mpr shallow deep
    · rw [none] at failed
      cases failed
  cases reached with
  | here => exact ⟨rfl, rfl⟩
  | negated shallow _ => exact absurd errs (passable shallow rfl)
  | member shallow members _ _ =>
      exact absurd errs (passable shallow (leafResult?_of_members members))

/-- An evaluation gets to at most one rule that raises an error. -/
theorem Reached.position_unique {path position : List Nat} {node other : Rule}
    {error second : Error} (reached : Reached scope depth rule path node)
    (errs : node.Errs scope (depth + path.length) error)
    (reachedOther : Reached scope depth rule position other)
    (errsOther : other.Errs scope (depth + position.length) second) :
    position = path ∧ other = node := by
  induction reached generalizing position with
  | here => exact errs.eq_of_reached reachedOther
  | negated shallow below ih =>
      cases reachedOther with
      | here => exact absurd (errsOther.eq_of_reached (.negated shallow below)).1 nofun
      | negated _ belowOther =>
          rw [List.length_cons, ← Nat.add_assoc, Nat.add_right_comm] at errs errsOther
          rcases ih errs belowOther errsOther with ⟨rfl, rfl⟩
          exact ⟨rfl, rfl⟩
      | member _ members _ _ => cases members
  | @member depth rule settling before next after path node shallow members pass below ih =>
      cases reachedOther with
      | here => exact absurd (errsOther.eq_of_reached (.member shallow members pass below)).1 nofun
      | negated => cases members
      | member _ membersOther passOther belowOther =>
          rw [List.length_cons, ← Nat.add_assoc, Nat.add_right_comm] at errs errsOther
          have stops := evaluate_of_reached below errs
          have stopsOther := evaluate_of_reached belowOther errsOther
          rw [members] at membersOther
          rcases Prod.mk.inj (Option.some.inj membersOther) with ⟨rfl, same⟩
          rcases first_unique same pass
            (fun yields => by rw [evaluate_of_yields yields] at stops; cases stops) passOther
            (fun yields => by rw [evaluate_of_yields yields] at stopsOther; cases stopsOther)
            with ⟨rfl, rfl⟩
          rcases ih errs belowOther errsOther with ⟨rfl, rfl⟩
          exact ⟨rfl, rfl⟩

end Adequacy

/-! ## Without errors -/

/-- A conjunction or a disjunction of the rule, itself or below it, has its members in another
order. -/
inductive Reorders : Rule → Rule → Prop where
  | here {rule other : Rule} {settling : Bool} {rules others : List Rule}
      (members : rule.members? = some (settling, rules))
      (membersOther : other.members? = some (settling, others))
      (perm : rules.Perm others) : Reorders rule other
  | member {rule other : Rule} {settling : Bool} {before after : List Rule} {inner changed : Rule}
      (members : rule.members? = some (settling, before ++ inner :: after))
      (membersOther : other.members? = some (settling, before ++ changed :: after))
      (below : Reorders inner changed) : Reorders rule other
  | negated {inner changed : Rule} (below : Reorders inner changed) :
      Reorders (.not inner) (.not changed)

section Order

variable {scope : Scope} {rule other : Rule}

/-- What holds of some member of a list still does when one member is changed for another of which
it holds as well. -/
theorem exists_mem_congr {holds : Rule → Prop} {before after : List Rule} {inner changed : Rule}
    (same : holds inner ↔ holds changed) :
    (∃ member ∈ before ++ inner :: after, holds member) ↔
      ∃ member ∈ before ++ changed :: after, holds member := by
  simp only [List.mem_append, List.mem_cons, or_and_right, exists_or, exists_eq_left, same]

theorem Reorders.truth_eq (reorders : Reorders rule other) :
    rule.truth scope = other.truth scope := by
  have of_iff {left right settling : Bool} (same : left = settling ↔ right = settling) :
      left = right := by
    cases left <;> cases right <;> cases settling <;> simp_all
  induction reorders with
  | here members membersOther perm =>
      refine of_iff ((truth_eq_settling_iff members scope).trans ?_)
      rw [truth_eq_settling_iff membersOther scope]
      simp only [perm.mem_iff]
  | member members membersOther _ ih =>
      refine of_iff ((truth_eq_settling_iff members scope).trans ?_)
      rw [truth_eq_settling_iff membersOther scope]
      exact exists_mem_congr (by rw [ih])
  | negated _ ih => rw [truth, truth, ih]

theorem Reorders.mem_leaves_iff (reorders : Reorders rule other) {leaf : Rule} :
    leaf ∈ rule.leaves ↔ leaf ∈ other.leaves := by
  induction reorders with
  | here members membersOther perm =>
      rw [Rule.mem_leaves_iff members, Rule.mem_leaves_iff membersOther]
      simp only [perm.mem_iff]
  | member members membersOther _ ih =>
      rw [Rule.mem_leaves_iff members, Rule.mem_leaves_iff membersOther]
      exact exists_mem_congr ih
  | negated _ ih => rw [leaves, leaves, ih]

theorem Reorders.depth_le_iff (reorders : Reorders rule other) (bound : Nat) :
    rule.depth ≤ bound ↔ other.depth ≤ bound := by
  induction reorders generalizing bound with
  | here members membersOther perm =>
      cases bound with
      | zero => simp [depth_ne_zero]
      | succ bound =>
          rw [depth_le_succ_iff members, depth_le_succ_iff membersOther]
          simp only [perm.mem_iff]
  | member members membersOther _ ih =>
      cases bound with
      | zero => simp [depth_ne_zero]
      | succ bound =>
          rw [depth_le_succ_iff members, depth_le_succ_iff membersOther]
          simp only [List.forall_mem_append, List.forall_mem_cons, ih]
  | negated _ ih =>
      cases bound with
      | zero => simp [depth_ne_zero]
      | succ bound => rw [depth, depth, Nat.succ_le_succ_iff, Nat.succ_le_succ_iff, ih]

theorem leaves_of_leaf {result : Except Error Bool} (leaf : rule.leafResult? scope = some result) :
    rule.leaves = [rule] := by
  cases rule with
  | test => rfl
  | condition => rfl
  | _ => cases leaf

theorem truth_of_leaf {value : Bool} (leaf : rule.leafResult? scope = some (.ok value)) :
    rule.truth scope = value := by
  cases rule with
  | test subject operator operand =>
      have valued := Option.some.inj leaf
      rw [truth]
      cases tested : evaluateTest scope subject operator operand with
      | error error => rw [tested] at valued; cases valued
      | ok value => rw [tested] at valued; cases valued; rfl
  | condition text =>
      have valued := Option.some.inj leaf
      rw [truth]
      cases tested : Functional.condition text scope with
      | error error => rw [tested] at valued; cases valued
      | ok value => rw [tested] at valued; cases valued; rfl
  | _ => cases leaf

/-- A rule no leaf of which fails, and that does not nest too deep, has its truth as value. -/
theorem evaluate_eq_truth {depth : Nat}
    (shallow : depth + rule.depth ≤ scope.config.maxChoiceDepth + 1)
    (valued : ∀ leaf ∈ rule.leaves, ∃ value, leaf.leafResult? scope = some (.ok value)) :
    rule.evaluate scope depth = .ok (rule.truth scope) := by
  induction rule using byParts generalizing depth with
  | members rule settling rules members ih =>
      have isShallow : depth ≤ scope.config.maxChoiceDepth := by
        have := depth_ne_zero rule
        omega
      have each : ∀ member ∈ rules,
          member.evaluate scope (depth + 1) = .ok (member.truth scope) := by
        intro member isMember
        have below : member.depth ≤ scope.config.maxChoiceDepth - depth :=
          (depth_le_succ_iff members).mp (by omega) member isMember
        refine ih member isMember (by omega) fun leaf isLeaf => ?_
        exact valued leaf ((Rule.mem_leaves_iff members).mpr ⟨member, isMember, isLeaf⟩)
      rw [evaluate_of_members isShallow members]
      rcases evaluateUntil_cases scope (depth + 1) settling rules with
        ⟨pass, result⟩ | ⟨before, next, after, rfl, _, stops, result⟩
      · have noneSettles : ¬∃ member ∈ rules, member.truth scope = settling := by
          rintro ⟨member, isMember, settles⟩
          have passes := pass member isMember
          rw [each member isMember, settles] at passes
          exact (Bool.eq_not_self settling).mp (Except.ok.inj passes)
        rw [result, Bool.eq_not.mpr (mt (truth_eq_settling_iff members scope).mp noneSettles)]
      · have evaluated := each next (by simp)
        have settles : next.truth scope = settling := by
          rw [evaluated] at stops
          exact Bool.not_eq_not.mp fun same => stops (by rw [same])
        rw [result, evaluated, settles,
          (truth_eq_settling_iff members scope).mpr ⟨next, by simp, settles⟩]
  | not inner ih =>
      rw [Rule.depth] at shallow
      have innerDepth := depth_ne_zero inner
      rw [evaluate_not (by omega), ih (by omega) valued, truth]
      rfl
  | leaf rule isLeaf =>
      have leafDepth := depth_ne_zero rule
      rcases isLeaf scope with ⟨result, same⟩
      rcases valued rule (by rw [leaves_of_leaf same]; exact List.mem_singleton_self rule)
        with ⟨value, isValue⟩
      rw [evaluate_of_leaf (by omega) isValue, truth_of_leaf isValue]

/-- The order of members does not matter where no leaf fails and nothing nests too deep. -/
theorem evaluate_of_reorders (reorders : Relation.ReflTransGen Reorders rule other)
    (shallow : rule.depth ≤ scope.config.maxChoiceDepth)
    (valued : ∀ leaf ∈ rule.leaves, ∃ value, leaf.leafResult? scope = some (.ok value)) :
    other.evaluate scope 1 = .ok (rule.truth scope) := by
  induction reorders using Relation.ReflTransGen.head_induction_on with
  | refl => exact evaluate_eq_truth (by omega) valued
  | head step _ ih =>
      rw [step.truth_eq]
      refine ih ((step.depth_le_iff _).mp shallow) fun leaf isLeaf => ?_
      exact valued leaf (step.mem_leaves_iff.mpr isLeaf)

end Order

/-! ## The first branch that holds -/

section Branches

variable {scope : Scope} {place : Nat}

theorem firstMatch_append {before rest : List Branch}
    (fail : ∀ earlier ∈ before, earlier.rule.evaluate scope 1 = .ok false) :
    firstMatch scope place (before ++ rest) = firstMatch scope (place + before.length) rest := by
  induction before generalizing place with
  | nil => rfl
  | cons branch before ih =>
      have fails := fail branch List.mem_cons_self
      rw [List.cons_append, firstMatch, fails]
      refine (ih fun earlier isEarlier => fail earlier (List.mem_cons_of_mem _ isEarlier)).trans ?_
      rw [List.length_cons, Nat.add_assoc, Nat.add_comm 1]

theorem firstMatch_of_holds {branch : Branch} {rest : List Branch}
    (holds : branch.rule.evaluate scope 1 = .ok true) :
    firstMatch scope place (branch :: rest) = .ok (some (place, branch)) := by
  rw [firstMatch, holds]
  rfl

theorem firstMatch_of_error {branch : Branch} {rest : List Branch} {error : Error}
    (failed : branch.rule.evaluate scope 1 = .error error) :
    firstMatch scope place (branch :: rest) = .error error := by
  rw [firstMatch, failed]
  rfl

/-- Branches that do not hold are passed by, up to one that holds or fails. -/
theorem firstMatch_cases (scope : Scope) (branches : List Branch) :
    ((∀ branch ∈ branches, branch.rule.evaluate scope 1 = .ok false) ∧
        firstMatch scope 0 branches = .ok none) ∨
      ∃ before branch after, branches = before ++ branch :: after ∧
        (∀ earlier ∈ before, earlier.rule.evaluate scope 1 = .ok false) ∧
        ((branch.rule.evaluate scope 1 = .ok true ∧
            firstMatch scope 0 branches = .ok (some (before.length, branch))) ∨
          ∃ error, branch.rule.evaluate scope 1 = .error error ∧
            firstMatch scope 0 branches = .error error) := by
  rcases all_or_first (fun branch => branch.rule.evaluate scope 1 = .ok false) branches with
    fail | ⟨before, branch, after, rfl, fail, stops⟩
  · refine Or.inl ⟨fail, ?_⟩
    rw [← List.append_nil branches, firstMatch_append fail]
    rfl
  · refine Or.inr ⟨before, branch, after, rfl, fail, ?_⟩
    rw [firstMatch_append fail, Nat.zero_add]
    cases result : branch.rule.evaluate scope 1 with
    | error error => exact Or.inr ⟨error, rfl, firstMatch_of_error result⟩
    | ok value =>
        cases value with
        | true => exact Or.inl ⟨rfl, firstMatch_of_holds result⟩
        | false => exact absurd result stops

/-- The branch that matches is the first whose rule holds, and no rule in front of it fails. -/
theorem firstMatch_some_iff {branches : List Branch} {branch : Branch} :
    firstMatch scope 0 branches = .ok (some (place, branch)) ↔
      ∃ before after, branches = before ++ branch :: after ∧ before.length = place ∧
        (∀ earlier ∈ before, Yields scope 1 earlier.rule false) ∧
        Yields scope 1 branch.rule true := by
  simp only [← evaluate_ok_iff]
  constructor
  · intro matched
    rcases firstMatch_cases scope branches with
      ⟨_, result⟩ | ⟨before, found, after, rfl, fail, ⟨holds, result⟩ | ⟨error, _, result⟩⟩
    all_goals
      rw [result] at matched
      cases matched
    exact ⟨before, after, rfl, rfl, fail, holds⟩
  · rintro ⟨before, after, rfl, rfl, fail, holds⟩
    rw [firstMatch_append fail, firstMatch_of_holds holds, Nat.zero_add]

theorem firstMatch_none_iff {branches : List Branch} :
    firstMatch scope 0 branches = .ok none ↔
      ∀ branch ∈ branches, Yields scope 1 branch.rule false := by
  simp only [← evaluate_ok_iff]
  constructor
  · intro unmatched
    rcases firstMatch_cases scope branches with
      ⟨fail, _⟩ | ⟨before, found, after, rfl, _, ⟨_, result⟩ | ⟨error, _, result⟩⟩
    · exact fail
    all_goals
      rw [result] at unmatched
      cases unmatched
  · intro fail
    rw [← List.append_nil branches, firstMatch_append fail]
    rfl

/-- The search fails with the rule of a branch when no rule in front of it holds or fails. -/
theorem firstMatch_error_iff {branches : List Branch} {error : Error} :
    firstMatch scope 0 branches = .error error ↔
      ∃ before branch after, branches = before ++ branch :: after ∧
        (∀ earlier ∈ before, Yields scope 1 earlier.rule false) ∧
        branch.rule.evaluate scope 1 = .error error := by
  simp only [← evaluate_ok_iff]
  constructor
  · intro failed
    rcases firstMatch_cases scope branches with
      ⟨_, result⟩ | ⟨before, found, after, rfl, fail, ⟨_, result⟩ | ⟨error, fails, result⟩⟩
    all_goals
      rw [result] at failed
      cases failed
    exact ⟨before, found, after, rfl, fail, fails⟩
  · rintro ⟨before, branch, after, rfl, fail, fails⟩
    rw [firstMatch_append fail, firstMatch_of_error fails]

end Branches

/-! ## Evaluation as a whole -/

/-- Where a rule nests no deeper than the limit and none of its leaves fails, its value is its
truth, in whatever order members stand. In general it has the value that looking from left to right
gives it, or fails with the error of the one rule that this gets to and that raises an error. So
the branch that matches is the first whose rule holds, as long as no rule in front of it fails. -/
theorem evaluate_short_circuits (scope : Scope) (rule : Rule) (branches : List Branch) :
    (rule.depth ≤ scope.config.maxChoiceDepth →
      (∀ leaf ∈ rule.leaves, ∃ value, leaf.leafResult? scope = some (.ok value)) →
      ∀ other, Relation.ReflTransGen Reorders rule other →
        other.evaluate scope 1 = .ok (rule.truth scope)) ∧
    (∀ depth value, rule.evaluate scope depth = .ok value ↔ Yields scope depth rule value) ∧
    (∀ depth error, rule.evaluate scope depth = .error error ↔
      ∃ path node, Reached scope depth rule path node ∧
        node.Errs scope (depth + path.length) error) ∧
    (∀ depth path position node other error second,
      Reached scope depth rule path node → node.Errs scope (depth + path.length) error →
      Reached scope depth rule position other → other.Errs scope (depth + position.length) second →
      position = path ∧ other = node ∧ second = error) ∧
    (∀ place branch, firstMatch scope 0 branches = .ok (some (place, branch)) ↔
      ∃ before after, branches = before ++ branch :: after ∧ before.length = place ∧
        (∀ earlier ∈ before, Yields scope 1 earlier.rule false) ∧
        Yields scope 1 branch.rule true) ∧
    (firstMatch scope 0 branches = .ok none ↔
      ∀ branch ∈ branches, Yields scope 1 branch.rule false) ∧
    (∀ error, firstMatch scope 0 branches = .error error ↔
      ∃ before branch after, branches = before ++ branch :: after ∧
        (∀ earlier ∈ before, Yields scope 1 earlier.rule false) ∧
        branch.rule.evaluate scope 1 = .error error) := by
  refine ⟨?_, fun _ _ => evaluate_ok_iff, fun _ _ => evaluate_error_iff, ?_,
    fun _ _ => firstMatch_some_iff, firstMatch_none_iff, fun _ => firstMatch_error_iff⟩
  · intro shallow valued other reorders
    exact evaluate_of_reorders reorders shallow valued
  · intro depth path position node other error second reached errs reachedOther errsOther
    have same : (.error second : Except Error Bool) = .error error :=
      (evaluate_of_reached reachedOther errsOther).symm.trans (evaluate_of_reached reached errs)
    rcases reached.position_unique errs reachedOther errsOther with ⟨samePath, sameNode⟩
    exact ⟨samePath, sameNode, Except.error.inj same⟩

/-- A scope whose input is `null`, for rules of at most three levels. -/
def nullScope : Scope :=
  { input := .null, context := .null, bindings := [], config := { maxChoiceDepth := 3 } }

/-- The input is `null`. -/
def isNull : Rule := .test "$" (.isKind .null) (.literal (.bool true))

/-- A test of something that is no path. -/
def broken : Rule := .test "" (.isKind .null) (.literal (.bool true))

theorem isNull_result : isNull.leafResult? nullScope = some (.ok true) := rfl

theorem broken_result : ∃ error, broken.leafResult? nullScope = some (.error error) := ⟨_, rfl⟩

/-- A disjunction holds in either order of its members. In front of a member that holds, a broken
test is the one rule that the evaluation fails at; behind it, it is not looked at. -/
theorem evaluate_short_circuits_null :
    (Rule.any [.not isNull, isNull]).evaluate nullScope 1 = .ok true ∧
      (Rule.any [isNull, .not isNull]).evaluate nullScope 1 = .ok true ∧
      (Rule.any [isNull, broken]).evaluate nullScope 1 = .ok true ∧
      ∃ error, (Rule.any [broken, isNull]).evaluate nullScope 1 = .error error ∧
        ∀ position other second, Reached nullScope 1 (.any [broken, isNull]) position other →
          other.Errs nullScope (1 + position.length) second → position = [0] ∧ other = broken := by
  have valued : ∀ leaf ∈ (Rule.any [.not isNull, isNull]).leaves,
      ∃ value, leaf.leafResult? nullScope = some (.ok value) := by
    intro leaf isLeaf
    have same : leaf = isNull := by simpa [leaves, leavesOf, isNull] using isLeaf
    exact ⟨true, by rw [same, isNull_result]⟩
  have shallow : (Rule.any [.not isNull, isNull]).depth ≤ nullScope.config.maxChoiceDepth := by
    decide
  have swapped : Reorders (.any [.not isNull, isNull]) (.any [isNull, .not isNull]) :=
    .here rfl rfl (.swap _ _ _)
  have holds : (Rule.any [.not isNull, isNull]).truth nullScope = true := by
    have isTrue := truth_of_leaf isNull_result
    rw [truth, anyTrue, anyTrue, truth, isTrue]
    rfl
  have inOrder := (evaluate_short_circuits nullScope (.any [.not isNull, isNull]) []).1
    shallow valued
  refine ⟨holds ▸ inOrder _ .refl, holds ▸ inOrder _ (.single swapped), ?_, ?_⟩
  · have members : (Rule.any [isNull, broken]).members? = some (true, [] ++ isNull :: [broken]) :=
      rfl
    refine ((evaluate_short_circuits nullScope _ []).2.1 1 true).mpr ?_
    exact .settled (by decide) members (fun _ isEarlier => nomatch isEarlier)
      (.leaf (by decide) isNull_result)
  · rcases broken_result with ⟨error, result⟩
    have members : (Rule.any [broken, isNull]).members? = some (true, [] ++ broken :: [isNull]) :=
      rfl
    have reached : Reached nullScope 1 (.any [broken, isNull]) [0] broken :=
      .member (by decide) members (fun _ isEarlier => nomatch isEarlier) (.here 2 broken)
    have errs : broken.Errs nullScope (1 + [0].length) error := Or.inr ⟨by decide, result⟩
    have whole := evaluate_short_circuits nullScope (.any [broken, isNull]) []
    refine ⟨error, (whole.2.2.1 1 error).mpr ⟨[0], broken, reached, errs⟩, ?_⟩
    intro position other second reachedOther errsOther
    rcases whole.2.2.2.1 1 _ _ _ _ _ _ reached errs reachedOther errsOther with ⟨path, node, _⟩
    exact ⟨path, node⟩

end Workflow.Rule
