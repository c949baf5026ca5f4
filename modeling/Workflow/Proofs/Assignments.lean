import Workflow.Pipeline
import Workflow.Proofs.Blame

/-!
# Assignments

Variables change in one way: a block assigns its entries over the variables there are, and every
entry is evaluated with the variables and the context of the state. What a block does not name stays
as it is. What a state, a catcher and the branch of a Choice leave behind is what their own block
makes of the variables they are given.
-/

namespace Workflow

/-! ## Results of evaluations -/

/-- An evaluation ends with a value for some source of random numbers. -/
def Evaluation.Returns {α ε : Type} (evaluation : Evaluation ε α) (value : α) : Prop :=
  ∃ source, (evaluation.run source).1 = .ok value

namespace Evaluation

variable {α β ε : Type}

theorem returns_pure {value result : α}
    (returns : Returns (pure value : Evaluation ε α) result) : value = result := by
  rcases returns with ⟨source, same⟩
  cases same
  rfl

theorem run_bind_ok_iff {evaluation : Evaluation ε α} {f : α → Evaluation ε β} {result : β}
    {source later : Random.Source} :
    (evaluation >>= f).run source = (.ok result, later) ↔
      ∃ value next, evaluation.run source = (.ok value, next) ∧
        (f value).run next = (.ok result, later) := by
  rw [run_bind]
  cases evaluation.run source with
  | mk first next =>
    cases first with
    | ok value =>
      constructor
      · intro ends
        exact ⟨value, next, rfl, ends⟩
      · rintro ⟨_, _, ⟨⟩, ends⟩
        exact ends
    | error error =>
      constructor
      · nofun
      · rintro ⟨_, _, ⟨⟩, _⟩

theorem returns_bind {evaluation : Evaluation ε α} {f : α → Evaluation ε β} {result : β}
    (returns : Returns (evaluation >>= f) result) :
    ∃ value, evaluation.Returns value ∧ (f value).Returns result := by
  rcases returns with ⟨source, ends⟩
  obtain ⟨value, next, first, second⟩ := run_bind_ok_iff.mp (Prod.ext ends rfl)
  exact ⟨value, ⟨source, congrArg Prod.fst first⟩, next, congrArg Prod.fst second⟩

theorem run_pure_ok_iff {value result : α} {source later : Random.Source} :
    (pure value : Evaluation ε α).run source = (.ok result, later) ↔
      value = result ∧ source = later := by
  change (Except.ok value, source) = (Except.ok result, later) ↔ _
  rw [Prod.mk.injEq, Except.ok.injEq]

theorem run_adapt_ok_iff {δ : Type} {wrap : ε → δ} {evaluation : Evaluation ε α} {result : α}
    {source later : Random.Source} :
    (ExceptT.adapt wrap evaluation : Evaluation δ α).run source = (.ok result, later) ↔
      evaluation.run source = (.ok result, later) := by
  change (match evaluation.run source with
    | (ends, next) => (ends.mapError wrap, next)) = (Except.ok result, later) ↔ _
  rcases evaluation.run source with ⟨_ | value, next⟩
  · exact iff_of_false nofun nofun
  · constructor
    · rintro ⟨⟩
      rfl
    · rintro ⟨⟩
      rfl

theorem run_lifted_ok_iff {δ : Type} {wrap : ε → δ} {outcome : Except ε α} {result : α}
    {source later : Random.Source} :
    (lifted wrap outcome).run source = (.ok result, later) ↔
      outcome = .ok result ∧ source = later := by
  change (outcome.mapError wrap, source) = (Except.ok result, later) ↔ _
  cases outcome with
  | error error => exact iff_of_false nofun nofun
  | ok value =>
    constructor
    · rintro ⟨⟩
      exact ⟨rfl, rfl⟩
    · rintro ⟨⟨⟩, rfl⟩
      rfl

end Evaluation

namespace Json

theorem lookup_erase_of_ne {key other : String} (different : other ≠ key)
    (members : List (String × Json)) : lookup other (erase key members) = lookup other members := by
  induction members with
  | nil => rfl
  | cons member rest ih =>
      rcases member with ⟨name, value⟩
      by_cases same : name = key
      · subst same
        simp [erase, lookup, different.symm]
      · simp [erase, lookup, same, ih]

end Json

namespace Pipeline

open Evaluation (Error returns_pure returns_bind)

/-! ## Blocks -/

/-- Expressions in a scope read the context and the variables of a state. -/
def Reads (env : Env) (scope : Scope) : Prop :=
  scope.context = env.context ∧ scope.bindings = env.bindings

/-- What a block makes of variables, each entry evaluated in the same scope of a state. -/
def Assigned (assign : Option Json) (env : Env) (before after : Variables) : Prop :=
  ∃ scope, Reads env scope ∧
    (assignOptional assign scope { env with bindings := before }).Returns after

/-- The variables that an entry may set or remove. -/
def namesOf (dialect : Dialect) (key : String) : List String :=
  match dialect with
  | .path => [(Template.dynamicName? key).getD key, withoutMarks key]
  | .functional => [key]

def assignedNames (dialect : Dialect) : Option Json → List String
  | some (.object entries) => entries.flatMap fun entry => namesOf dialect entry.1
  | _ => []

theorem expandEntry_name {key name : String} {value found : Json} {scope : Scope}
    (returns : (Template.expandEntry key value scope).Returns (some (name, found))) :
    name = (Template.dynamicName? key).getD key := by
  rw [Template.expandEntry] at returns
  split at returns
  case h_1 dynamic isDynamic =>
    rcases returns_bind returns with ⟨asked, _, returns⟩
    have same := returns_pure returns
    cases asked with
    | none => cases same
    | some asked =>
        cases same
        rw [isDynamic]
        rfl
  case h_2 notDynamic =>
    rcases returns_bind returns with ⟨expanded, _, returns⟩
    cases returns_pure returns
    rw [notDynamic]
    rfl

theorem assignEntry_lookup {dialect : Dialect} {scope : Scope} {before after : Variables}
    {key other : String} {value : Json}
    (returns : (assignEntry dialect scope before key value).Returns after)
    (unnamed : other ∉ namesOf dialect key) :
    Json.lookup other after = Json.lookup other before := by
  cases dialect with
  | path =>
      simp only [namesOf, List.mem_cons, List.not_mem_nil, or_false, not_or] at unnamed
      rcases returns_bind returns with ⟨found, expanded, returns⟩
      cases found with
      | some found =>
          rcases found with ⟨name, found⟩
          cases returns_pure returns
          rw [expandEntry_name expanded]
          exact Json.lookup_insert_of_ne unnamed.1 _ _
      | none =>
          cases returns_pure returns
          exact Json.lookup_erase_of_ne unnamed.2 _
  | functional =>
      simp only [namesOf, List.mem_singleton] at unnamed
      rcases returns_bind returns with ⟨found, _, returns⟩
      cases returns_pure returns
      exact Json.lookup_insert_of_ne unnamed _ _

theorem assignEntries_lookup {dialect : Dialect} {scope : Scope} {before after : Variables}
    {entries : List (String × Json)} {other : String}
    (returns : (assignEntries dialect scope before entries).Returns after)
    (unnamed : other ∉ entries.flatMap fun entry => namesOf dialect entry.1) :
    Json.lookup other after = Json.lookup other before := by
  induction entries generalizing before with
  | nil => rw [returns_pure returns]
  | cons entry rest ih =>
      rcases entry with ⟨key, value⟩
      rw [List.flatMap_cons, List.mem_append, not_or] at unnamed
      rcases returns_bind returns with ⟨assigned, first, returns⟩
      rw [ih returns unnamed.2, assignEntry_lookup first unnamed.1]

/-- What a block does not name stays as it is. -/
theorem Assigned.lookup_eq {assign : Option Json} {env : Env} {before after : Variables}
    {other : String} (assigned : Assigned assign env before after)
    (unnamed : other ∉ assignedNames env.dialect assign) :
    Json.lookup other after = Json.lookup other before := by
  rcases assigned with ⟨scope, _, returns⟩
  have unassigned : (pure before : Evaluation Error Variables).Returns after →
      Json.lookup other after = Json.lookup other before :=
    fun returns => by rw [returns_pure returns]
  match assign with
  | none => exact unassigned returns
  | some (.object entries) => exact assignEntries_lookup returns unnamed
  | some .null => exact unassigned returns
  | some (.bool _) => exact unassigned returns
  | some (.number _) => exact unassigned returns
  | some (.string _) => exact unassigned returns
  | some (.array _) => exact unassigned returns

/-! ## Completion -/

theorem complete_assigned {common : Common} {raw result : Json} {env : Env} {done : Completed}
    (returns : (complete common raw result env).Returns done) :
    Assigned common.assign env env.bindings done.bindings := by
  rw [complete] at returns
  split at returns
  case h_1 =>
    dsimp only at returns
    split at returns
    all_goals
      rcases returns_bind returns with ⟨shaped, _, returns⟩
      rcases returns_bind returns with ⟨bindings, assigned, returns⟩
      rcases returns_bind returns with ⟨placed, _, returns⟩
      rcases returns_bind returns with ⟨output, _, returns⟩
      cases returns_pure returns
      exact ⟨_, ⟨rfl, rfl⟩, assigned⟩
  case h_2 =>
    rcases returns_bind returns with ⟨bindings, assigned, returns⟩
    rcases returns_bind returns with ⟨output, _, returns⟩
    cases returns_pure returns
    exact ⟨_, ⟨rfl, rfl⟩, assigned⟩

theorem catchOutput_assigned {catcher : Catcher} {raw : Json} {failure : Failure} {env : Env}
    {done : Completed} (returns : (catchOutput catcher raw failure env).Returns done) :
    Assigned catcher.assign env env.bindings done.bindings := by
  rw [catchOutput] at returns
  split at returns
  case h_1 =>
    rcases returns_bind returns with ⟨bindings, assigned, returns⟩
    rcases returns_bind returns with ⟨output, _, returns⟩
    cases returns_pure returns
    exact ⟨_, ⟨rfl, rfl⟩, assigned⟩
  case h_2 =>
    rcases returns_bind returns with ⟨bindings, assigned, returns⟩
    rcases returns_bind returns with ⟨output, _, returns⟩
    cases returns_pure returns
    exact ⟨_, ⟨rfl, rfl⟩, assigned⟩

theorem completeBranch_assigned {branch : Branch} {raw effective : Json} {env : Env}
    {done final : Completed}
    (returns : (completeBranch branch raw effective env done).Returns final) :
    Assigned branch.assign env done.bindings final.bindings := by
  rcases returns_bind returns with ⟨bindings, assigned, returns⟩
  rcases returns_bind returns with ⟨output, _, returns⟩
  cases returns_pure returns
  refine ⟨_, ?_, assigned⟩
  split <;> exact ⟨rfl, rfl⟩

end Pipeline

end Workflow
