import Mathlib.Data.List.Basic
import Workflow.Proofs.Assignments

/-!
# Precedence

In the path dialect, completing a state takes four steps that may fail: a result is selected from,
placed in the raw input, narrowed, and variables are assigned from what was selected. The steps are
numbered in this order, and two of them failing at once raises the question whose error is seen.
Variables are assigned as soon as the result is selected, ahead of their turn. Assigning and placing
do not depend on each other, so this shows in nothing but the error of a state for which both fail.
-/

namespace Workflow

namespace Evaluation

variable {α β ε : Type} {source later : Random.Source}

theorem run_ofExcept_iff {outcome result : Except ε α} :
    (ofExcept outcome).run source = (result, later) ↔ outcome = result ∧ source = later := by
  change (outcome, source) = (result, later) ↔ _
  rw [Prod.mk.injEq]

theorem run_adapt {δ : Type} (wrap : ε → δ) (evaluation : Evaluation ε α)
    (source : Random.Source) :
    (ExceptT.adapt wrap evaluation : Evaluation δ α).run source =
      ((evaluation.run source).1.mapError wrap, (evaluation.run source).2) :=
  rfl

theorem run_bind_error_iff {evaluation : Evaluation ε α} {f : α → Evaluation ε β} {error : ε} :
    (evaluation >>= f).run source = (.error error, later) ↔
      evaluation.run source = (.error error, later) ∨
        ∃ value next, evaluation.run source = (.ok value, next) ∧
          (f value).run next = (.error error, later) := by
  rw [run_bind]
  rcases evaluation.run source with ⟨other | value, next⟩
  · constructor
    · rintro ⟨⟩
      exact Or.inl rfl
    · rintro (⟨⟨⟩⟩ | ⟨_, _, ⟨⟩, _⟩)
      rfl
  · constructor
    · intro fails
      exact Or.inr ⟨value, next, rfl, fails⟩
    · rintro (⟨⟨⟩⟩ | ⟨_, _, ⟨⟩, fails⟩)
      exact fails

theorem run_pure_error {value : α} {error : ε} :
    (pure value : Evaluation ε α).run source ≠ (.error error, later) :=
  nofun

end Evaluation

namespace Pipeline

open Evaluation (Error run_adapt run_bind run_bind_ok_iff run_bind_error_iff run_pure_ok_iff
  run_pure_error run_ofExcept_iff)

section Steps

variable (common : Common) (raw result : Json) (env : Env)

/-- What is selected from a result. -/
def shape : Evaluation Error Json :=
  match common.resultSelector with
  | some selector => Template.expand (env.scope result) selector
  | none => return result

/-- The output that is made of what was selected: placed first, and then narrowed. -/
def deliver (shaped : Json) : Except Error Json := do
  let placed ← placeResult common.resultPath raw shaped
  narrow common.outputPath placed env

/-- What is assigned from what was selected. -/
abbrev assignFrom (shaped : Json) : Evaluation Error Variables :=
  assignOptional common.assign (env.scope shaped) env

/-- Completion with every step in its turn: variables are assigned last. -/
def completeInTurn : Evaluation Error Completed := do
  let shaped ← shape common result env
  let output ← Evaluation.ofExcept (deliver common raw env shaped)
  let bindings ← assignFrom common env shaped
  return { output, bindings }

end Steps

section Completion

variable {common : Common} {raw result : Json} {env : Env}

theorem complete_path (dialect : env.dialect = .path) :
    complete common raw result env = (do
      let shaped ← shape common result env
      let bindings ← assignFrom common env shaped
      let output ← Evaluation.ofExcept (deliver common raw env shaped)
      return { output, bindings }) := by
  have rest (shaped : Json) : (do
      let bindings ← assignFrom common env shaped
      let placed ← Evaluation.ofExcept (placeResult common.resultPath raw shaped)
      let output ← Evaluation.ofExcept (narrow common.outputPath placed env)
      return ({ output, bindings } : Completed)) = (do
      let bindings ← assignFrom common env shaped
      let output ← Evaluation.ofExcept (deliver common raw env shaped)
      return { output, bindings }) := by
    refine congrArg (assignFrom common env shaped >>= ·) (funext fun bindings => ?_)
    rw [deliver]
    cases placeResult common.resultPath raw shaped <;> rfl
  rw [complete, dialect, shape]
  cases common.resultSelector with
  | none => exact rest result
  | some selector =>
      exact congrArg (Template.expand (env.scope result) selector >>= ·) (funext rest)

/-- A completion is made of what each step comes to by itself. -/
theorem complete_ok_iff (dialect : env.dialect = .path) {source later : Random.Source}
    {done : Completed} :
    (complete common raw result env).run source = (.ok done, later) ↔
      ∃ shaped next, (shape common result env).run source = (.ok shaped, next) ∧
        deliver common raw env shaped = .ok done.output ∧
        (assignFrom common env shaped).run next = (.ok done.bindings, later) := by
  simp only [complete_path dialect, run_bind_ok_iff, run_ofExcept_iff, run_pure_ok_iff]
  constructor
  · rintro ⟨shaped, next, selects, bindings, _, assigns, output, _, ⟨delivers, rfl⟩, rfl, rfl⟩
    exact ⟨shaped, next, selects, delivers, assigns⟩
  · rintro ⟨shaped, next, selects, delivers, assigns⟩
    exact ⟨shaped, next, selects, _, later, assigns, _, later, ⟨delivers, rfl⟩, rfl, rfl⟩

theorem completeInTurn_ok_iff {source later : Random.Source} {done : Completed} :
    (completeInTurn common raw result env).run source = (.ok done, later) ↔
      ∃ shaped next, (shape common result env).run source = (.ok shaped, next) ∧
        deliver common raw env shaped = .ok done.output ∧
        (assignFrom common env shaped).run next = (.ok done.bindings, later) := by
  simp only [completeInTurn, run_bind_ok_iff, run_ofExcept_iff, run_pure_ok_iff]
  constructor
  · rintro ⟨shaped, next, selects, output, _, ⟨delivers, rfl⟩, bindings, _, assigns, rfl, rfl⟩
    exact ⟨shaped, next, selects, delivers, assigns⟩
  · rintro ⟨shaped, next, selects, delivers, assigns⟩
    exact ⟨shaped, next, selects, _, next, ⟨delivers, rfl⟩, _, later, assigns, rfl, rfl⟩

/-- Assigning is the second step to fail, and delivering the last. -/
theorem complete_error_iff (dialect : env.dialect = .path) {source later : Random.Source}
    {error : Error} :
    (complete common raw result env).run source = (.error error, later) ↔
      (shape common result env).run source = (.error error, later) ∨
        ∃ shaped next, (shape common result env).run source = (.ok shaped, next) ∧
          ((assignFrom common env shaped).run next = (.error error, later) ∨
            ∃ bindings, (assignFrom common env shaped).run next = (.ok bindings, later) ∧
              deliver common raw env shaped = .error error) := by
  simp only [complete_path dialect, run_bind_error_iff, run_ofExcept_iff, run_pure_error, and_false,
    exists_false, or_false]
  constructor
  · rintro (fails | ⟨shaped, next, selects, fails | ⟨bindings, _, assigns, fails, rfl⟩⟩)
    · exact Or.inl fails
    · exact Or.inr ⟨shaped, next, selects, Or.inl fails⟩
    · exact Or.inr ⟨shaped, next, selects, Or.inr ⟨bindings, assigns, fails⟩⟩
  · rintro (fails | ⟨shaped, next, selects, fails | ⟨bindings, assigns, fails⟩⟩)
    · exact Or.inl fails
    · exact Or.inr ⟨shaped, next, selects, Or.inl fails⟩
    · exact Or.inr ⟨shaped, next, selects, Or.inr ⟨bindings, later, assigns, fails, rfl⟩⟩

theorem completeInTurn_error_iff {source later : Random.Source} {error : Error} :
    (completeInTurn common raw result env).run source = (.error error, later) ↔
      (shape common result env).run source = (.error error, later) ∨
        ∃ shaped next, (shape common result env).run source = (.ok shaped, next) ∧
          (deliver common raw env shaped = .error error ∧ next = later ∨
            ∃ output, deliver common raw env shaped = .ok output ∧
              (assignFrom common env shaped).run next = (.error error, later)) := by
  simp only [completeInTurn, run_bind_error_iff, run_ofExcept_iff, run_pure_error, and_false,
    exists_false, or_false]
  constructor
  · rintro (fails | ⟨shaped, next, selects, fails | ⟨output, _, ⟨delivers, rfl⟩, fails⟩⟩)
    · exact Or.inl fails
    · exact Or.inr ⟨shaped, next, selects, Or.inl fails⟩
    · exact Or.inr ⟨shaped, next, selects, Or.inr ⟨output, delivers, fails⟩⟩
  · rintro (fails | ⟨shaped, next, selects, fails | ⟨output, delivers, fails⟩⟩)
    · exact Or.inl fails
    · exact Or.inr ⟨shaped, next, selects, Or.inl fails⟩
    · exact Or.inr ⟨shaped, next, selects, Or.inr ⟨output, next, ⟨delivers, rfl⟩, fails⟩⟩

/-- The two orders disagree about an error only if it is raised by assigning, and delivering fails
as well. -/
theorem errors_agree (dialect : env.dialect = .path) {source later other : Random.Source}
    {early late : Error}
    (fails : (complete common raw result env).run source = (.error early, later))
    (failsInTurn : (completeInTurn common raw result env).run source = (.error late, other)) :
    early = late ∨
      ∃ shaped next, (shape common result env).run source = (.ok shaped, next) ∧
        (assignFrom common env shaped).run next = (.error early, later) ∧
        deliver common raw env shaped = .error late := by
  rcases (complete_error_iff dialect).mp fails with unselected | ⟨shaped, next, selects, fails⟩
  · rcases completeInTurn_error_iff.mp failsInTurn with unselectedToo | ⟨_, _, selects, _⟩
    · cases unselected.symm.trans unselectedToo
      exact Or.inl rfl
    · cases unselected.symm.trans selects
  · rcases completeInTurn_error_iff.mp failsInTurn with
      unselected | ⟨_, _, selectsToo, failsInTurn⟩
    · cases unselected.symm.trans selects
    · cases selects.symm.trans selectsToo
      rcases fails with unassigned | ⟨bindings, assigns, undelivered⟩
      · rcases failsInTurn with ⟨undelivered, _⟩ | ⟨_, _, unassignedToo⟩
        · exact Or.inr ⟨shaped, next, selects, unassigned, undelivered⟩
        · cases unassigned.symm.trans unassignedToo
          exact Or.inl rfl
      · rcases failsInTurn with ⟨undeliveredToo, _⟩ | ⟨_, delivers, _⟩
        · cases undelivered.symm.trans undeliveredToo
          exact Or.inl rfl
        · cases undelivered.symm.trans delivers

end Completion

/-- Completion in the path dialect succeeds as if its steps were taken in turn, with the same output
and the same variables, and nothing that is assigned shows in the output. When it fails, selecting
comes first, assigning second and delivering last; so an error is the one of the first step in turn
that fails, unless assigning and delivering both do. A value in the way of a result path is reported
as such, unless assigning fails. -/
theorem complete_assigns_early (common : Common) (raw result : Json) {env : Env}
    (dialect : env.dialect = .path) (source : Random.Source) :
    (∀ done later, (complete common raw result env).run source = (.ok done, later) ↔
      (completeInTurn common raw result env).run source = (.ok done, later)) ∧
    (∀ done later, (complete common raw result env).run source = (.ok done, later) ↔
      ∃ shaped next, (shape common result env).run source = (.ok shaped, next) ∧
        deliver common raw env shaped = .ok done.output ∧
        (assignFrom common env shaped).run next = (.ok done.bindings, later)) ∧
    (∀ error later, (complete common raw result env).run source = (.error error, later) ↔
      (shape common result env).run source = (.error error, later) ∨
        ∃ shaped next, (shape common result env).run source = (.ok shaped, next) ∧
          ((assignFrom common env shaped).run next = (.error error, later) ∨
            ∃ bindings, (assignFrom common env shaped).run next = (.ok bindings, later) ∧
              deliver common raw env shaped = .error error)) ∧
    (∀ early late later other,
      (complete common raw result env).run source = (.error early, later) →
      (completeInTurn common raw result env).run source = (.error late, other) →
      early = late ∨
        ∃ shaped next, (shape common result env).run source = (.ok shaped, next) ∧
          (assignFrom common env shaped).run next = (.error early, later) ∧
          deliver common raw env shaped = .error late) ∧
    ∀ shaped next bindings later text obstacle,
      (shape common result env).run source = (.ok shaped, next) →
      (assignFrom common env shaped).run next = (.ok bindings, later) →
      placeResult common.resultPath raw shaped = .error (.path (.blocked text obstacle)) →
      ((complete common raw result env).run source).1.mapError Error.fault =
        .error (.reserved .resultPathMatchFailure
          ("unable to apply ResultPath '" ++ text ++ "': " ++ obstacle.message)) := by
  refine ⟨fun done later => ?_, fun done later => complete_ok_iff dialect,
    fun error later => complete_error_iff dialect,
    fun early late later other fails failsInTurn => errors_agree dialect fails failsInTurn, ?_⟩
  · rw [complete_ok_iff dialect, completeInTurn_ok_iff]
  · intro shaped next bindings later text obstacle selects assigns blocked
    have undelivered : deliver common raw env shaped = .error (.path (.blocked text obstacle)) := by
      rw [deliver, blocked]
      rfl
    have fails := (complete_error_iff dialect).mpr
      (Or.inr ⟨shaped, next, selects, Or.inr ⟨bindings, assigns, undelivered⟩⟩)
    rw [fails]
    rfl

/-! ## A result that cannot be placed -/

/-- The environment of a state that has no variables yet. -/
def unbound : Env where
  context := .null
  bindings := []
  config := {}
  dialect := .path

/-- A state that keeps what is priced in an order, and assigns something besides. -/
def priced (assign : Json) : Common :=
  { resultPath := some (some "$.order.price"), assign := some assign, ends := some true }

/-- The order is a number, so it has no place for a price. -/
def ordered : Json := .object [("order", .nat 12)]

def billed : Json := .object [("price", .string "7")]

set_option maxRecDepth 20000 in
theorem place_price (result : Json) :
    placeResult (some (some "$.order.price")) ordered result =
      .error (.path (.blocked "$.order.price" (.wrongKind (.name "price") "number"))) := by
  have read : Path.parse "$.order.price" = .ok ⟨.input, [.child "order", .child "price"]⟩ := by
    cbv
  change (Path.place "$.order.price" ordered result).mapError Error.path = _
  rw [Path.place, read]
  rfl

/-- A price that is copied into a variable does not hide that it cannot be placed. -/
theorem complete_assigns_early_priced :
    unbound.dialect = .path ∧
      ((complete (priced (.object [("sum", .nat 7)])) ordered billed unbound).run
          default).1.mapError Error.fault =
        .error (.reserved .resultPathMatchFailure
          "unable to apply ResultPath '$.order.price': cannot apply Child(\"price\") to number") := by
  have assigns : (assignFrom (priced (.object [("sum", .nat 7)])) unbound billed).run default =
      (.ok [("sum", .nat 7)], default) := by
    rfl
  exact ⟨rfl, (complete_assigns_early (priced (.object [("sum", .nat 7)])) ordered billed rfl
    default).2.2.2.2 billed default _ _ _ _ rfl assigns (place_price billed)⟩

set_option maxRecDepth 20000 in
theorem evaluate_sum :
    (Intrinsic.evaluate "States.MathAdd($.price, $.price)" (unbound.scope billed)).run default =
      (.error (.refused "MathAdd" .notNumbers), default) := by
  have read : Intrinsic.parse "States.MathAdd($.price, $.price)" =
      .ok (.mk "MathAdd" [.path "$.price", .path "$.price"]) := by cbv
  have readPrice : Path.parse "$.price" = .ok ⟨.input, [.child "price"]⟩ := by cbv
  have found : Path.evaluate "$.price" (unbound.scope billed) = .ok (some (.string "7")) := by
    rw [Path.evaluate, readPrice]
    rfl
  rw [Intrinsic.evaluate, read]
  simp only [Intrinsic.Call.evaluate, Intrinsic.evaluateAll, Intrinsic.Argument.evaluate, found]
  rfl

/-- An assignment that adds a price to itself. -/
def doubling : Json := .object [("sum.$", .string "States.MathAdd($.price, $.price)")]

theorem assign_doubling :
    (assignFrom (priced doubling) unbound billed).run default =
      (.error (.intrinsic (.refused "MathAdd" .notNumbers)), default) := by
  have isDynamic : Template.dynamicName? "sum.$" = some "sum" := by decide
  have isCall : Intrinsic.looksLike "States.MathAdd($.price, $.price)" = true := by decide
  change (assignEntries .path (unbound.scope billed) []
    [("sum.$", .string "States.MathAdd($.price, $.price)")]).run default = _
  rw [assignEntries, run_bind, assignEntry, run_bind, Template.expandEntry, isDynamic]
  dsimp only
  rw [run_bind, Template.dynamicValue, if_pos isCall, run_bind]
  rw [run_adapt, evaluate_sum]
  rfl

/-- A price that is no number hides it, though placing comes first in turn. -/
theorem blocked_path_hidden :
    ((complete (priced doubling) ordered billed unbound).run default).1.mapError Error.fault =
        .error (.reserved .intrinsicFailure "States.MathAdd: both arguments must be numbers") ∧
      ((completeInTurn (priced doubling) ordered billed unbound).run default).1.mapError
          Error.fault =
        .error (.reserved .resultPathMatchFailure
          "unable to apply ResultPath '$.order.price': cannot apply Child(\"price\") to number") := by
  have selects : (shape (priced doubling) billed unbound).run default = (.ok billed, default) := rfl
  have undelivered : deliver (priced doubling) ordered unbound billed =
      .error (.path (.blocked "$.order.price" (.wrongKind (.name "price") "number"))) := by
    have blocked : placeResult (priced doubling).resultPath ordered billed = _ := place_price billed
    rw [deliver, blocked]
    rfl
  have early : (complete (priced doubling) ordered billed unbound).run default = _ :=
    (complete_error_iff rfl).mpr (Or.inr ⟨billed, default, selects, Or.inl assign_doubling⟩)
  have late := completeInTurn_error_iff.mpr
    (Or.inr ⟨billed, default, selects, Or.inl ⟨undelivered, rfl⟩⟩)
  rw [early, late]
  exact ⟨rfl, rfl⟩

end Pipeline

end Workflow
