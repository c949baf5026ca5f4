import Workflow.Pipeline
import Workflow.Proofs.Blame
import Workflow.Proofs.Checking
import Workflow.Rule.Eval

/-!
# Genuine errors

An expression may be refused because its text is no call. This is proved to be said only of texts
that cannot be read as calls: first of calls by themselves, then of templates, and then of
everything that shapes data. Likewise a rule is called too deep only when it nests that deep.
-/

namespace Workflow

open Evaluation (Raises)

/-! ## Calls -/

namespace Intrinsic

/-- An error calls a text malformed only when the text cannot be read. -/
def Error.Genuine : Error → Prop
  | .malformed text flaw offset => parse text = .error (.malformed text flaw offset)
  | _ => True

theorem parse_genuine (text : String) {error : Error} (failed : parse text = .error error) :
    error.Genuine := by
  cases error with
  | malformed other flaw offset =>
      have same : other = text := by
        simp only [parse] at failed
        split at failed <;> cases failed
        rfl
      rwa [same] at failed ⊢
  | _ => trivial

theorem apply_genuine (config : Config) (name : String) (arguments : List Json) :
    Raises Error.Genuine (apply config name arguments) := by
  rw [apply]
  split
  · exact Evaluation.raises_throw trivial
  · split
    · exact Evaluation.raises_adapt fun _ _ _ => trivial
    · exact Evaluation.raises_throw trivial

mutual

theorem Call.evaluate_genuine (scope : Scope) (call : Call) :
    Raises Error.Genuine (call.evaluate scope) := by
  cases call with
  | mk name arguments =>
      rw [Call.evaluate]
      exact Evaluation.raises_bind (evaluateAll_genuine scope arguments) fun values =>
        apply_genuine scope.config name values

theorem evaluateAll_genuine (scope : Scope) (arguments : List Argument) :
    Raises Error.Genuine (evaluateAll scope arguments) := by
  cases arguments with
  | nil =>
      rw [evaluateAll]
      exact Evaluation.raises_pure []
  | cons argument rest =>
      rw [evaluateAll]
      refine Evaluation.raises_bind (Argument.evaluate_genuine scope argument) fun value => ?_
      refine Evaluation.raises_bind (evaluateAll_genuine scope rest) fun values => ?_
      exact Evaluation.raises_pure _

theorem Argument.evaluate_genuine (scope : Scope) (argument : Argument) :
    Raises Error.Genuine (argument.evaluate scope) := by
  cases argument with
  | literal value =>
      rw [Argument.evaluate]
      exact Evaluation.raises_pure value
  | call inner =>
      rw [Argument.evaluate]
      exact Call.evaluate_genuine scope inner
  | path text =>
      rw [Argument.evaluate]
      split
      · exact Evaluation.raises_pure _
      · exact Evaluation.raises_throw trivial
      · exact Evaluation.raises_throw trivial

end

theorem evaluate_genuine (text : String) (scope : Scope) :
    Raises Error.Genuine (evaluate text scope) := by
  rw [evaluate]
  split
  case h_1 call read => exact Call.evaluate_genuine scope call
  case h_2 error failed => exact Evaluation.raises_throw (parse_genuine text failed)

end Intrinsic

/-! ## Templates -/

/-- An error calls a text malformed only when the text cannot be read. -/
def Evaluation.Error.Genuine : Evaluation.Error → Prop
  | .intrinsic error => error.Genuine
  | _ => True

namespace Template

open Evaluation (raises_pure raises_bind raises_throw raises_lifted raises_adapt)
open Evaluation.Error (Genuine)

theorem dynamicValue_genuine (key : String) (value : Json) (scope : Scope) :
    Raises Genuine (dynamicValue key value scope) := by
  simp only [dynamicValue]
  split
  · split
    · refine raises_bind (raises_adapt (Intrinsic.evaluate_genuine _ scope)) fun found => ?_
      exact raises_pure _
    · exact raises_lifted fun _ _ => trivial
  · exact raises_throw trivial

mutual

theorem expand_genuine (scope : Scope) (template : Json) :
    Raises Genuine (expand scope template) := by
  cases template with
  | object members =>
      rw [expand]
      refine raises_bind (expandMembers_genuine scope [] members) fun written => ?_
      exact raises_pure _
  | array items =>
      rw [expand]
      refine raises_bind (expandItems_genuine scope items) fun written => ?_
      exact raises_pure _
  | null => exact raises_pure _
  | bool value => exact raises_pure _
  | number value => exact raises_pure _
  | string text => exact raises_pure _

theorem expandItems_genuine (scope : Scope) (items : List Json) :
    Raises Genuine (expandItems scope items) := by
  cases items with
  | nil =>
      rw [expandItems]
      exact raises_pure []
  | cons item rest =>
      rw [expandItems]
      refine raises_bind (expand_genuine scope item) fun first => ?_
      refine raises_bind (expandItems_genuine scope rest) fun others => ?_
      exact raises_pure _

theorem expandMembers_genuine (scope : Scope) (written members : List (String × Json)) :
    Raises Genuine (expandMembers scope written members) := by
  match members with
  | [] =>
      rw [expandMembers]
      exact raises_pure written
  | (key, value) :: rest =>
      rw [expandMembers]
      split
      · refine raises_bind (dynamicValue_genuine key value scope) fun found => ?_
        cases found with
        | some found => exact expandMembers_genuine scope _ rest
        | none => exact expandMembers_genuine scope written rest
      · refine raises_bind (expand_genuine scope value) fun found => ?_
        exact expandMembers_genuine scope _ rest

end

theorem expandEntry_genuine (key : String) (value : Json) (scope : Scope) :
    Raises Genuine (expandEntry key value scope) := by
  rw [expandEntry]
  split
  · refine raises_bind (dynamicValue_genuine key value scope) fun found => ?_
    exact raises_pure _
  · refine raises_bind (expand_genuine scope value) fun found => ?_
    exact raises_pure _

end Template

section Shaping

open Evaluation (raises_pure raises_bind raises_throw raises_lifted raises_adapt raises_ofExcept)
open Evaluation.Error (Genuine)

theorem Dialect.expand_genuine (dialect : Dialect) (template : Json) (scope : Scope) :
    Raises Genuine (dialect.expand template scope) := by
  cases dialect with
  | path => exact Template.expand_genuine scope template
  | functional => exact raises_lifted fun _ _ => trivial

/-! ## Shaping data -/

namespace Pipeline

theorem narrow_genuine {path : Option (Option String)} {value : Json} {env : Env}
    {error : Evaluation.Error} (failed : narrow path value env = .error error) :
    error.Genuine := by
  simp only [narrow] at failed
  split at failed
  · cases failed
  · cases failed
  · cases found : (Path.evaluate _ (env.scope value)).map fun found => found.getD .null <;>
      rw [found] at failed <;> cases failed
    trivial

theorem selectInput_genuine {common : Common} {raw : Json} {env : Env}
    {error : Evaluation.Error} (failed : selectInput common raw env = .error error) :
    error.Genuine := by
  rw [selectInput] at failed
  split at failed
  · exact narrow_genuine failed
  · cases failed

theorem placeResult_genuine {path : Option (Option String)} {raw result : Json}
    {error : Evaluation.Error} (failed : placeResult path raw result = .error error) :
    error.Genuine := by
  simp only [placeResult] at failed
  split at failed
  · cases failed
  · cases failed
  · cases placed : Path.place _ raw result <;> rw [placed] at failed <;> cases failed
    trivial

theorem buildArguments_genuine (template : Option Json) (effective : Json) (env : Env) :
    Raises Genuine (buildArguments template effective env) := by
  cases template with
  | none => exact raises_pure effective
  | some template => exact Dialect.expand_genuine env.dialect template (env.scope effective)

theorem assignEntry_genuine (dialect : Dialect) (scope : Scope) (bindings : Variables)
    (key : String) (value : Json) :
    Raises Genuine (assignEntry dialect scope bindings key value) := by
  cases dialect with
  | path =>
      refine raises_bind (Template.expandEntry_genuine key value scope) fun found => ?_
      cases found <;> exact raises_pure _
  | functional =>
      refine raises_bind (raises_lifted fun _ _ => trivial) fun found => ?_
      exact raises_pure _

theorem assignEntries_genuine (dialect : Dialect) (scope : Scope) (bindings : Variables)
    (entries : List (String × Json)) :
    Raises Genuine (assignEntries dialect scope bindings entries) := by
  induction entries generalizing bindings with
  | nil => exact raises_pure bindings
  | cons entry rest ih =>
      exact raises_bind (assignEntry_genuine dialect scope bindings _ _) ih

theorem assignOptional_genuine (assign : Option Json) (scope : Scope) (env : Env) :
    Raises Genuine (assignOptional assign scope env) := by
  unfold assignOptional applyAssign
  split
  · split
    · exact assignEntries_genuine env.dialect scope env.bindings _
    · exact raises_pure _
  · exact raises_pure _

theorem outputOr_genuine (template : Option Json) (value : Json) (scope : Scope) :
    Raises Genuine (outputOr template value scope) := by
  cases template with
  | none => exact raises_pure value
  | some template => exact raises_lifted fun _ _ => trivial

theorem complete_genuine (common : Common) (raw result : Json) (env : Env) :
    Raises Genuine (complete common raw result env) := by
  rw [complete]
  split
  · have finished : ∀ shaped, Raises Genuine (do
        let bindings ← assignOptional common.assign (env.scope shaped) env
        let placed ← Evaluation.ofExcept (placeResult common.resultPath raw shaped)
        let output ← Evaluation.ofExcept (narrow common.outputPath placed env)
        return ({ output, bindings } : Completed)) := by
      intro shaped
      refine raises_bind (assignOptional_genuine _ _ env) fun bindings => ?_
      refine raises_bind (raises_ofExcept fun _ => placeResult_genuine) fun placed => ?_
      refine raises_bind (raises_ofExcept fun _ => narrow_genuine) fun output => ?_
      exact raises_pure _
    dsimp only
    split
    · exact raises_bind (Template.expand_genuine _ _) finished
    · exact raises_bind (raises_pure result) finished
  · refine raises_bind (assignOptional_genuine _ _ env) fun bindings => ?_
    refine raises_bind (outputOr_genuine _ result _) fun output => ?_
    exact raises_pure _

theorem catchOutput_genuine (catcher : Catcher) (raw : Json) (failure : Failure) (env : Env) :
    Raises Genuine (catchOutput catcher raw failure env) := by
  rw [catchOutput]
  split
  · refine raises_bind (assignOptional_genuine _ _ env) fun bindings => ?_
    refine raises_bind (raises_ofExcept fun _ => placeResult_genuine) fun output => ?_
    exact raises_pure _
  · refine raises_bind (assignOptional_genuine _ _ env) fun bindings => ?_
    refine raises_bind (outputOr_genuine _ _ _) fun output => ?_
    exact raises_pure _

theorem completeBranch_genuine (branch : Branch) (raw effective : Json) (env : Env)
    (done : Completed) : Raises Genuine (completeBranch branch raw effective env done) := by
  rw [completeBranch]
  refine raises_bind (assignOptional_genuine _ _ _) fun bindings => ?_
  refine raises_bind (outputOr_genuine _ _ _) fun output => ?_
  exact raises_pure _

end Pipeline

end Shaping

/-! ## Rules -/

namespace Rule

mutual

/-- How deep a rule nests; a rule without others below it has depth one. -/
def depth : Rule → Nat
  | .all rules => deepest rules + 1
  | .any rules => deepest rules + 1
  | .not inner => inner.depth + 1
  | .test _ _ _ => 1
  | .condition _ => 1

def deepest : List Rule → Nat
  | [] => 0
  | rule :: rest => max rule.depth (deepest rest)

end

/-- An error says that a rule nests too deep only when it nests below a bound that lies beyond the
limit. -/
def Error.Genuine (config : Config) (bound : Nat) : Error → Prop
  | .evaluation error => error.Genuine
  | .tooDeep limit => limit = config.maxChoiceDepth ∧ limit + 1 < bound

theorem Error.Genuine.mono {config : Config} {bound further : Nat} {error : Error}
    (genuine : error.Genuine config bound) (le : bound ≤ further) :
    error.Genuine config further := by
  cases error with
  | evaluation error => exact genuine
  | tooDeep limit => exact ⟨genuine.1, by have := genuine.2; omega⟩

theorem resolve_genuine {text : String} {scope : Scope} {error : Evaluation.Error}
    (failed : resolve text scope = .error error) : error.Genuine := by
  rw [resolve] at failed
  split at failed
  · obtain ⟨_, _, rfl⟩ := Except.mapError_eq_error.mp failed
    trivial
  · obtain ⟨_, _, rfl⟩ := Except.mapError_eq_error.mp failed
    trivial

theorem evaluateTest_genuine {scope : Scope} {subject : String} {operator : Operator}
    {operand : Operand} {error : Evaluation.Error}
    (failed : evaluateTest scope subject operator operand = .error error) : error.Genuine := by
  rw [evaluateTest] at failed
  cases found : resolve subject scope with
  | error other =>
      rw [found] at failed
      cases failed
      exact resolve_genuine found
  | ok value =>
      rw [found] at failed
      simp only [bind, Except.bind] at failed
      split at failed
      · cases failed
      · cases failed
      · cases failed
      · cases given : operand.value scope with
        | ok other =>
            rw [given] at failed
            cases other <;> cases failed
        | error other =>
            rw [given] at failed
            cases failed
            cases operand with
            | literal value => cases given
            | path text => exact resolve_genuine given

theorem depth_ne_zero (rule : Rule) : rule.depth ≠ 0 := by
  cases rule <;> simp [depth]

/-- Beyond the limit no rule is looked at. -/
theorem evaluate_of_deep {scope : Scope} {depth : Nat} {rule : Rule}
    (deep : scope.config.maxChoiceDepth < depth) :
    rule.evaluate scope depth = .error (.tooDeep scope.config.maxChoiceDepth) := by
  cases rule <;> rw [evaluate, if_pos deep]

mutual

theorem evaluate_genuine {scope : Scope} {depth : Nat} {rule : Rule} {error : Error}
    (failed : rule.evaluate scope depth = .error error) :
    error.Genuine scope.config (depth + rule.depth) := by
  by_cases deep : scope.config.maxChoiceDepth < depth
  · rw [evaluate_of_deep deep] at failed
    cases failed
    have nested := depth_ne_zero rule
    exact ⟨rfl, by omega⟩
  cases rule with
  | all rules =>
      rw [evaluate, if_neg deep] at failed
      exact (evaluateAll_genuine failed).mono (by rw [Rule.depth]; omega)
  | any rules =>
      rw [evaluate, if_neg deep] at failed
      exact (evaluateAny_genuine failed).mono (by rw [Rule.depth]; omega)
  | not inner =>
      rw [evaluate, if_neg deep] at failed
      cases value : inner.evaluate scope (depth + 1) with
      | ok value =>
          rw [value] at failed
          cases failed
      | error other =>
          rw [value] at failed
          cases failed
          exact (evaluate_genuine value).mono (by rw [Rule.depth]; omega)
  | test subject operator operand =>
      rw [evaluate, if_neg deep] at failed
      obtain ⟨_, value, rfl⟩ := Except.mapError_eq_error.mp failed
      exact evaluateTest_genuine value
  | condition text =>
      rw [evaluate, if_neg deep] at failed
      obtain ⟨_, _, rfl⟩ := Except.mapError_eq_error.mp failed
      trivial

theorem evaluateAll_genuine {scope : Scope} {depth : Nat} {rules : List Rule} {error : Error}
    (failed : evaluateAll scope depth rules = .error error) :
    error.Genuine scope.config (depth + deepest rules) := by
  cases rules with
  | nil => cases failed
  | cons rule rest =>
      rw [evaluateAll] at failed
      cases held : rule.evaluate scope depth with
      | error other =>
          rw [held] at failed
          cases failed
          exact (evaluate_genuine held).mono (by rw [deepest]; omega)
      | ok value =>
          rw [held] at failed
          cases value with
          | true => exact (evaluateAll_genuine failed).mono (by rw [deepest]; omega)
          | false => cases failed

theorem evaluateAny_genuine {scope : Scope} {depth : Nat} {rules : List Rule} {error : Error}
    (failed : evaluateAny scope depth rules = .error error) :
    error.Genuine scope.config (depth + deepest rules) := by
  cases rules with
  | nil => cases failed
  | cons rule rest =>
      rw [evaluateAny] at failed
      cases held : rule.evaluate scope depth with
      | error other =>
          rw [held] at failed
          cases failed
          exact (evaluate_genuine held).mono (by rw [deepest]; omega)
      | ok value =>
          rw [held] at failed
          cases value with
          | true => cases failed
          | false => exact (evaluateAny_genuine failed).mono (by rw [deepest]; omega)

end

/-- The rules of branches fail for being too deep only when one of them is. -/
theorem firstMatch_genuine {scope : Scope} {place : Nat} {branches : List Branch} {error : Error}
    (failed : firstMatch scope place branches = .error error) :
    ∃ branch ∈ branches, error.Genuine scope.config (1 + branch.rule.depth) := by
  induction branches generalizing place with
  | nil => cases failed
  | cons branch rest ih =>
      rw [firstMatch] at failed
      cases held : branch.rule.evaluate scope 1 with
      | error other =>
          rw [held] at failed
          cases failed
          exact ⟨branch, List.mem_cons_self, evaluate_genuine held⟩
      | ok value =>
          rw [held] at failed
          cases value with
          | true => cases failed
          | false =>
              rcases ih failed with ⟨other, isRest, genuine⟩
              exact ⟨other, List.mem_cons_of_mem _ isRest, genuine⟩

theorem firstMatch_mem {scope : Scope} {place found : Nat} {branches : List Branch}
    {branch : Branch} (matched : firstMatch scope place branches = .ok (some (found, branch))) :
    branch ∈ branches := by
  induction branches generalizing place with
  | nil => cases matched
  | cons other rest ih =>
      rw [firstMatch] at matched
      cases held : other.rule.evaluate scope 1 with
      | error error =>
          rw [held] at matched
          cases matched
      | ok value =>
          rw [held] at matched
          cases value with
          | true =>
              cases matched
              exact List.mem_cons_self
          | false => exact List.mem_cons_of_mem _ (ih matched)

end Rule

end Workflow
