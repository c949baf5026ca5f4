import Workflow.Engine.Map
import Workflow.Engine.Parallel
import Workflow.Proofs.Genuine

/-!
# Attempts

What one attempt of a state may be blamed for. Failures, unknown resources, missing batching, too
many transitions, crashes and texts that are no calls can come of any state. Everything else depends on how
the state is defined, so it stands among the hypotheses: a missing transition, a missing processor,
a missing time, and a rule that is nested too deep.
-/

namespace Workflow

/-- A request that is neither about the entry of a state, nor about its completion or its retries.
-/
def Request.Ordinary : Request → Prop
  | .enter => False
  | .completed _ => False
  | .retry _ => False
  | _ => True

/-- The faults that any state may end with, however it is defined, are to blame, and what is asked
in its attempts may be asked. -/
structure Tolerant (blame : Fault → Prop) (asks : Request → Prop) : Prop where
  plain : ∀ fault, (∀ cause, fault ≠ .malformed cause) → blame fault
  call : ∀ text flaw offset, Intrinsic.parse text = .error (.malformed text flaw offset) →
    blame (.malformed (.call text flaw offset))
  ordinary : ∀ request : Request, request.Ordinary → asks request

namespace Tolerant

variable {blame : Fault → Prop} {asks : Request → Prop}

/-- Nothing changes when anything may be asked. -/
theorem free (tolerant : Tolerant blame asks) : Tolerant blame fun _ => True :=
  ⟨tolerant.plain, tolerant.call, fun _ _ => trivial⟩

theorem failed (tolerant : Tolerant blame asks) (failure : Failure) : blame (.failed failure) :=
  tolerant.plain _ fun _ same => by cases same

theorem reserved (tolerant : Tolerant blame asks) (kind : Reserved) (cause : String) :
    blame (.reserved kind cause) :=
  tolerant.failed _

theorem evaluation (tolerant : Tolerant blame asks) (error : Evaluation.Error)
    (genuine : error.Genuine) : blame error.fault := by
  cases error with
  | path error => exact tolerant.plain _ fun cause same => by cases error <;> cases same
  | functional error => exact tolerant.reserved _ _
  | intrinsic error =>
      cases error with
      | malformed text flaw offset => exact tolerant.call _ _ _ genuine
      | path error => exact tolerant.plain _ fun cause same => by cases error <;> cases same
      | _ => exact tolerant.reserved _ _

end Tolerant

namespace Engine

open Workflow.Action (ensures_pure ensures_value ensures_throw ensures_bind ensures_map
  ensures_tryCatch ensures_ask ensures_ofExcept ensures_evaluated ensures_evaluate ensures_gather)

variable {blame : Fault → Prop} {asks : Request → Prop} {α : Type}

/-! ## Expressions and calls -/

theorem ensures_evaluation (tolerant : Tolerant blame asks)
    {evaluation : Evaluation Evaluation.Error α}
    (genuine : evaluation.Raises Evaluation.Error.Genuine) :
    (Action.evaluate evaluation).Ensures blame asks fun _ => True :=
  ensures_evaluate fun source error failed =>
    tolerant.evaluation error (genuine source error failed)

theorem ensures_ordinary (tolerant : Tolerant blame asks) {request : Request}
    (ordinary : request.Ordinary) : (Action.ask request).Ensures blame asks fun _ => True :=
  ensures_ask (tolerant.ordinary request ordinary) fun _ => trivial

theorem ensures_invoke (tolerant : Tolerant blame asks) (resource : String) (input : Json)
    (timeout : Option Nat) : (invoke resource input timeout).Ensures blame asks fun _ => True := by
  refine ensures_bind (ensures_ordinary tolerant trivial) fun answer _ => ?_
  cases answer with
  | output value => exact ensures_value _
  | failed failure => exact ensures_throw (tolerant.failed _)
  | crashed => exact ensures_throw (tolerant.reserved _ _)
  | late => exact ensures_throw (tolerant.reserved _ _)
  | unknown => exact ensures_throw (tolerant.plain _ fun _ same => by cases same)

theorem readFound_settles (tolerant : Tolerant blame asks) (expected : Pipeline.Expected α)
    (kind : Reserved) (field : String) (value : Json) :
    Settles blame (fun _ => True) (Pipeline.readFound expected kind field value) := by
  rw [Pipeline.readFound]
  split
  · trivial
  · exact tolerant.reserved _ _

theorem resolve_settles (tolerant : Tolerant blame asks) (expected : Pipeline.Expected α)
    (field : String) (dynamic : Dynamic α) (scope : Scope) :
    Settles blame (fun _ => True) (Pipeline.resolve expected field dynamic scope) := by
  cases dynamic with
  | literal value => trivial
  | path text =>
      simp only [Pipeline.resolve]
      cases Path.evaluate text scope with
      | error error => exact tolerant.evaluation (.path error) trivial
      | ok found =>
          cases found with
          | none => exact tolerant.reserved _ _
          | some found => exact readFound_settles tolerant _ _ _ _
  | expression text =>
      simp only [Pipeline.resolve]
      cases Functional.evaluate text scope with
      | error error => exact tolerant.evaluation (.functional error) trivial
      | ok found => exact readFound_settles tolerant _ _ _ _

namespace Visit

variable (visit : Visit)

theorem ensures_arguments (tolerant : Tolerant blame asks) :
    visit.arguments.Ensures blame asks fun _ => True :=
  ensures_evaluation tolerant (Pipeline.buildArguments_genuine _ _ _)

/-- A field that is not set has no value, and only such a field has none. -/
theorem ensures_resolve (tolerant : Tolerant blame asks) (expected : Pipeline.Expected α)
    (field : String) (dynamic : Option (Dynamic α)) :
    (visit.resolve expected field dynamic).Ensures blame asks fun found =>
      found = none → dynamic = none := by
  cases dynamic with
  | none => exact ensures_ofExcept fun _ => rfl
  | some dynamic =>
      apply ensures_ofExcept
      have settles := resolve_settles tolerant expected field dynamic visit.scope
      simp only [Pipeline.resolveOptional]
      cases found : Pipeline.resolve expected field dynamic visit.scope with
      | ok value => exact fun missing => nomatch missing
      | error fault =>
          rw [found] at settles
          exact settles

/-! ## Completion -/

/-- A completed state goes where it declares, or ends when it declares that. -/
theorem ensures_complete (tolerant : Tolerant blame asks) (result : Json)
    (declared : visit.common.next = none → visit.common.ends ≠ some true →
      blame (.malformed (.noTransition visit.name))) :
    (visit.complete result).Ensures blame asks fun ended =>
      ended.next = visit.common.next ∧ (ended.next = none → visit.common.ends = some true) := by
  refine ensures_bind (ensures_evaluation tolerant (Pipeline.complete_genuine _ _ _ _)) ?_
  intro done _
  have goes : (Action.ofExcept visit.declaredNext).Ensures blame asks fun next =>
      next = visit.common.next ∧ (next = none → visit.common.ends = some true) := by
    apply ensures_ofExcept
    rw [declaredNext]
    split
    case h_1 next _ same => exact ⟨same.symm, fun missing => nomatch missing⟩
    case h_2 same ends => exact ⟨same.symm, fun _ => ends⟩
    case h_3 same ends => exact declared same ends
  refine ensures_bind goes fun next holds => ?_
  exact ensures_pure holds

/-! ## Task -/

theorem ensures_checkHeartbeat (tolerant : Tolerant blame asks) (task : Task) :
    (visit.checkHeartbeat task).Ensures blame asks fun _ => True := by
  refine ensures_bind (visit.ensures_resolve tolerant _ _ _) fun found _ => ?_
  cases found with
  | none => exact ensures_value _
  | some seconds =>
      refine ensures_bind (ensures_ordinary tolerant trivial) fun accepted _ => ?_
      cases accepted with
      | true => exact ensures_value _
      | false => exact ensures_throw (tolerant.reserved _ _)

theorem ensures_checkCredentials (tolerant : Tolerant blame asks) (task : Task) :
    (visit.checkCredentials task).Ensures blame asks fun _ => True := by
  rw [checkCredentials]
  split
  · exact ensures_value _
  · refine ensures_bind (ensures_evaluation tolerant (Dialect.expand_genuine _ _ _)) ?_
    intro resolved _
    refine ensures_bind (ensures_ordinary tolerant trivial) fun accepted _ => ?_
    cases accepted with
    | true => exact ensures_value _
    | false => exact ensures_throw (tolerant.reserved _ _)

theorem ensures_runTask (tolerant : Tolerant blame asks) (task : Task) :
    (visit.runTask task).Ensures blame asks fun _ => True := by
  refine ensures_bind (visit.ensures_arguments tolerant) fun arguments _ => ?_
  refine ensures_bind (visit.ensures_checkHeartbeat tolerant task) fun _ _ => ?_
  refine ensures_bind (visit.ensures_checkCredentials tolerant task) fun _ _ => ?_
  dsimp only
  split
  · refine ensures_bind (ensures_value _) fun timeout _ => ?_
    exact ensures_invoke tolerant _ _ _
  · refine ensures_bind (visit.ensures_resolve tolerant _ _ _) fun timeout _ => ?_
    exact ensures_invoke tolerant _ _ _

/-! ## Pass, Wait and Fail -/

theorem ensures_passResult (tolerant : Tolerant blame asks) (result : Option Json) :
    (visit.passResult result).Ensures blame asks fun _ => True := by
  rw [passResult]
  dsimp only
  split
  · refine ensures_bind (visit.ensures_arguments tolerant) fun arguments _ => ?_
    exact ensures_value _
  · refine ensures_bind (ensures_value _) fun arguments _ => ?_
    exact ensures_value _

/-- A wait may be blamed for its missing time only when both of its settings are missing. -/
theorem ensures_waitEnd (tolerant : Tolerant blame asks) (now : Instant) (seconds : Setting Nat)
    (timestamp : TextSetting)
    (timed : seconds.dynamic = none → timestamp.dynamic = none →
      blame (.malformed (.noTime visit.name))) :
    (visit.waitEnd now seconds timestamp).Ensures blame asks fun _ => True := by
  refine ensures_bind (visit.ensures_resolve tolerant _ _ _) fun found noSeconds => ?_
  cases found with
  | some count =>
      dsimp only
      split
      · exact ensures_value _
      · exact ensures_throw (tolerant.reserved _ _)
  | none =>
      refine ensures_bind (visit.ensures_resolve tolerant _ _ _) fun found noTimestamp => ?_
      cases found with
      | some text =>
          dsimp only
          split
          · exact ensures_value _
          · exact ensures_throw (tolerant.reserved _ _)
      | none => exact ensures_throw (timed (noSeconds rfl) (noTimestamp rfl))

theorem ensures_runWait (tolerant : Tolerant blame asks) (seconds : Setting Nat)
    (timestamp : TextSetting)
    (timed : seconds.dynamic = none → timestamp.dynamic = none →
      blame (.malformed (.noTime visit.name))) :
    (visit.runWait seconds timestamp).Ensures blame asks fun _ => True := by
  refine ensures_bind (ensures_ordinary tolerant trivial) fun now _ => ?_
  refine ensures_bind (visit.ensures_waitEnd tolerant now seconds timestamp timed) ?_
  intro stop _
  exact ensures_ordinary tolerant trivial

theorem ensures_runFail (tolerant : Tolerant blame asks) (error cause : TextSetting) :
    (visit.runFail error cause).Ensures blame asks fun _ => True := by
  refine ensures_bind (visit.ensures_resolve tolerant _ _ _) fun name _ => ?_
  refine ensures_bind (visit.ensures_resolve tolerant _ _ _) fun cause _ => ?_
  exact ensures_value _

/-! ## Choice -/

/-- A Choice goes to the target of one of its branches or to its default. It may be blamed for a
rule that is nested too deep only when one of its rules is. -/
theorem ensures_runChoice (tolerant : Tolerant blame asks) (branches : List Branch)
    (fallback : Option String)
    (shallow : ∀ branch ∈ branches, visit.env.config.maxChoiceDepth < branch.rule.depth →
      blame (.malformed (.deepRule visit.env.config.maxChoiceDepth))) :
    (visit.runChoice branches fallback).Ensures blame asks fun ended =>
      ∃ target ∈ branches.map Branch.next ++ fallback.toList, ended.next = some target := by
  have completed : (runChoice.completed visit).Ensures blame asks fun _ => True :=
    ensures_evaluation tolerant (Pipeline.complete_genuine _ _ _ _)
  have found : (Action.ofExcept <|
      (Rule.firstMatch visit.scope 0 branches).mapError Rule.Error.fault).Ensures blame asks
        fun matched => ∀ place branch, matched = some (place, branch) → branch ∈ branches := by
    apply ensures_ofExcept
    cases first : Rule.firstMatch visit.scope 0 branches with
    | ok matched =>
        intro place branch same
        exact Rule.firstMatch_mem (same ▸ first)
    | error error =>
        rcases Rule.firstMatch_genuine first with ⟨branch, isBranch, genuine⟩
        cases error with
        | evaluation error => exact tolerant.evaluation error genuine
        | tooDeep limit =>
            rcases genuine with ⟨same, deep⟩
            have deeper : visit.env.config.maxChoiceDepth + 1 < 1 + branch.rule.depth :=
              same ▸ deep
            subst same
            exact shallow branch isBranch (by omega)
  refine ensures_bind found fun matched isBranch => ?_
  match matched, fallback with
  | none, none => exact ensures_throw (tolerant.reserved _ _)
  | none, some next =>
      refine ensures_bind completed fun done _ => ?_
      exact ensures_pure ⟨next, by simp, rfl⟩
  | some (place, branch), _ =>
      refine ensures_bind completed fun done _ => ?_
      refine ensures_bind
        (ensures_evaluation tolerant (Pipeline.completeBranch_genuine _ _ _ _ _)) ?_
      intro done _
      have isTarget := List.mem_map_of_mem (f := Branch.next) (isBranch place branch rfl)
      exact ensures_pure ⟨branch.next, List.mem_append_left _ isTarget, rfl⟩

/-! ## Items and batches -/

theorem expectItems_settles (tolerant : Tolerant blame asks) (field : String) (value : Json) :
    Settles blame (fun _ => True) (visit.expectItems field value) := by
  cases value with
  | array items => trivial
  | _ => exact tolerant.reserved _ _

theorem ensures_callReader (tolerant : Tolerant blame asks) (reader : ItemReader)
    (arguments : Json) : (callReader reader arguments).Ensures blame asks fun _ => True := by
  refine ensures_tryCatch (ensures_invoke tolerant _ _ _) fun fault isBlamed => ?_
  split
  · exact ensures_throw (tolerant.reserved _ _)
  · exact ensures_throw isBlamed

theorem ensures_readFrom (tolerant : Tolerant blame asks) (reader : ItemReader) :
    (visit.readFrom reader).Ensures blame asks fun _ => True := by
  refine ensures_bind
    (ensures_evaluation tolerant (Pipeline.buildArguments_genuine _ _ _)) fun arguments _ => ?_
  refine ensures_bind (ensures_callReader tolerant reader _) fun found _ => ?_
  cases found with
  | array items =>
      refine ensures_bind (visit.ensures_resolve tolerant _ _ _) fun limit _ => ?_
      cases limit <;> exact ensures_value _
  | _ => exact ensures_throw (tolerant.reserved _ _)

theorem ensures_readItems (tolerant : Tolerant blame asks) (mapping : Mapping) :
    (visit.readItems mapping).Ensures blame asks fun _ => True := by
  rw [readItems]
  split
  · exact visit.ensures_readFrom tolerant _
  · refine ensures_bind (ensures_evaluation tolerant (Dialect.expand_genuine _ _ _)) ?_
    intro value _
    exact ensures_ofExcept (visit.expectItems_settles tolerant _ _)
  · refine ensures_bind (ensures_evaluated ?_) fun found _ => ?_
    · intro error failed
      cases found : Path.evaluate _ visit.scope <;> rw [found] at failed <;> cases failed
      exact tolerant.evaluation _ trivial
    · cases found with
      | some value => exact ensures_ofExcept (visit.expectItems_settles tolerant _ _)
      | none => exact ensures_throw (tolerant.reserved _ _)
  · split <;> exact ensures_value _

theorem ensures_selectItem (tolerant : Tolerant blame asks) (mapping : Mapping) (index : Nat)
    (item : Json) : (visit.selectItem mapping index item).Ensures blame asks fun _ => True := by
  rw [selectItem]
  split
  · exact ensures_value _
  · exact ensures_evaluation tolerant (Dialect.expand_genuine _ _ _)

theorem ensures_selectItems (tolerant : Tolerant blame asks) (mapping : Mapping) (index : Nat)
    (items : List Json) :
    (visit.selectItems mapping index items).Ensures blame asks fun _ => True := by
  induction items generalizing index with
  | nil => exact ensures_value _
  | cons item rest ih =>
      refine ensures_bind (visit.ensures_selectItem tolerant mapping index item) fun _ _ => ?_
      refine ensures_bind (ih (index + 1)) fun _ _ => ?_
      exact ensures_value _

theorem ensures_splitGroups (tolerant : Tolerant blame asks) (limit : Nat)
    (groups : List (List Json)) :
    (visit.splitGroups limit groups).Ensures blame asks fun _ => True := by
  induction groups with
  | nil => exact ensures_value _
  | cons group rest ih =>
      refine ensures_bind (ensures_ordinary tolerant trivial) fun parts _ => ?_
      cases parts with
      | none => exact ensures_throw (tolerant.plain _ fun _ same => by cases same)
      | some parts =>
          refine ensures_bind ih fun others _ => ?_
          exact ensures_value _

theorem ensures_limitGroups (tolerant : Tolerant blame asks) (limit : Option Nat)
    (groups : List (List Json)) :
    (visit.limitGroups limit groups).Ensures blame asks fun _ => True := by
  simp only [limitGroups]
  split
  · exact visit.ensures_splitGroups tolerant _ _
  · exact ensures_value _

theorem ensures_batchInput (tolerant : Tolerant blame asks) (batcher : ItemBatcher) :
    (visit.batchInput batcher).Ensures blame asks fun _ => True := by
  rw [batchInput]
  split
  · exact ensures_map (ensures_evaluation tolerant (Dialect.expand_genuine _ _ _))
  · exact ensures_value _

theorem ensures_batch (tolerant : Tolerant blame asks) (batcher : ItemBatcher)
    (units : List WorkUnit) : (visit.batch batcher units).Ensures blame asks fun _ => True := by
  refine ensures_bind (visit.ensures_resolve tolerant _ _ _) fun size _ => ?_
  refine ensures_bind (visit.ensures_resolve tolerant _ _ _) fun limit _ => ?_
  refine ensures_bind (visit.ensures_limitGroups tolerant limit _) fun groups _ => ?_
  refine ensures_bind (visit.ensures_batchInput tolerant batcher) fun input _ => ?_
  exact ensures_value _

end Visit

/-! ## Map -/

/-- The fault that a tally has taken in is to blame. -/
def MapTally.Blamed (blame : Fault → Prop) (tally : MapTally) : Prop :=
  ∀ fault, tally.fault = some fault → blame fault

theorem MapTally.fail_fault (limits : MapLimits) (tally : MapTally) (weight : Nat)
    (failure : Failure) : (tally.fail limits weight failure).fault = tally.fault := by
  rw [MapTally.fail]
  split <;> rfl

theorem MapTally.absorb_blamed (tolerant : Tolerant blame asks) (limits : MapLimits)
    {tally : MapTally} (blamed : tally.Blamed blame) (place weight : Nat)
    {completion : Completion} (fits : completion.Fits (Settles blame fun _ => True)) :
    (tally.absorb limits place weight completion).tally.Blamed blame := by
  unfold MapTally.absorb
  split
  case h_1 output => exact blamed
  case h_2 failure =>
    dsimp only
    split <;> exact fun fault same => blamed fault (MapTally.fail_fault limits tally _ _ ▸ same)
  case h_3 fault _ =>
    intro other same
    cases same
    exact fits
  case h_4 =>
    intro other same
    cases same
    exact tolerant.reserved _ _

theorem MapTally.verdict_blamed (tolerant : Tolerant blame asks) (limits : MapLimits)
    {tally : MapTally} (blamed : tally.Blamed blame) {fault : Fault}
    (failed : tally.verdict limits = some fault) : blame fault := by
  rw [MapTally.verdict] at failed
  split at failed
  case h_1 same =>
    cases failed
    exact blamed _ same
  case h_2 =>
    cases failed
    exact tolerant.failed _
  case h_3 =>
    cases failed
    exact tolerant.reserved _ _
  case h_4 => cases failed

theorem ensures_runWaves (tolerant : Tolerant blame asks) (visit : Visit) {processor : Runner}
    (processed : ∀ input frame, (processor input frame).Ensures (.free blame)
      (Settles blame fun _ => True)) (limits : MapLimits) (tally : MapTally)
    (blamed : tally.Blamed blame) (waves : List (List (Nat × WorkUnit))) :
    (runWaves visit processor limits tally waves).Ensures blame asks fun _ => True := by
  induction waves generalizing tally with
  | nil => exact ensures_value _
  | cons wave rest ih =>
      refine ensures_bind (ensures_gather (MapTally.Blamed blame) ?_ blamed ?_)
        fun tally blamed => ?_
      · intro index inside
        rw [runUnit]
        split
        · exact processed _ _
        · trivial
      · intro tally index completion blamed fits
        rw [absorbUnit]
        split
        · exact tally.absorb_blamed tolerant limits blamed _ _ fits
        · exact blamed
      · cases failed : tally.verdict limits with
        | some fault => exact ensures_throw (tally.verdict_blamed tolerant limits blamed failed)
        | none => exact ih tally blamed

namespace Visit

variable (visit : Visit)

theorem ensures_tolerance (tolerant : Tolerant blame asks) (mapping : Mapping) (items : Nat) :
    (visit.tolerance mapping items).Ensures blame asks fun _ => True := by
  refine ensures_bind (visit.ensures_resolve tolerant _ _ _) fun count _ => ?_
  refine ensures_bind (visit.ensures_resolve tolerant _ _ _) fun percentage _ => ?_
  cases percentage with
  | none => exact ensures_value _
  | some percentage =>
      dsimp only
      split
      · exact ensures_value _
      · exact ensures_throw (tolerant.reserved _ _)

theorem ensures_writerInput (tolerant : Tolerant blame asks) (writer : ResultWriter)
    (output : Json) : (visit.writerInput writer output).Ensures blame asks fun _ => True := by
  refine ensures_bind (ensures_evaluation tolerant (Pipeline.buildArguments_genuine _ _ _)) ?_
  intro input _
  split <;> exact ensures_value _

theorem ensures_writerInputs (tolerant : Tolerant blame asks) (writer : ResultWriter)
    (outputs : List Json) :
    (visit.writerInputs writer outputs).Ensures blame asks fun _ => True := by
  induction outputs with
  | nil => exact ensures_value _
  | cons output rest ih =>
      refine ensures_bind (visit.ensures_writerInput tolerant writer output) fun _ _ => ?_
      refine ensures_bind ih fun _ _ => ?_
      exact ensures_value _

def WriteTally.Blamed (blame : Fault → Prop) (tally : WriteTally) : Prop :=
  ∀ fault, tally.fault = some fault → blame fault

theorem WriteTally.absorb_blamed {tally : WriteTally} (blamed : tally.Blamed blame) (index : Nat)
    {completion : Completion} (fits : completion.Fits (Settles blame fun _ => True)) :
    (tally.absorb index completion).tally.Blamed blame := by
  simp only [WriteTally.absorb]
  split
  case h_1 => exact blamed
  case h_2 => exact blamed
  case h_3 fault _ =>
    intro other same
    cases same
    exact fits
  case h_4 => exact blamed

theorem ensures_writeResults (tolerant : Tolerant blame asks) (writer : ResultWriter)
    (outputs : List Json) :
    (visit.writeResults writer outputs).Ensures blame asks fun _ => True := by
  refine ensures_bind (visit.ensures_writerInputs tolerant writer outputs) fun inputs _ => ?_
  refine ensures_bind (ensures_gather (WriteTally.Blamed blame) ?_ ?_ ?_)
    fun tally blamed => ?_
  · exact fun index inside => ensures_invoke tolerant.free _ _ _
  · exact fun fault same => by cases same
  · exact fun tally index completion blamed fits => WriteTally.absorb_blamed blamed _ fits
  · split
    case h_1 fault _ same => exact ensures_throw (blamed _ same)
    case h_2 => exact ensures_value _
    case h_3 => exact ensures_throw (tolerant.reserved _ _)

theorem ensures_groupUnits (tolerant : Tolerant blame asks) (mapping : Mapping)
    (units : List WorkUnit) :
    (visit.groupUnits mapping units).Ensures blame asks fun _ => True := by
  rw [groupUnits]
  split
  · exact visit.ensures_batch tolerant _ _
  · exact ensures_value _

theorem ensures_collect (tolerant : Tolerant blame asks) (mapping : Mapping)
    (outputs : List Json) : (visit.collect mapping outputs).Ensures blame asks fun _ => True := by
  rw [collect]
  split
  · exact visit.ensures_writeResults tolerant _ _
  · exact ensures_value _

/-- A Map may be blamed for its missing processor only when it has none. -/
theorem ensures_runMap (tolerant : Tolerant blame asks) (mapping : Mapping)
    (processor : Option Runner)
    (processed : ∀ runner, processor = some runner → ∀ input frame,
      (runner input frame).Ensures (.free blame) (Settles blame fun _ => True))
    (present : processor = none → blame (.malformed (.noProcessor visit.name))) :
    (visit.runMap mapping processor).Ensures blame asks fun _ => True := by
  cases processor with
  | none => exact ensures_throw (present rfl)
  | some runner =>
      refine ensures_bind (visit.ensures_readItems tolerant mapping) fun items _ => ?_
      refine ensures_bind (visit.ensures_selectItems tolerant mapping 0 items) fun selected _ => ?_
      refine ensures_bind (visit.ensures_groupUnits tolerant mapping selected) fun units _ => ?_
      refine ensures_bind (visit.ensures_tolerance tolerant mapping _) fun _ _ => ?_
      refine ensures_bind (visit.ensures_resolve tolerant _ _ _) fun concurrency _ => ?_
      refine ensures_bind (ensures_runWaves tolerant visit (processed runner rfl) _ _
        (fun fault same => by cases same) _) fun outputs _ => ?_
      exact visit.ensures_collect tolerant mapping outputs

end Visit

/-! ## Parallel -/

def BranchTally.Blamed (blame : Fault → Prop) (tally : BranchTally) : Prop :=
  ∀ fault, tally.fault = some fault → blame fault

theorem BranchTally.absorb_blamed (tolerant : Tolerant blame asks) (state : String)
    {tally : BranchTally} (blamed : tally.Blamed blame) (index : Nat) {completion : Completion}
    (fits : completion.Fits (Settles blame fun _ => True)) :
    (tally.absorb state index completion).tally.Blamed blame := by
  simp only [BranchTally.absorb]
  split
  case h_1 => exact blamed
  case h_2 =>
    intro other same
    cases same
    exact tolerant.reserved _ _
  case h_3 fault _ =>
    intro other same
    cases same
    exact fits
  case h_4 =>
    intro other same
    cases same
    exact tolerant.reserved _ _

theorem ensures_runBranch (shared : Shared) (visit : Visit) {branch : Runner}
    (processed : ∀ input frame, (branch input frame).Ensures (.free blame)
      (Settles blame fun _ => True)) (input : Json) :
    (runBranch shared visit branch input).Ensures (.free blame)
      (Settles blame fun _ => True) := by
  refine Program.ensures_bind ((ensures_retrying (fun _ => trivial) (fun _ => trivial)
    (fun _ => processed input _) _ _ _).mono ?_)
  exact fun result settles => settles

theorem ensures_runParallel (tolerant : Tolerant blame asks) (shared : Shared) (visit : Visit)
    (branches : List Runner)
    (processed : ∀ branch ∈ branches, ∀ input frame,
      (branch input frame).Ensures (.free blame) (Settles blame fun _ => True)) :
    (runParallel shared visit branches).Ensures blame asks fun _ => True := by
  refine ensures_bind (visit.ensures_arguments tolerant) fun input _ => ?_
  refine ensures_bind (ensures_gather (BranchTally.Blamed blame) ?_ ?_ ?_)
    fun tally blamed => ?_
  · intro index inside
    split
    case h_1 branch found =>
      exact ensures_runBranch shared visit (processed _ (List.mem_of_getElem? found)) input
    case h_2 => trivial
  · exact fun fault same => by cases same
  · exact fun tally index completion blamed fits =>
      tally.absorb_blamed tolerant visit.name blamed _ fits
  · cases failed : tally.fault with
    | some fault => exact ensures_throw (blamed fault failed)
    | none => exact ensures_value _

end Engine

end Workflow
