import Workflow.Proofs.Heeding
import Workflow.Proofs.Stays
import Workflow.Proofs.Tolerance

/-!
# Surrender

Every part of a run heeds fatal faults: the attempts of a state, what a Map reads, runs and writes,
the branches of a Parallel, the retries of both, the catchers, and the walk along a graph. Groups
are begun only for the units and the writes of a Map and for the branches of a Parallel.
-/

namespace Workflow.Engine

open Workflow.Action (heeds_pure heeds_throw heeds_ofExcept heeds_evaluate heeds_ask heeds_bind
  heeds_map heeds_tryCatch heeds_ask_bind heeds_gather_bind)

variable {manner : Manner} {α : Type}

/-! ## Groups -/

/-- A write of every input. -/
def writesOf (writer : ResultWriter) (inputs : List Json) (index : Nat) : Program Outcome :=
  (invoke writer.resource (inputs.getD index .null) none).run

/-- The branches of a Parallel on an input. -/
def branchesOf (shared : Shared) (visit : Visit) (branches : List Runner) (input : Json)
    (index : Nat) : Program Outcome :=
  match branches[index]? with
  | some branch => runBranch shared visit branch input
  | none => .done (.ok .null)

/-- The groups that an attempt may begin. -/
inductive Begins (shared : Shared) (visit : Visit) (kind : StateKind) :
    Nat → (Nat → Program Outcome) → Prop where
  | units {graph : Graph} (runs : graph ∈ kind.graphs) (wave : List (Nat × WorkUnit)) :
      Begins shared visit kind wave.length (runUnit visit (runGraph shared graph) wave)
  | writes (writer : ResultWriter) (inputs : List Json) :
      Begins shared visit kind inputs.length (writesOf writer inputs)
  | branches {graphs : List Graph} (isParallel : kind = .parallel graphs) (input : Json) :
      Begins shared visit kind (runnersOfAll shared graphs).length
        (branchesOf shared visit (runnersOfAll shared graphs) input)

/-! ## Calls of resources -/

theorem heeds_invoke (resource : String) (input : Json) (timeout : Option Nat) :
    (invoke resource input timeout).Heeds manner := by
  refine heeds_ask_bind (fun answer fault fatal => ?_) fun answer => ?_
  · cases answer <;> cases fatal
    rfl
  · cases answer with
    | output value => exact heeds_pure _
    | _ => exact heeds_throw _

theorem heeds_callReader (reader : ItemReader) (arguments : Json) :
    (Visit.callReader reader arguments).Heeds manner := by
  refine heeds_tryCatch (heeds_invoke _ _ _) (fun fault fatal => ?_) fun fault => ?_
  · cases fault with
    | failed failure => cases fatal
    | _ => rfl
  · cases fault <;> exact heeds_throw _

namespace Visit

variable (visit : Visit)

/-! ## States without graphs -/

theorem heeds_arguments : visit.arguments.Heeds manner :=
  heeds_evaluate _

theorem heeds_resolve (expected : Pipeline.Expected α) (field : String)
    (dynamic : Option (Dynamic α)) : (visit.resolve expected field dynamic).Heeds manner :=
  heeds_ofExcept _

theorem heeds_complete (result : Json) : (visit.complete result).Heeds manner := by
  refine heeds_bind (heeds_evaluate _) fun done => ?_
  refine heeds_bind (heeds_ofExcept _) fun next => ?_
  exact heeds_pure _

theorem heeds_checkHeartbeat (task : Task) : (visit.checkHeartbeat task).Heeds manner := by
  refine heeds_bind (visit.heeds_resolve _ _ _) fun found => ?_
  cases found with
  | none => exact heeds_pure _
  | some seconds =>
      refine heeds_bind (heeds_ask fun _ _ => rfl) fun accepted => ?_
      cases accepted with
      | true => exact heeds_pure _
      | false => exact heeds_throw _

theorem heeds_checkCredentials (task : Task) : (visit.checkCredentials task).Heeds manner := by
  rw [checkCredentials]
  split
  · exact heeds_pure _
  · refine heeds_bind (heeds_evaluate _) fun resolved => ?_
    refine heeds_bind (heeds_ask fun _ _ => rfl) fun accepted => ?_
    cases accepted with
    | true => exact heeds_pure _
    | false => exact heeds_throw _

theorem heeds_runTask (task : Task) : (visit.runTask task).Heeds manner := by
  refine heeds_bind visit.heeds_arguments fun arguments => ?_
  refine heeds_bind (visit.heeds_checkHeartbeat task) fun _ => ?_
  refine heeds_bind (visit.heeds_checkCredentials task) fun _ => ?_
  dsimp only
  split
  · exact heeds_bind (heeds_pure _) fun timeout => heeds_invoke _ _ _
  · exact heeds_bind (visit.heeds_resolve _ _ _) fun timeout => heeds_invoke _ _ _

theorem heeds_passResult (result : Option Json) : (visit.passResult result).Heeds manner := by
  rw [passResult]
  dsimp only
  split
  · exact heeds_bind visit.heeds_arguments fun arguments => heeds_pure _
  · exact heeds_bind (heeds_pure _) fun arguments => heeds_pure _

theorem heeds_waitEnd (now : Instant) (seconds : Setting Nat) (timestamp : TextSetting) :
    (visit.waitEnd now seconds timestamp).Heeds manner := by
  refine heeds_bind (visit.heeds_resolve _ _ _) fun found => ?_
  cases found with
  | some count =>
      dsimp only
      split
      · exact heeds_pure _
      · exact heeds_throw _
  | none =>
      refine heeds_bind (visit.heeds_resolve _ _ _) fun found => ?_
      cases found with
      | some text =>
          dsimp only
          split
          · exact heeds_pure _
          · exact heeds_throw _
      | none => exact heeds_throw _

theorem heeds_runWait (seconds : Setting Nat) (timestamp : TextSetting) :
    (visit.runWait seconds timestamp).Heeds manner := by
  refine heeds_bind (heeds_ask fun _ _ => rfl) fun now => ?_
  refine heeds_bind (visit.heeds_waitEnd _ _ _) fun stop => ?_
  exact heeds_ask fun _ _ => rfl

theorem heeds_runFail (error cause : TextSetting) : (visit.runFail error cause).Heeds manner := by
  refine heeds_bind (visit.heeds_resolve _ _ _) fun name => ?_
  refine heeds_bind (visit.heeds_resolve _ _ _) fun cause => ?_
  exact heeds_pure _

theorem heeds_runChoice (branches : List Branch) (fallback : Option String) :
    (visit.runChoice branches fallback).Heeds manner := by
  refine heeds_bind (heeds_ofExcept _) fun matched => ?_
  match matched, fallback with
  | none, none => exact heeds_throw _
  | none, some next =>
      exact heeds_bind (heeds_evaluate _) fun done => heeds_pure _
  | some (place, branch), _ =>
      refine heeds_bind (heeds_evaluate _) fun done => ?_
      exact heeds_bind (heeds_evaluate _) fun done => heeds_pure _

/-! ## Items and batches -/

theorem heeds_readFrom (reader : ItemReader) : (visit.readFrom reader).Heeds manner := by
  refine heeds_bind (heeds_evaluate _) fun arguments => ?_
  refine heeds_bind (heeds_callReader _ _) fun found => ?_
  cases found with
  | array items =>
      refine heeds_bind (visit.heeds_resolve _ _ _) fun limit => ?_
      cases limit <;> exact heeds_pure _
  | _ => exact heeds_throw _

theorem heeds_readItems (mapping : Mapping) : (visit.readItems mapping).Heeds manner := by
  rw [readItems]
  split
  · exact visit.heeds_readFrom _
  · exact heeds_bind (heeds_evaluate _) fun value => heeds_ofExcept _
  · refine heeds_bind (heeds_ofExcept _) fun found => ?_
    cases found with
    | some value => exact heeds_ofExcept _
    | none => exact heeds_throw _
  · split <;> exact heeds_pure _

theorem heeds_selectItem (mapping : Mapping) (index : Nat) (item : Json) :
    (visit.selectItem mapping index item).Heeds manner := by
  rw [selectItem]
  split
  · exact heeds_pure _
  · exact heeds_evaluate _

theorem heeds_selectItems (mapping : Mapping) (index : Nat) (items : List Json) :
    (visit.selectItems mapping index items).Heeds manner := by
  induction items generalizing index with
  | nil => exact heeds_pure _
  | cons item rest ih =>
      refine heeds_bind (visit.heeds_selectItem mapping index item) fun _ => ?_
      exact heeds_bind (ih (index + 1)) fun _ => heeds_pure _

theorem heeds_splitGroups (limit : Nat) (groups : List (List Json)) :
    (visit.splitGroups limit groups).Heeds manner := by
  induction groups with
  | nil => exact heeds_pure _
  | cons group rest ih =>
      refine heeds_ask_bind (fun parts fault fatal => ?_) fun parts => ?_
      · cases parts <;> cases fatal
        rfl
      · cases parts with
        | none => exact heeds_throw _
        | some parts => exact heeds_bind ih fun others => heeds_pure _

theorem heeds_limitGroups (limit : Option Nat) (groups : List (List Json)) :
    (visit.limitGroups limit groups).Heeds manner := by
  rw [limitGroups.eq_def]
  split
  · exact visit.heeds_splitGroups _ _
  · exact heeds_pure _

theorem heeds_batchInput (batcher : ItemBatcher) : (visit.batchInput batcher).Heeds manner := by
  rw [batchInput]
  split
  · exact heeds_map _ (heeds_evaluate _)
  · exact heeds_pure _

theorem heeds_groupUnits (mapping : Mapping) (units : List WorkUnit) :
    (visit.groupUnits mapping units).Heeds manner := by
  rw [groupUnits]
  split
  · refine heeds_bind (visit.heeds_resolve _ _ _) fun size => ?_
    refine heeds_bind (visit.heeds_resolve _ _ _) fun limit => ?_
    refine heeds_bind (visit.heeds_limitGroups _ _) fun groups => ?_
    exact heeds_bind (visit.heeds_batchInput _) fun input => heeds_pure _
  · exact heeds_pure _

/-! ## Map -/

theorem heeds_tolerance (mapping : Mapping) (items : Nat) :
    (visit.tolerance mapping items).Heeds manner := by
  refine heeds_bind (visit.heeds_resolve _ _ _) fun count => ?_
  refine heeds_bind (visit.heeds_resolve _ _ _) fun percentage => ?_
  cases percentage with
  | none => exact heeds_pure _
  | some percentage =>
      dsimp only
      split
      · exact heeds_pure _
      · exact heeds_throw _

theorem heeds_runWaves {processor : Runner} (limits : MapLimits)
    (begins : ∀ wave : List (Nat × WorkUnit),
      manner.begins wave.length (runUnit visit processor wave))
    (tally : MapTally) (waves : List (List (Nat × WorkUnit))) :
    (runWaves visit processor limits tally waves).Heeds manner := by
  induction waves generalizing tally with
  | nil => exact heeds_pure _
  | cons wave rest ih =>
      refine heeds_gather_bind (begins wave) ?_ fun tally => ?_
      · intro tally index inside fault none
        have fatal : isFatal (.error fault) = true := by simp [isFatal, none]
        refine ⟨{ tally with fault := some fault }, ?_, rfl⟩
        rw [absorbUnit, List.getElem?_eq_getElem inside]
        exact tally.absorb_fatal limits _ _ fatal
      · cases tally.verdict limits with
        | some fault => exact heeds_throw _
        | none => exact ih tally

theorem heeds_writerInputs (writer : ResultWriter) (outputs : List Json) :
    (visit.writerInputs writer outputs).Heeds manner := by
  induction outputs with
  | nil => exact heeds_pure _
  | cons output rest ih =>
      refine heeds_bind ?_ fun _ => heeds_bind ih fun _ => heeds_pure _
      refine heeds_bind (heeds_evaluate _) fun input => ?_
      split <;> exact heeds_pure _

theorem WriteTally.absorb_fatal (tally : WriteTally) (index : Nat) {fault : Fault}
    (fatal : fault.failure? = none) :
    tally.absorb index (.finished (.error fault)) = .stop { tally with fault := some fault } := by
  cases fault with
  | failed failure => cases fatal
  | _ => rfl

theorem heeds_writeResults (writer : ResultWriter) (outputs : List Json)
    (begins : ∀ inputs, manner.begins inputs.length (writesOf writer inputs)) :
    (visit.writeResults writer outputs).Heeds manner := by
  refine heeds_bind (visit.heeds_writerInputs writer outputs) fun inputs => ?_
  refine heeds_gather_bind (begins inputs) ?_ fun tally => ?_
  · exact fun tally index _ fault fatal => ⟨_, tally.absorb_fatal index fatal, rfl⟩
  · split
    · exact heeds_throw _
    · exact heeds_pure _
    · exact heeds_throw _

theorem heeds_runMap (mapping : Mapping) (processor : Option Runner)
    (units : ∀ runner, processor = some runner → ∀ wave : List (Nat × WorkUnit),
      manner.begins wave.length (runUnit visit runner wave))
    (writes : ∀ writer inputs, manner.begins inputs.length (writesOf writer inputs)) :
    (visit.runMap mapping processor).Heeds manner := by
  cases processor with
  | none => exact heeds_throw _
  | some runner =>
      refine heeds_bind (visit.heeds_readItems mapping) fun items => ?_
      refine heeds_bind (visit.heeds_selectItems mapping 0 items) fun selected => ?_
      refine heeds_bind (visit.heeds_groupUnits mapping selected) fun grouped => ?_
      refine heeds_bind (visit.heeds_tolerance mapping _) fun _ => ?_
      refine heeds_bind (visit.heeds_resolve _ _ _) fun concurrency => ?_
      refine heeds_bind (visit.heeds_runWaves _ (units runner rfl) _ _) fun outputs => ?_
      rw [collect]
      split
      · exact visit.heeds_writeResults _ _ (writes _)
      · exact heeds_pure _

end Visit

/-! ## Parallel -/

/-- The fault of a Parallel one of whose branches ended with a fault. -/
def branchFault (place : Nat) : Fault → Fault
  | .failed failure => .reserved .branchFailed
      ("branch " ++ Decimal.natText place ++ " failed: " ++ failure.shown)
  | fault => fault

theorem branchFault_of_fatal (place : Nat) {fault : Fault} (fatal : fault.failure? = none) :
    branchFault place fault = fault := by
  cases fault with
  | failed failure => cases fatal
  | _ => rfl

theorem BranchTally.absorb_error (state : String) (tally : BranchTally) (place : Nat)
    (fault : Fault) :
    tally.absorb state place (.finished (.error fault)) =
      .stop { tally with fault := some (branchFault place fault) } := by
  cases fault <;> rfl

theorem heeds_runParallel (shared : Shared) (visit : Visit) (branches : List Runner)
    (begins : ∀ input, manner.begins branches.length (branchesOf shared visit branches input)) :
    (runParallel shared visit branches).Heeds manner := by
  refine heeds_bind visit.heeds_arguments fun input => ?_
  refine heeds_gather_bind (begins input) ?_ fun tally => ?_
  · intro tally index _ fault fatal
    refine ⟨_, tally.absorb_error visit.name index fault, ?_⟩
    rw [branchFault_of_fatal index fatal]
  · cases tally.fault with
    | some fault => exact heeds_throw _
    | none => exact heeds_pure _

/-! ## States -/

theorem heeds_actOf (shared : Shared) (kind : StateKind) (visit : Visit)
    (begins : ∀ {count member}, Begins shared visit kind count member →
      manner.begins count member) : (actOf shared kind visit).Heeds manner := by
  cases kind with
  | task task =>
      rw [actOf]
      exact heeds_bind (visit.heeds_runTask task) fun result => visit.heeds_complete result
  | pass result =>
      rw [actOf]
      exact heeds_bind (visit.heeds_passResult result) fun result => visit.heeds_complete result
  | choice branches fallback =>
      rw [actOf]
      exact visit.heeds_runChoice branches fallback
  | wait seconds timestamp =>
      rw [actOf]
      exact heeds_bind (visit.heeds_runWait _ _) fun _ => visit.heeds_complete visit.effective
  | succeed =>
      rw [actOf]
      exact heeds_bind (heeds_evaluate _) fun done => heeds_pure _
  | fail error cause =>
      rw [actOf]
      exact heeds_bind (visit.heeds_runFail error cause) fun failure => heeds_throw _
  | map processor iterator mapping =>
      rw [actOf, runnerOf_or]
      refine heeds_bind (visit.heeds_runMap mapping _ ?_ ?_) fun result =>
        visit.heeds_complete result
      · intro runner same wave
        rcases Option.map_eq_some_iff.mp same with ⟨graph, isGraph, same⟩
        exact begins (same ▸ .units (Option.mem_toList.mpr isGraph) wave)
      · exact fun writer inputs => begins (.writes writer inputs)
  | parallel branches =>
      rw [actOf]
      refine heeds_bind (heeds_runParallel shared visit _ fun input => ?_) fun result =>
        visit.heeds_complete result
      exact begins (.branches rfl input)

/-- What an attempt looks at besides the state: its input, and the frame it was entered with. -/
def visitOf (shared : Shared) (name : String) (state : State) (raw : Json) (frame : Frame)
    (entered : Instant) (retries : Nat) (effective : Json) : Visit :=
  { name, common := state.common, raw, effective
    env := visitedEnv shared name state.common frame entered retries
    frame := frame.visited name entered retries }

theorem heeds_attemptOf (shared : Shared) (name : String) (state : State) (raw : Json)
    (frame : Frame) (entered : Instant) (retries : Nat)
    (begins : ∀ {effective count member}, Begins shared
      (visitOf shared name state raw frame entered retries effective) state.kind count member →
        manner.begins count member) :
    (attemptOf shared name state raw frame entered retries).Heeds manner
      fun fault result => result = .error fault := by
  have heeds : (attempt name state.common (actOf shared state.kind) raw
      (visitedEnv shared name state.common frame entered retries)
      (frame.visited name entered retries)).Heeds manner :=
    heeds_bind (heeds_ofExcept _) fun effective => heeds_actOf shared state.kind _ begins
  exact heeds

/-! ## Retries -/

theorem heeds_retrying {state : String} {retriers : List Retrier}
    {attempt : Nat → Program (Except Fault α)}
    (attempts : ∀ retries, (attempt retries).Heeds manner fun fault result => result = .error fault)
    (fuel : Nat) (counts : List Nat) (retries : Nat) :
    (retrying state retriers attempt fuel counts retries).Heeds manner
      fun fault result => result.1 = .error fault := by
  induction fuel using Nat.strongRecOn generalizing counts retries with
  | ind fuel ih =>
      rw [retrying_eq]
      refine Program.heeds_bind (attempts retries) ?_ ?_
      · rintro fault fatal _ rfl
        have unfailed : failureOf? (.error fault : Except Fault α) = none := fatal
        rw [unfailed]
        exact ⟨_, rfl, rfl⟩
      · intro result
        cases failureOf? result with
        | none => trivial
        | some failure =>
            -- No answer to the question whether to retry is a fault.
            have asks : (askRetry state retriers counts failure).Heeds manner
                fun _ _ => False := by
              refine fun source => ⟨fun answer fault fatal => (nomatch fatal), fun again => ?_⟩
              cases again <;> trivial
            refine Program.heeds_bind asks (fun _ _ _ never => never.elim) fun plan => ?_
            cases fuel with
            | zero => trivial
            | succ fuel =>
                cases plan with
                | none => trivial
                | some plan =>
                    exact ⟨fun answer fault fatal => (nomatch fatal),
                      fun _ => ih fuel (Nat.lt_succ_self fuel) _ _⟩

theorem heeds_settle (shared : Shared) (name : String) (state : State) (raw : Json)
    (frame : Frame) (entered : Instant) (result : Except Fault Ended × Nat) :
    (settle shared name state.type state.common raw frame entered result).Heeds manner
      fun fault outcome => outcome = .error fault := by
  have reports : ∀ ended, (reportCompleted name state.type raw frame ended).Heeds manner
      fun fault outcome => outcome = .error fault :=
    fun ended => ⟨fun answer fault fatal => (nomatch fatal), fun _ => trivial⟩
  match result with
  | (.ok ended, _) => exact reports ended
  | (.error (.failed failure), _) =>
      rw [settle, catchFailure]
      split
      · trivial
      · refine Program.heeds_bind (Action.heeds_evaluate _) ?_ fun done => ?_
        · rintro fault _ _ rfl
          exact ⟨_, rfl, rfl⟩
        · cases done with
          | ok done => exact reports _
          | error fault => trivial
  | (.error (.malformed _), _) => trivial
  | (.error (.unknownResource _), _) => trivial
  | (.error (.noBatching _), _) => trivial
  | (.error (.tooManyTransitions _), _) => trivial
  | (.error .crashed, _) => trivial

/-! ## Graphs -/

section Graphs

variable (shared : Shared) (begins : ∀ {visit kind count member},
  Begins shared visit kind count member → manner.begins count member)

include begins

theorem heeds_stateRunner_of_begins (name : String) (state : State) (raw : Json) (frame : Frame) :
    (stateRunner shared name state raw frame).Heeds manner
      fun fault outcome => outcome = .error fault := by
  rw [stateRunner, runState_eq]
  refine ⟨by rintro answer fault ⟨⟩, fun entered => ?_⟩
  refine Program.heeds_bind (heeds_retrying (fun retries => ?_) _ _ _) ?_ ?_
  · exact heeds_attemptOf shared name state raw frame entered retries begins
  · rintro fault fatal ⟨_, retries⟩ rfl
    refine ⟨.error fault, ?_, rfl⟩
    cases fault with
    | failed failure => cases fatal
    | _ => rfl
  · exact heeds_settle shared name state raw frame entered

theorem heeds_walk (sameLimit : manner.limit = shared.config.maxTransitions)
    (states : List (String × State)) (fuel : Nat) (name : String) (input : Json)
    (frame : Frame) :
    (walk shared.config.maxTransitions (runnersOf shared states) fuel name input frame).Heeds manner
      fun fault outcome => outcome = .error fault := by
  induction fuel generalizing name input frame with
  | zero => trivial
  | succ fuel ih =>
      rw [walk_succ, findRunner_runnersOf]
      refine ⟨fun granted fault fatal => ?_, fun granted => ?_⟩
      · cases granted with
        | true => cases fatal
        | false =>
            cases fatal
            exact ⟨_, rfl, by rw [sameLimit]⟩
      · cases granted with
        | false => trivial
        | true =>
            simp only [if_true]
            cases Graph.find? name states with
            | none => trivial
            | some state =>
                refine Program.heeds_bind
                  (heeds_stateRunner_of_begins shared begins name state input frame) ?_
                  fun result => ?_
                · rintro fault _ _ rfl
                  exact ⟨_, rfl, rfl⟩
                · cases result with
                  | error fault => trivial
                  | ok ended =>
                      rw [passOn]
                      cases ended.next with
                      | none => trivial
                      | some target => exact ih target _ _

theorem heeds_runGraph_of_begins (sameLimit : manner.limit = shared.config.maxTransitions)
    (graph : Graph) (input : Json) (frame : Frame) :
    (runGraph shared graph input frame).Heeds manner
      fun fault outcome => outcome = .error fault := by
  rcases graph with ⟨startAt, states, comment, processorConfig⟩
  rw [runGraph]
  exact heeds_walk shared begins sameLimit states _ startAt input frame

theorem heeds_runBranch_of_begins (sameLimit : manner.limit = shared.config.maxTransitions)
    (visit : Visit) (graph : Graph) (input : Json) :
    (runBranch shared visit (runGraph shared graph) input).Heeds manner
      fun fault outcome => outcome = .error fault := by
  refine Program.heeds_bind (heeds_retrying (fun retries => ?_) _ _ _) ?_ fun result => ?_
  · exact heeds_runGraph_of_begins shared begins sameLimit graph input _
  · rintro fault _ ⟨_, retries⟩ rfl
    exact ⟨_, rfl, rfl⟩
  · trivial

end Graphs

/-! ## Any groups -/

section Free

variable (shared : Shared) (free : ∀ count member, manner.begins count member)

include free

end Free

end Workflow.Engine
