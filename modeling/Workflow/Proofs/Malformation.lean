import Mathlib
import Workflow.Proofs.Loading
import Workflow.Proofs.Scheduled

/-!
# Malformations

Loading refuses whatever can be seen to be malformed without running it. This is proved to be
enough: in whatever order tasks are interleaved and however requests are answered, a loaded machine
never comes to an unknown state, to a state that does not say where it goes, or to a Map without
a processor. It can only come to a wait without a time, to a rule nested deeper than the
configuration allows, and to a text that is no call.
-/

namespace Workflow

/-- A state of a name stands in a graph or in a graph that runs in it, at any depth. -/
def Graph.Contains (graph : Graph) (name : String) (state : State) : Prop :=
  ∃ nested, graph.Nests nested ∧ (name, state) ∈ nested.states

/-- The malformations that may still be found when a loaded graph runs, each with what it is
about. -/
def Malformation.Excused (graph : Graph) (config : Config) : Malformation → Prop
  | .noTime name => ∃ common seconds timestamp,
      graph.Contains name (.mk common (.wait seconds timestamp)) ∧
      seconds.given.isNone ∧ seconds.path = none ∧ timestamp.text = none ∧ timestamp.path = none
  | .deepRule limit => limit = config.maxChoiceDepth ∧ ∃ name common branches fallback branch,
      graph.Contains name (.mk common (.choice branches fallback)) ∧
      branch ∈ branches ∧ limit < branch.rule.depth
  | .call text flaw offset => Intrinsic.parse text = .error (.malformed text flaw offset)
  | .unknownTarget _ => False
  | .noTransition _ => False
  | .noProcessor _ => False

/-- A fault is not a malformation, or one that is excused. -/
def Fault.Excused (graph : Graph) (config : Config) (fault : Fault) : Prop :=
  ∀ cause, fault = .malformed cause → cause.Excused graph config

theorem tolerant_excused (graph : Graph) (config : Config) :
    Tolerant (Fault.Excused graph config) fun _ => True where
  plain := fun _ plain cause same => absurd same (plain cause)
  call := by
    intro text flaw offset failed cause same
    cases same
    exact failed
  ordinary := fun _ _ => trivial

theorem Setting.unset_of_dynamic {α : Type} {setting : Setting α}
    (missing : setting.dynamic = none) : setting.given.isNone ∧ setting.path = none := by
  rw [Setting.dynamic] at missing
  split at missing <;> simp_all

theorem TextSetting.unset_of_dynamic {setting : TextSetting}
    (missing : setting.dynamic = none) : setting.text = none ∧ setting.path = none := by
  rw [TextSetting.dynamic] at missing
  split at missing
  · split at missing <;> cases missing
  · cases missing
  · simp_all

/-- A graph that is closed and has processors for its Maps is to blame for excused faults only. -/
theorem Graph.owns_excused {graph nested : Graph} (nests : graph.Nests nested)
    (closed : nested.Closed) (equipped : nested.Equipped) (config : Config) :
    nested.Owns (Fault.Excused graph config) config := by
  refine ⟨fun missing => absurd missing closed.entry, ?_, ?_⟩
  · intro name state isState target isTarget missing
    exact absurd missing (closed.targets name state isState target isTarget)
  · intro name state isState
    rcases state with ⟨common, kind⟩
    refine ⟨fun goes missing => absurd missing (closed.transitions _ _ isState goes), ?_, ?_, ?_⟩
    · intro branches fallback same branch isBranch deep cause isCause
      cases same
      cases isCause
      exact ⟨rfl, name, common, branches, fallback, branch, ⟨nested, nests, isState⟩, isBranch,
        deep⟩
    · intro seconds timestamp same noSeconds noTimestamp cause isCause
      cases same
      cases isCause
      rcases Setting.unset_of_dynamic noSeconds with ⟨noGiven, noPath⟩
      rcases TextSetting.unset_of_dynamic noTimestamp with ⟨noText, noTextPath⟩
      exact ⟨common, seconds, timestamp, ⟨nested, nests, isState⟩, noGiven, noPath, noText,
        noTextPath⟩
    · intro processor iterator mapping same missing
      cases same
      exact absurd missing (equipped name common processor iterator mapping isState)

namespace Definition

open Engine (Shared runGraph runMachine)

/-- A run of a loaded machine, or of any graph that runs in it, finds nothing malformed but what is
excused: no invocation at any depth ends so in any interleaving, and no schedule does. -/
theorem excused_of_load {document : Json} {inherited : Dialect} {machine : Machine}
    (loaded : load document inherited = .ok machine) (shared : Shared) :
    (∀ nested input frame history process, machine.graph.Nests nested →
      Run (.alone (runGraph shared nested input frame)) history process →
        ∀ cause, process.Shows (.error (.malformed cause)) →
          cause.Excused machine.graph shared.config) ∧
    (∀ fallback id caller input history process,
      Run (.alone (runMachine shared machine fallback id caller input)) history process →
        ∀ cause, process.Shows (.error (.malformed cause)) →
          cause.Excused machine.graph shared.config) ∧
    ∀ (σ : Type) (host : Host σ) fuel timeout fallback id caller input count
        (world later : Schedule.World σ) outcomes, world.tasks = #[] →
      Schedule.runTimes host fuel timeout (runMachine shared machine fallback id caller input)
          count world = some (outcomes, later) →
        ∀ cause, .error (.malformed cause) ∈ outcomes →
          cause.Excused machine.graph shared.config := by
  have tolerant := tolerant_excused machine.graph shared.config
  have owns : ∀ nested, machine.graph.Nests nested →
      nested.Owns (Fault.Excused machine.graph shared.config) shared.config := by
    intro nested nests
    have sound := sound_of_load loaded nests
    exact Graph.owns_excused nests sound.1 sound.2 shared.config
  have machineEnsures := Engine.ensures_runMachine tolerant shared machine owns
  refine ⟨?_, ?_, ?_⟩
  · intro nested input frame history process nests run cause shown
    have behaves := Engine.runGraph_behaves tolerant shared nested
      fun inner innerNests => owns inner (nests.trans innerNests)
    exact shown.allowed (run.ensures (behaves input frame)) cause rfl
  · intro fallback id caller input history process run cause shown
    exact shown.allowed (run.ensures (machineEnsures fallback id caller input)) cause rfl
  · intro σ host fuel timeout fallback id caller input count world later outcomes fresh ended
      cause isOutcome
    have keeps : world.Keeps
        (Settles (Fault.Excused machine.graph shared.config) fun _ => True) := by
      intro id task found
      simp [fresh] at found
    have ends := Schedule.runTimes_keeps host fuel timeout
      (machineEnsures fallback id caller input) count keeps ended _ isOutcome
    rcases ends with excused | ⟨seconds, _, same⟩
    · exact excused cause rfl
    · cases same

/-- A document with a wait that says no time. -/
def untimed : Json :=
  .object [("StartAt", .string "Rest"),
    ("States", .object [("Rest", .object [("End", .bool true), ("Type", .string "Wait")])])]

def untimedMachine : Machine :=
  { graph := .mk "Rest" [("Rest", .mk { ends := some true } (.wait {} {}))] none none }

theorem load_untimed : load untimed .path = .ok untimedMachine := by
  cbv

theorem excused_of_load_untimed :
    load untimed .path = .ok untimedMachine ∧
      (Malformation.noTime "Rest").Excused untimedMachine.graph { maxTransitions := 1 } := by
  have run : Run
      (.alone (runMachine ⟨{ maxTransitions := 1 }, 0⟩ untimedMachine .path "" none .null))
      [([], .asked .now default), ([], .asked .enter true), ([], .asked .now default),
        ([], .asked .now default)]
      (.alone (.done (.error (.malformed (.noTime "Rest"))))) := by
    refine .step (.ask .now _ default) ?_
    refine .step (.ask .enter _ true) ?_
    refine .step (.ask .now _ default) ?_
    refine .step (.ask .now _ default) ?_
    exact .refl _
  exact ⟨load_untimed,
    (excused_of_load load_untimed ⟨{ maxTransitions := 1 }, 0⟩).2.1 _ _ _ _ _ _ run _ (.here _)⟩

end Definition

end Workflow
