import Mathlib.Data.List.Chain
import Workflow.Proofs.Assignments
import Workflow.Proofs.Calls
import Workflow.Proofs.Checking
import Workflow.Proofs.Surrender

/-!
# Scoping

Variables are read where they are bound and change where they are assigned. Whatever happens in a
state, its attempts, its units and its branches all start from the variables that it was entered
with, and what it leaves behind is what its own block, or that of its catcher, makes of them. Only
the frame of the next state sees that; the context is the same for all states of a graph.
-/

namespace Workflow.Engine

open Pipeline (Assigned assignedNames complete_assigned catchOutput_assigned
  completeBranch_assigned)

variable {α β : Type}

/-! ## Actions that end with a value -/

/-- Actions in sequence that end with a value end with a value each. -/
theorem run_bind_append_ok {action : Action α} {f : α → Action β} {history : History} {result : β}
    (run : Run (.alone (action >>= f).run) history (.alone (.done (.ok result)))) :
    ∃ earlier later value, history = earlier ++ later ∧
      Run (.alone action.run) earlier (.alone (.done (.ok value))) ∧
        Run (.alone (f value).run) later (.alone (.done (.ok result))) := by
  rcases run.bind_done_inv with ⟨earlier, later, middle, split, first, run⟩
  cases middle with
  | ok value => exact ⟨earlier, later, value, split, first, run⟩
  | error fault => cases run.done_inv.2

theorem run_bind_ok {action : Action α} {f : α → Action β} {history : History} {result : β}
    (run : Run (.alone (action >>= f).run) history (.alone (.done (.ok result)))) :
    ∃ earlier later value, Run (.alone action.run) earlier (.alone (.done (.ok value))) ∧
      Run (.alone (f value).run) later (.alone (.done (.ok result))) := by
  rcases run_bind_append_ok run with ⟨earlier, later, value, _, first, run⟩
  exact ⟨earlier, later, value, first, run⟩

theorem run_map_ok {action : Action α} {f : α → β} {history : History} {result : β}
    (run : Run (.alone (f <$> action).run) history (.alone (.done (.ok result)))) :
    ∃ value, Run (.alone action.run) history (.alone (.done (.ok value))) ∧ result = f value := by
  rcases run.bind_done_inv with ⟨earlier, later, middle, rfl, first, run⟩
  cases middle with
  | ok value =>
      rcases run.done_inv with ⟨rfl, same⟩
      cases same
      exact ⟨value, by rwa [List.append_nil], rfl⟩
  | error fault => cases run.done_inv.2

theorem run_ask_ok {request : Request} {answer : request.Answer} {history : History}
    (run : Run (.alone (Action.ask request).run) history (.alone (.done (.ok answer)))) :
    history = [([], .asked request answer)] := by
  rcases run.ask_inv with ⟨_, unfinished⟩ | ⟨given, later, same, run⟩
  · exact absurd rfl (unfinished _)
  rcases run.done_inv with ⟨nothing, ended⟩
  cases ended
  rw [same, nothing]

theorem run_evaluate_ok {evaluation : Evaluation Evaluation.Error α} {history : History}
    {result : α}
    (run : Run (.alone (Action.evaluate evaluation).run) history (.alone (.done (.ok result)))) :
    evaluation.Returns result := by
  rcases run.draw_inv with ⟨_, unfinished⟩ | ⟨source, later, _, run⟩
  · exact absurd rfl (unfinished _)
  have same : Program.done (.ok result) =
      .done ((evaluation.run source).1.mapError Evaluation.Error.fault) :=
    Process.alone.inj run.done_inv.2
  exact ⟨source, Except.mapError_eq_ok.mp (Program.done.inj same).symm⟩

theorem run_ofExcept_ok {known : Except Fault α} {history : History} {result : α}
    (run : Run (.alone (Action.ofExcept known).run) history (.alone (.done (.ok result)))) :
    known = .ok result := by
  cases run.done_inv.2
  rfl

/-! ## What a state binds -/

/-- What a state that need not be caught makes of variables: its own block comes first, and then
that of the branch that a Choice takes. -/
inductive Binds (state : State) (env : Env) (effective : Json) (before : Variables) :
    Variables → Prop where
  | own {after : Variables} (assigned : Assigned state.common.assign env before after)
      (unmatched : ∀ branches fallback, state.kind = .choice branches fallback →
        Rule.firstMatch (env.scope effective) 0 branches = .ok none) :
      Binds state env effective before after
  | matched {branches : List Branch} {fallback : Option String} {place : Nat} {branch : Branch}
      {middle after : Variables} (isChoice : state.kind = .choice branches fallback)
      (isFirst : Rule.firstMatch (env.scope effective) 0 branches = .ok (some (place, branch)))
      (assigned : Assigned state.common.assign env before middle)
      (branchAssigned : Assigned branch.assign env middle after) :
      Binds state env effective before after

theorem run_complete_ok {visit : Visit} {result : Json} {history : History} {ended : Ended}
    (run : Run (.alone (visit.complete result).run) history (.alone (.done (.ok ended)))) :
    Assigned visit.common.assign visit.env visit.env.bindings ended.bindings := by
  rcases run_bind_ok run with ⟨_, _, done, completes, run⟩
  rcases run_bind_ok run with ⟨_, _, next, _, run⟩
  cases run.done_inv.2
  exact complete_assigned (run_evaluate_ok completes)

theorem run_runChoice_ok {visit : Visit} {branches : List Branch} {fallback : Option String}
    {history : History} {ended : Ended}
    (run : Run (.alone (visit.runChoice branches fallback).run) history
      (.alone (.done (.ok ended)))) :
    Binds (.mk visit.common (.choice branches fallback)) visit.env visit.effective
      visit.env.bindings ended.bindings := by
  rcases run_bind_ok run with ⟨_, _, found, finds, run⟩
  have first := Except.mapError_eq_ok.mp (run_ofExcept_ok finds)
  match found, fallback with
  | none, none => cases run.done_inv.2
  | none, some next =>
      rcases run_bind_ok run with ⟨_, _, done, completes, run⟩
      cases run.done_inv.2
      refine .own (complete_assigned (run_evaluate_ok completes)) ?_
      rintro _ _ ⟨⟩
      exact first
  | some (place, branch), _ =>
      rcases run_bind_ok run with ⟨_, _, done, completes, run⟩
      rcases run_bind_ok run with ⟨_, _, final, completesBranch, run⟩
      cases run.done_inv.2
      exact .matched rfl first (complete_assigned (run_evaluate_ok completes))
        (completeBranch_assigned (run_evaluate_ok completesBranch))

theorem run_actOf_ok {shared : Shared} {kind : StateKind} {visit : Visit} {history : History}
    {ended : Ended}
    (run : Run (.alone (actOf shared kind visit).run) history (.alone (.done (.ok ended)))) :
    Binds (.mk visit.common kind) visit.env visit.effective visit.env.bindings
      ended.bindings := by
  cases kind with
  | task task =>
      rw [actOf] at run
      rcases run_bind_ok run with ⟨_, _, result, _, run⟩
      exact .own (run_complete_ok run) (by rintro _ _ ⟨⟩)
  | pass result =>
      rw [actOf] at run
      rcases run_bind_ok run with ⟨_, _, result, _, run⟩
      exact .own (run_complete_ok run) (by rintro _ _ ⟨⟩)
  | choice branches fallback =>
      rw [actOf] at run
      exact run_runChoice_ok run
  | wait seconds timestamp =>
      rw [actOf] at run
      rcases run_bind_ok run with ⟨_, _, _, _, run⟩
      exact .own (run_complete_ok run) (by rintro _ _ ⟨⟩)
  | succeed =>
      rw [actOf] at run
      rcases run_bind_ok run with ⟨_, _, done, completes, run⟩
      cases run.done_inv.2
      exact .own (complete_assigned (run_evaluate_ok completes)) (by rintro _ _ ⟨⟩)
  | fail error cause =>
      rw [actOf] at run
      rcases run_bind_ok run with ⟨_, _, failure, _, run⟩
      cases run.done_inv.2
  | map processor iterator mapping =>
      rw [actOf] at run
      rcases run_bind_ok run with ⟨_, _, result, _, run⟩
      exact .own (run_complete_ok run) (by rintro _ _ ⟨⟩)
  | parallel branches =>
      rw [actOf] at run
      rcases run_bind_ok run with ⟨_, _, result, _, run⟩
      exact .own (run_complete_ok run) (by rintro _ _ ⟨⟩)

theorem run_attemptOf_ok {shared : Shared} {name : String} {state : State} {raw : Json}
    {frame : Frame} {entered : Instant} {retries : Nat} {history : History} {ended : Ended}
    (run : Run (.alone (attemptOf shared name state raw frame entered retries)) history
      (.alone (.done (.ok ended)))) :
    ∃ effective, Pipeline.selectInput state.common raw
        (visitedEnv shared name state.common frame entered retries) = .ok effective ∧
      Binds state (visitedEnv shared name state.common frame entered retries) effective
        frame.bindings ended.bindings := by
  rcases state with ⟨common, kind⟩
  rcases run_bind_ok run with ⟨_, _, effective, selects, run⟩
  exact ⟨effective, Except.mapError_eq_ok.mp (run_ofExcept_ok selects), run_actOf_ok run⟩

/-- The variables that a state may set or remove, whether it is caught or not. -/
def namesBound (dialect : Dialect) (state : State) : List String :=
  assignedNames dialect state.common.assign ++
    (state.common.catchers.flatMap fun catcher => assignedNames dialect catcher.assign) ++
    match state.kind with
    | .choice branches _ => branches.flatMap fun branch => assignedNames dialect branch.assign
    | _ => []

/-! ## Frames -/

/-- An inner frame has the variables of an outer one, and its context but for some entries. -/
structure Encloses (outer : Frame) (entries : List String) (inner : Frame) : Prop where
  bindings : inner.bindings = outer.bindings
  context : ∀ key ∉ entries, inner.context.get? key = outer.context.get? key

theorem get?_setMember {context value : Json} {key other : String} (different : other ≠ key) :
    (setMember context key value).get? other = context.get? other := by
  cases context with
  | object members => exact Json.lookup_insert_of_ne different value members
  | _ => rfl

theorem encloses_visited (frame : Frame) (name : String) (entered : Instant) (retries : Nat) :
    Encloses frame ["State"] (frame.visited name entered retries) := by
  refine ⟨rfl, fun key other => get?_setMember ?_⟩
  exact fun same => other (List.mem_singleton.mpr same)

theorem Encloses.child {outer inner : Frame} {entries : List String}
    (encloses : Encloses outer entries inner) (name : String) :
    Encloses outer entries (inner.child name) :=
  ⟨encloses.bindings, encloses.context⟩

theorem Encloses.itemChild {outer inner : Frame} {entries : List String}
    (encloses : Encloses outer entries inner) (name : String) (index : Nat) (value : Json) :
    Encloses outer ("Map" :: entries) (inner.itemChild name index value) := by
  refine ⟨encloses.bindings, fun key other => ?_⟩
  rw [List.mem_cons, not_or] at other
  exact (get?_setMember other.1).trans (encloses.context key other.2)

/-! ## Groups -/

/-- What runs in a state: its graphs, each in a frame with the variables of the state, and writes. A
branch is run on the same input and in the same frame as often as it is retried. -/
inductive Nested (shared : Shared) (state : State) (frame : Frame) : Program Outcome → Prop where
  | item {graph : Graph} (runs : graph ∈ state.kind.graphs) (input : Json) {inner : Frame}
      (encloses : Encloses frame ["Map", "State"] inner) :
      Nested shared state frame (runGraph shared graph input inner)
  | branch {graph : Graph} (runs : graph ∈ state.kind.graphs) (input : Json) {visit : Visit}
      (encloses : Encloses frame ["State"] (visit.frame.child visit.name)) :
      Nested shared state frame (runBranch shared visit (runGraph shared graph) input)
  | write (resource : String) (input : Json) :
      Nested shared state frame (invoke resource input none).run

theorem Begins.nested {shared : Shared} {name : String} {state : State} {raw effective : Json}
    {frame : Frame} {entered : Instant} {retries count : Nat} {member : Nat → Program Outcome}
    (begins : Begins shared (visitOf shared name state raw frame entered retries effective)
      state.kind count member) {place : Nat} (inside : place < count) :
    Nested shared state frame (member place) := by
  have visited := encloses_visited frame name entered retries
  generalize same : state.kind = kind at begins
  cases begins with
  | units runs wave =>
      rw [runUnit, List.getElem?_eq_getElem inside]
      exact .item (same ▸ runs) _ (visited.itemChild name _ _)
  | writes writer inputs => exact .write _ _
  | branches isParallel input =>
      rw [branchesOf, List.getElem?_eq_getElem inside]
      rcases mem_runnersOfAll (List.getElem_mem inside) with ⟨graph, isGraph, isRunner⟩
      rw [isRunner]
      have runs : graph ∈ state.kind.graphs := by
        rw [same, isParallel]
        exact isGraph
      exact .branch runs input (visited.child name)

/-! ## States -/

section States

variable {shared : Shared} {name : String} {state : State} {raw : Json} {frame : Frame}

/-- What a state binds when it succeeds, and what its catcher binds otherwise. -/
inductive Leaves (shared : Shared) (name : String) (state : State) (raw : Json) (frame : Frame)
    (stay : Stay) (ended : Ended) : Prop where
  | succeeded {last : Effort Ended} {effective : Json}
      (isLast : stay.efforts.getLast? = some last)
      (succeeds : last.after = .alone (.done (.ok ended)))
      (selected : Pipeline.selectInput state.common raw
        (visitedEnv shared name state.common frame stay.entered last.retries) = .ok effective)
      (binds : Binds state (visitedEnv shared name state.common frame stay.entered last.retries)
        effective frame.bindings ended.bindings) :
      Leaves shared name state raw frame stay ended
  | caught {last : Effort Ended} {failure : Failure} {catcher : Catcher}
      (isLast : stay.efforts.getLast? = some last)
      (fails : last.after = .alone (.done (.error (.failed failure))))
      (claims : findCatcher state.common.catchers failure = some catcher)
      (assigned : Assigned catcher.assign
        (visitedEnv shared name state.common frame stay.entered last.retries) frame.bindings
        ended.bindings) :
      Leaves shared name state raw frame stay ended

theorem Binds.lookup_eq {env : Env} {effective : Json} {before after : Variables} {key : String}
    (binds : Binds state env effective before after)
    (unnamed : key ∉ namesBound env.dialect state) :
    Json.lookup key after = Json.lookup key before := by
  simp only [namesBound, List.mem_append, not_or] at unnamed
  rcases unnamed with ⟨⟨notOwn, _⟩, notBranch⟩
  cases binds with
  | own assigned => exact assigned.lookup_eq notOwn
  | @matched branches _ _ branch middle _ isChoice isFirst assigned branchAssigned =>
      rw [isChoice] at notBranch
      have isBranch := Rule.firstMatch_mem isFirst
      have notOfBranch := fun named => notBranch (List.mem_flatMap.mpr ⟨_, isBranch, named⟩)
      rw [branchAssigned.lookup_eq notOfBranch, assigned.lookup_eq notOwn]

theorem Leaves.lookup_eq {stay : Stay} {ended : Ended} {key : String}
    (leaves : Leaves shared name state raw frame stay ended)
    (unnamed : key ∉ namesBound (state.common.dialect.getD frame.dialect) state) :
    Json.lookup key ended.bindings = Json.lookup key frame.bindings := by
  cases leaves with
  | succeeded _ _ _ binds => exact binds.lookup_eq unnamed
  | caught _ _ claims assigned =>
      simp only [namesBound, List.mem_append, not_or] at unnamed
      have isCatcher := List.mem_of_find?_eq_some claims
      exact assigned.lookup_eq fun named =>
        unnamed.1.2 (List.mem_flatMap.mpr ⟨_, isCatcher, named⟩)

theorem Stay.Of.leaves {stay : Stay} {ended : Ended}
    (isOf : stay.Of shared name state raw frame (.alone (.done (.ok ended)))) :
    Leaves shared name state raw frame stay ended := by
  cases isOf with
  | attempting _ _ _ goesOn => exact absurd rfl (goesOn _)
  | settling _ _ goesOn => exact absurd rfl (goesOn _)
  | settled tries settled =>
      rcases tries.result with ⟨last, isLast, same, rfl⟩
      have run := (tries.among (List.mem_of_getLast? isLast)).1
      generalize stay.settling = settling at settled
      cases settled with
      | succeeded =>
          rw [same] at run
          rcases run_attemptOf_ok run with ⟨effective, selected, binds⟩
          exact .succeeded isLast same selected binds
      | caught claims evaluated =>
          exact .caught isLast same claims (catchOutput_assigned ⟨_, evaluated⟩)

end States

/-! ## Graphs -/

/-- A state hands its output and its variables on to the next one. -/
def Call.Leads (call later : Call) : Prop :=
  ∃ ended, call.after = .alone (.done (.ok ended)) ∧ ended.next = some later.name ∧
    later.input = ended.output ∧ later.frame = call.frame.after (.ok ended)

section Graphs

variable {shared : Shared} {states : List (String × State)} {name : String} {input : Json}
  {frame : Frame} {calls : List Call} {tail : History} {after : Process Outcome}

theorem Called.starts (called : Called shared states name input frame calls tail after) :
    ∀ first ∈ calls.head?, first.name = name ∧ first.input = input ∧ first.frame = frame := by
  cases called <;> simp

theorem Called.leads (called : Called shared states name input frame calls tail after) :
    calls.IsChain Call.Leads := by
  induction called with
  | waiting => exact .nil
  | exhausted => exact .nil
  | refused => exact .nil
  | unknown => exact .nil
  | within => exact .singleton _
  | failed => exact .singleton _
  | ended => exact .singleton _
  | @next call ended target calls _ _ isOf isState ends goes further ih =>
      cases calls with
      | nil => exact .singleton call
      | cons next rest =>
          rcases further.starts next rfl with ⟨sameName, sameInput, sameFrame⟩
          exact .cons_cons ⟨ended, ends, by rw [goes, sameName], sameInput, sameFrame⟩ ih

end Graphs

end Workflow.Engine
