import Workflow.Proofs.Stays

/-!
# Calls

A graph calls its states one after the other. `Called` follows the walk: each call is a run of a
state by itself, on the output and with the variables that the call before it left behind. Only the
last call may be under way, and with a call that ends in a fault the graph ends too.
-/

namespace Workflow.Engine

/-- A frame after a state, whose variables only a result can change. -/
def Frame.after (frame : Frame) : Except Fault Ended → Frame
  | .ok ended => { frame with bindings := ended.bindings }
  | .error _ => frame

structure Call where
  name : String
  state : State
  input : Json
  frame : Frame
  history : History
  after : Process (Except Fault Ended)

namespace Call

/-- A call is a run of the state by itself. -/
def Of (shared : Shared) (call : Call) : Prop :=
  Run (.alone (stateRunner shared call.name call.state call.input call.frame)) call.history
    call.after

def marks (call : Call) : History := ([], .asked .enter true) :: call.history

end Call

/-- The calls of a walk, what is asked after them, and what the walk has come to. -/
inductive Called (shared : Shared) (states : List (String × State)) :
    (name : String) → Json → Frame → List Call → History → Process Outcome → Prop where
  | waiting {name : String} {input : Json} {frame : Frame} {after : Process Outcome}
      (goesOn : after.Unfinished) : Called shared states name input frame [] [] after
  | exhausted (name : String) (input : Json) (frame : Frame) :
      Called shared states name input frame [] []
        (.alone (.done (.error (.tooManyTransitions shared.config.maxTransitions))))
  | refused (name : String) (input : Json) (frame : Frame) :
      Called shared states name input frame [] [([], .asked .enter false)]
        (.alone (.done (.error (.tooManyTransitions shared.config.maxTransitions))))
  | unknown {name : String} (input : Json) (frame : Frame)
      (missing : Graph.find? name states = none) :
      Called shared states name input frame [] [([], .asked .enter true)]
        (.alone (.done (.error (.malformed (.unknownTarget name)))))
  | within {call : Call} {after : Process Outcome} (isOf : call.Of shared)
      (isState : Graph.find? call.name states = some call.state)
      (unfinished : call.after.Unfinished) (goesOn : after.Unfinished) :
      Called shared states call.name call.input call.frame [call] [] after
  | failed {call : Call} {fault : Fault} (isOf : call.Of shared)
      (isState : Graph.find? call.name states = some call.state)
      (fails : call.after = .alone (.done (.error fault))) :
      Called shared states call.name call.input call.frame [call] [] (.alone (.done (.error fault)))
  | ended {call : Call} {ended : Ended} (isOf : call.Of shared)
      (isState : Graph.find? call.name states = some call.state)
      (ends : call.after = .alone (.done (.ok ended))) (last : ended.next = none) :
      Called shared states call.name call.input call.frame [call] []
        (.alone (.done (.ok ended.output)))
  | next {call : Call} {ended : Ended} {target : String} {calls : List Call} {tail : History}
      {after : Process Outcome} (isOf : call.Of shared)
      (isState : Graph.find? call.name states = some call.state)
      (ends : call.after = .alone (.done (.ok ended))) (goes : ended.next = some target)
      (further : Called shared states target ended.output (call.frame.after (.ok ended)) calls tail
        after) :
      Called shared states call.name call.input call.frame (call :: calls) tail after

section Called

variable {shared : Shared} {states : List (String × State)} {name : String} {input : Json}
  {frame : Frame} {after : Process Outcome}

/-- A run that goes on from a state which was entered is a call of it, and what comes after. -/
theorem visit_called {fuel : Nat} {state : State} (found : Graph.find? name states = some state)
    (ih : ∀ {name input frame history},
      Run (.alone (walk shared.config.maxTransitions (runnersOf shared states) fuel name input
        frame)) history after →
      ∃ calls tail, history = calls.flatMap Call.marks ++ tail ∧
        Called shared states name input frame calls tail after)
    {history : History}
    (run : Run (.alone ((stateRunner shared name state input frame).bind
      (passOn shared.config.maxTransitions (runnersOf shared states) fuel frame))) history after) :
    ∃ calls tail, ([], .asked .enter true) :: history = calls.flatMap Call.marks ++ tail ∧
      Called shared states name input frame calls tail after := by
  rcases run.bind_inv with ⟨middle, unfinished, visit, same⟩ |
    ⟨visited, later, result, split, visit, run⟩
  · let call : Call := ⟨name, state, input, frame, history, middle⟩
    have isOf : call.Of shared := visit
    exact ⟨[call], [], by simp [call, Call.marks],
      .within isOf found unfinished (same ▸ unfinished.bind _)⟩
  let call : Call := ⟨name, state, input, frame, visited, .alone (.done result)⟩
  have isOf : call.Of shared := visit
  rw [split]
  cases result with
  | error fault =>
      rcases run.done_inv with ⟨nothing, same⟩
      rw [nothing, same]
      exact ⟨[call], [], by simp [call, Call.marks], .failed isOf found rfl⟩
  | ok ended =>
      rw [passOn] at run
      cases goes : ended.next with
      | none =>
          rw [goes] at run
          rcases run.done_inv with ⟨nothing, same⟩
          rw [nothing, same]
          exact ⟨[call], [], by simp [call, Call.marks], .ended isOf found rfl goes⟩
      | some target =>
          rw [goes] at run
          rcases ih run with ⟨calls, tail, whole, called⟩
          exact ⟨call :: calls, tail, by simp [call, Call.marks, whole],
            .next isOf found rfl goes called⟩

theorem walk_called {fuel : Nat} {history : History}
    (run : Run (.alone (walk shared.config.maxTransitions (runnersOf shared states) fuel name input
      frame)) history after) :
    ∃ calls tail, history = calls.flatMap Call.marks ++ tail ∧
      Called shared states name input frame calls tail after := by
  induction fuel generalizing name input frame history with
  | zero =>
      rcases run.done_inv with ⟨nothing, same⟩
      rw [nothing, same]
      exact ⟨[], [], rfl, .exhausted name input frame⟩
  | succ fuel ih =>
      rw [walk_succ] at run
      rcases run.ask_inv with ⟨nothing, unfinished⟩ | ⟨granted, later, split, run⟩
      · exact ⟨[], [], nothing, .waiting unfinished⟩
      rw [split]
      cases granted with
      | false =>
          rcases run.done_inv with ⟨nothing, same⟩
          rw [nothing, same]
          exact ⟨[], _, rfl, .refused name input frame⟩
      | true =>
          rw [if_pos rfl, findRunner_runnersOf] at run
          cases found : Graph.find? name states with
          | none =>
              rw [found] at run
              rcases run.done_inv with ⟨nothing, same⟩
              rw [nothing, same]
              exact ⟨[], _, rfl, .unknown input frame found⟩
          | some state =>
              rw [found] at run
              exact visit_called found ih run

/-- A run of a graph falls into calls, the first one of the state that the graph starts at. -/
theorem runGraph_called {graph : Graph} {history : History}
    (run : Run (.alone (runGraph shared graph input frame)) history after) :
    ∃ calls tail, history = calls.flatMap Call.marks ++ tail ∧
      Called shared graph.states graph.startAt input frame calls tail after := by
  rcases graph with ⟨startAt, states, comment, processorConfig⟩
  rw [runGraph] at run
  exact walk_called run

/-- Every call is of a state of the graph, and in a frame that only the variables are new in. -/
theorem Called.each {calls : List Call} {tail : History}
    (called : Called shared states name input frame calls tail after) :
    ∀ call ∈ calls, call.Of shared ∧ Graph.find? call.name states = some call.state ∧
      { call.frame with bindings := frame.bindings } = frame := by
  have single : ∀ {call : Call}, call.Of shared →
      Graph.find? call.name states = some call.state → ∀ other ∈ [call],
        other.Of shared ∧ Graph.find? other.name states = some other.state ∧
          { other.frame with bindings := call.frame.bindings } = call.frame := by
    intro call isOf isState other isCall
    cases List.mem_singleton.mp isCall
    exact ⟨isOf, isState, rfl⟩
  induction called with
  | waiting => simp
  | exhausted => simp
  | refused => simp
  | unknown => simp
  | within isOf isState => exact single isOf isState
  | failed isOf isState => exact single isOf isState
  | ended isOf isState => exact single isOf isState
  | @next call _ _ _ _ _ isOf isState ends goes further ih =>
      intro other isCall
      rcases List.mem_cons.mp isCall with same | isLater
      · cases same
        exact ⟨isOf, isState, rfl⟩
      · rcases ih other isLater with ⟨laterOf, laterState, laterFrame⟩
        exact ⟨laterOf, laterState,
          congrArg (fun frame => { frame with bindings := call.frame.bindings }) laterFrame⟩

/-- The fault of a state is the fault of its graph, and nothing runs after it. -/
theorem Called.fails {calls : List Call} {tail : History}
    (called : Called shared states name input frame calls tail after) :
    ∀ call ∈ calls, ∀ fault, call.after = .alone (.done (.error fault)) →
      calls.getLast? = some call ∧ after = .alone (.done (.error fault)) := by
  induction called with
  | waiting => simp
  | exhausted => simp
  | refused => simp
  | unknown => simp
  | within isOf isState unfinished =>
      intro call isCall fault same
      cases List.mem_singleton.mp isCall
      exact absurd same (unfinished _)
  | failed isOf isState fails =>
      intro call isCall fault same
      cases List.mem_singleton.mp isCall
      cases fails.symm.trans same
      exact ⟨rfl, rfl⟩
  | ended isOf isState ends =>
      intro call isCall fault same
      cases List.mem_singleton.mp isCall
      cases ends.symm.trans same
  | next isOf isState ends goes further ih =>
      intro call isCall fault same
      rcases List.mem_cons.mp isCall with isFirst | isLater
      · cases isFirst
        cases ends.symm.trans same
      · rcases ih call isLater fault same with ⟨isLast, failed⟩
        refine ⟨?_, failed⟩
        rw [List.getLast?_cons, isLast]
        rfl

end Called

end Workflow.Engine
