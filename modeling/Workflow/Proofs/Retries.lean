import Workflow.Proofs.Counters

/-!
# Retries of states

What the counters say of a state that retries its own attempts, which is any state but a Parallel:
when a failure is retried, how many attempts there are, what an attempt can read of that, and what
becomes of a failure that is not retried.
-/

namespace Workflow.Engine

variable {shared : Shared} {name : String} {state : State} {raw : Json} {frame : Frame}

/-! ## Contexts -/

/-- The context of a frame is an object, so that a state can be entered in it. -/
def Frame.Proper (frame : Frame) : Prop := ∃ members, frame.context = .object members

theorem setMember_object {context : Json} (isObject : ∃ members, context = .object members)
    (key : String) (value : Json) : ∃ members, setMember context key value = .object members := by
  rcases isObject with ⟨members, rfl⟩
  exact ⟨_, rfl⟩

/-- A machine starts in such a frame, whatever the caller adds to it. -/
theorem proper_initialContext (id : String) (input : Json) (started : Instant)
    (caller : Option Json) (bindings : Variables) (stack : List String) (dialect : Dialect) :
    Frame.Proper ⟨initialContext id input started caller, bindings, stack, dialect⟩ := by
  cases caller with
  | none => exact ⟨_, rfl⟩
  | some extra => cases extra <;> exact ⟨_, rfl⟩

/-- An attempt in such a frame runs in one, and so do its branches and its items. -/
theorem Frame.Proper.visited (proper : frame.Proper) (name : String) (entered : Instant)
    (retries : Nat) :
    (frame.visited name entered retries).Proper ∧
      ((frame.visited name entered retries).child name).Proper ∧
      ∀ index value, ((frame.visited name entered retries).itemChild name index value).Proper := by
  have visited : (frame.visited name entered retries).Proper := setMember_object proper _ _
  exact ⟨visited, visited, fun index value => setMember_object visited _ _⟩

end Workflow.Engine
