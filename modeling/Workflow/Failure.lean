import Workflow.Json

/-!
# Failures

A failure has a name and perhaps a cause. It is what retriers and catchers look at, and what a
failed run reports. Some names are reserved for failures that the interpreter raises itself.
-/

namespace Workflow

/-- Reserved failure names. -/
inductive Reserved where
  /-- Matches every failure; only used in lists of names. -/
  | all
  | timeout
  | heartbeatTimeout
  | taskFailed
  | branchFailed
  | noChoiceMatched
  | resultPathMatchFailure
  | permissions
  | queryEvaluationError
  | intrinsicFailure
  | resultWriterFailed
  | exceedToleratedFailureThreshold
  | itemReaderFailed
  | runtime
deriving DecidableEq, Inhabited

namespace Reserved

/-- The text of a reserved name. -/
def name : Reserved → String
  | .all => "States.ALL"
  | .timeout => "States.Timeout"
  | .heartbeatTimeout => "States.HeartbeatTimeout"
  | .taskFailed => "States.TaskFailed"
  | .branchFailed => "States.BranchFailed"
  | .noChoiceMatched => "States.NoChoiceMatched"
  | .resultPathMatchFailure => "States.ResultPathMatchFailure"
  | .permissions => "States.Permissions"
  | .queryEvaluationError => "States.QueryEvaluationError"
  | .intrinsicFailure => "States.IntrinsicFailure"
  | .resultWriterFailed => "States.ResultWriterFailed"
  | .exceedToleratedFailureThreshold => "States.ExceedToleratedFailureThreshold"
  | .itemReaderFailed => "States.ItemReaderFailed"
  | .runtime => "States.Runtime"

def list : List Reserved :=
  [.all, .timeout, .heartbeatTimeout, .taskFailed, .branchFailed, .noChoiceMatched,
   .resultPathMatchFailure, .permissions, .queryEvaluationError, .intrinsicFailure,
   .resultWriterFailed, .exceedToleratedFailureThreshold, .itemReaderFailed, .runtime]

end Reserved

/-- A failure of a state, a resource or the interpreter. -/
structure Failure where
  name : String
  cause : Option String
deriving DecidableEq, Inhabited

namespace Failure

def reserved (kind : Reserved) (cause : String) : Failure := ⟨kind.name, some cause⟩

/-- Whether a failure has a reserved name. -/
def has (failure : Failure) (kind : Reserved) : Bool := failure.name == kind.name

def toJson (failure : Failure) : Json :=
  match failure.cause with
  | some cause => .object [("Cause", .string cause), ("Error", .string failure.name)]
  | none => .object [("Error", .string failure.name)]

def shown (failure : Failure) : String :=
  match failure.cause with
  | some cause => failure.name ++ ": " ++ cause
  | none => failure.name

/-- Reads a failure from the members of an object, or from a list of its fields. -/
def ofJson? : Json → Option Failure
  | .object members =>
    match Json.lookup "Error" members, Json.lookup "Cause" members with
    | some (.string name), none => some ⟨name, none⟩
    | some (.string name), some .null => some ⟨name, none⟩
    | some (.string name), some (.string cause) => some ⟨name, some cause⟩
    | _, _ => none
  | .array [.string name] => some ⟨name, none⟩
  | .array [.string name, .null] => some ⟨name, none⟩
  | .array [.string name, .string cause] => some ⟨name, some cause⟩
  | _ => none

end Failure

end Workflow
