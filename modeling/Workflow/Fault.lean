import Workflow.Failure
import Workflow.Functional
import Workflow.Intrinsic

/-!
# Faults

A fault ends a run without an output. Only one kind of fault, a failure, can be retried, caught or
tolerated; every other one ends the run at once. Errors of expressions become faults in one way:
a value that cannot be placed, a malformed call and everything else each have their own name, and
an overrun is a crash.
-/

namespace Workflow

/-- An error of an expression or a template in either dialect. -/
inductive Evaluation.Error where
  | path (error : Path.Error)
  | intrinsic (error : Intrinsic.Error)
  | functional (error : Functional.Error)

def Evaluation.Error.message : Evaluation.Error → String
  | .path error => error.message
  | .intrinsic error => error.message
  | .functional error => error.message

/-- What a run can find malformed only when it gets there. -/
inductive Malformation where
  | unknownTarget (name : String)
  | noTransition (name : String)
  | noProcessor (name : String)
  | noTime (name : String)
  | deepRule (limit : Nat)
  | call (text : String) (flaw : Intrinsic.Flaw) (offset : Nat)
deriving DecidableEq, Inhabited

def Malformation.message : Malformation → String
  | .unknownTarget state => "transition to unknown state '" ++ state ++ "'"
  | .noTransition state => "state '" ++ state ++ "' has neither 'Next' nor 'End'"
  | .noProcessor state => "Map state '" ++ state ++ "' has no ItemProcessor"
  | .noTime state => "Wait state '" ++ state ++ "' needs Seconds or Timestamp"
  | .deepRule limit => "choice rules nest deeper than " ++ Decimal.natText limit ++ " levels"
  | .call text flaw offset => (Intrinsic.Error.malformed text flaw offset).message

/-- Why a run ends without an output. -/
inductive Fault where
  /-- The kind that retriers, catchers and tolerances see. -/
  | failed (failure : Failure)
  | malformed (cause : Malformation)
  | unknownResource (resource : String)
  /-- A Map asks for batches by size, and nothing splits them. -/
  | noBatching (state : String)
  | tooManyTransitions (limit : Nat)
  /-- The program comes to a halt; whoever waits for it learns no more than that. -/
  | crashed
deriving DecidableEq, Inhabited

namespace Fault

/-- A failure with a reserved name. -/
def reserved (kind : Reserved) (cause : String) : Fault := .failed (.reserved kind cause)

def failure? : Fault → Option Failure
  | .failed failure => some failure
  | _ => none

def message : Fault → String
  | .failed failure => "execution failed: " ++ failure.shown
  | .malformed cause => "syntax error: " ++ cause.message
  | .unknownResource resource => "no handler registered for resource '" ++ resource ++ "'"
  | .noBatching state =>
    "configuration error: Map state '" ++ state ++
      "' sets MaxInputBytesPerBatch but no byte batching hook is installed"
  | .tooManyTransitions limit =>
    "exceeded the limit of " ++ Decimal.natText limit ++ " state transitions"
  | .crashed => "the program crashed"

end Fault

/-- The fault that an error of an expression becomes. -/
def Evaluation.Error.fault : Evaluation.Error → Fault
  | .path (.blocked text obstacle) =>
    .reserved .resultPathMatchFailure
      ("unable to apply ResultPath '" ++ text ++ "': " ++ obstacle.message)
  | .path (.overrun _) => .crashed
  | .path error => .reserved .runtime error.message
  | .intrinsic (.malformed text flaw offset) => .malformed (.call text flaw offset)
  | .intrinsic (.path (.overrun _)) => .crashed
  | .intrinsic error => .reserved .intrinsicFailure error.message
  | .functional error => .reserved .queryEvaluationError error.message

end Workflow
