import Workflow.Engine.Retry

/-!
# Parallel

All branches run on the same input, each with retry counters of its own. The outputs are kept by
the place of their branch. The first branch that ends without an output stops the others.
-/

namespace Workflow.Engine

/-- The outputs of branches so far, and why the state fails, if it does. -/
structure BranchTally where
  outputs : List Json
  fault : Option Fault

/-- Takes in how a branch ended. -/
def BranchTally.absorb (state : String) (tally : BranchTally) (index : Nat) :
    Completion → Progress BranchTally
  | .finished (.ok output) => .more { tally with outputs := tally.outputs.set index output }
  | .finished (.error (.failed failure)) =>
    .stop { tally with
      fault := some <| .reserved .branchFailed <|
        "branch " ++ Decimal.natText index ++ " failed: " ++ failure.shown }
  | .finished (.error fault) => .stop { tally with fault := some fault }
  | .crashed =>
    .stop { tally with
      fault := some <| .reserved .branchFailed <|
        "a branch of Parallel state '" ++ state ++ "' did not complete: " }

/-- Runs a branch until it need not be retried. -/
def runBranch (shared : Shared) (visit : Visit) (branch : Runner) (input : Json) :
    Program Outcome := do
  let retriers := visit.common.retriers
  let (outcome, _) ← retrying visit.name retriers
    (fun _ => branch input (visit.frame.child visit.name))
    (shared.patience retriers) (retriers.map fun _ => 0) 0
  return outcome

/-- Runs all branches; their outputs in order. -/
def runParallel (shared : Shared) (visit : Visit) (branches : List Runner) : Action Json := do
  let input ← visit.arguments
  let tally ← Action.gather branches.length
    (fun index =>
      match branches[index]? with
      | some branch => runBranch shared visit branch input
      | none => .done (.ok .null))
    { outputs := branches.map fun _ => .null, fault := none }
    (BranchTally.absorb visit.name)
  match tally.fault with
  | some fault => throw fault
  | none => return .array tally.outputs

end Workflow.Engine
