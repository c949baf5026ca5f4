import Workflow.Engine.Batch

/-!
# Map

The processor runs on every unit of work, in waves of as many as may run side by side. Outputs are
kept by the place of their unit, so the order in which units complete never shows in the result.
Tolerance is counted in items: a batch that fails counts as all of its items. When the state is
going to fail, its wave runs to the end or is stopped, and no later wave begins.
-/

namespace Workflow.Engine

/-- What is known of the units so far. -/
structure MapTally where
  /-- The outputs by place; `null` for units that failed or have not run. -/
  outputs : List Json
  /-- How many items failed. -/
  failed : Nat := 0
  /-- The first failure that is not tolerated. -/
  first : Option Failure := none
  /-- Whether more items failed than are tolerated. -/
  exceeded : Bool := false
  /-- A fault that ends the state at once. -/
  fault : Option Fault := none

/-- What a Map allows and counts. -/
structure MapLimits where
  state : String
  /-- The number of items. -/
  items : Nat
  /-- How many items may fail; without a number none may. -/
  tolerance : Option Nat
  /-- Whether a wave is stopped when the state is going to fail. -/
  cancelWave : Bool

/-- Takes in the failure of a unit. -/
def MapTally.fail (limits : MapLimits) (tally : MapTally) (weight : Nat) (failure : Failure) :
    MapTally :=
  let failed := tally.failed + weight
  match limits.tolerance with
  | none => { tally with failed, first := tally.first.or (some failure) }
  | some tolerance => { tally with failed, exceeded := tally.exceeded || tolerance < failed }

/-- Takes in how the unit at a place ended. -/
def MapTally.absorb (limits : MapLimits) (tally : MapTally) (place weight : Nat) :
    Completion → Progress MapTally
  | .finished (.ok output) => .more { tally with outputs := tally.outputs.set place output }
  | .finished (.error (.failed failure)) =>
    let tally := tally.fail limits weight failure
    if limits.cancelWave && (tally.first.isSome || tally.exceeded) then .stop tally
    else .more tally
  | .finished (.error fault) => .stop { tally with fault := some fault }
  | .crashed =>
    .stop { tally with
      fault := some <| .reserved .taskFailed <|
        "map item in state '" ++ limits.state ++ "' did not complete: " }

/-- Why the state fails after a wave, if it does. -/
def MapTally.verdict (limits : MapLimits) (tally : MapTally) : Option Fault :=
  match tally.fault, tally.first, tally.exceeded with
  | some fault, _, _ => some fault
  | none, some failure, _ => some (.failed failure)
  | none, none, true =>
    some <| .reserved .exceedToleratedFailureThreshold <|
      Decimal.natText tally.failed ++ " of " ++ Decimal.natText limits.items ++
        " items failed in Map state '" ++ limits.state ++ "'"
  | none, none, false => none

/-- Runs the unit at an index of a wave; the place of a unit comes with it. -/
def runUnit (visit : Visit) (processor : Runner) (wave : List (Nat × WorkUnit)) (index : Nat) :
    Program Outcome :=
  match wave[index]? with
  | some (place, unit) => processor unit.input (visit.frame.itemChild visit.name place unit.shown)
  | none => .done (.ok .null)

/-- Takes in how the unit at an index of a wave ended. -/
def absorbUnit (limits : MapLimits) (wave : List (Nat × WorkUnit)) (tally : MapTally)
    (index : Nat) (completion : Completion) : Progress MapTally :=
  match wave[index]? with
  | some (place, unit) => tally.absorb limits place unit.weight completion
  | none => .more tally

def runWaves (visit : Visit) (processor : Runner) (limits : MapLimits) (tally : MapTally) :
    List (List (Nat × WorkUnit)) → Action (List Json)
  | [] => return tally.outputs
  | wave :: rest => do
    let tally ← Action.gather wave.length (runUnit visit processor wave) tally
      (absorbUnit limits wave)
    match tally.verdict limits with
    | some fault => throw fault
    | none => runWaves visit processor limits tally rest

/-- Units with their places. -/
def withPlaces (units : List WorkUnit) : List (Nat × WorkUnit) :=
  units.zipIdx.map fun (unit, place) => (place, unit)

/-- How many units may run side by side; zero means all of them, and so does no number. -/
def waveSize (concurrency : Option Nat) (units : Nat) : Nat :=
  match concurrency.getD 0 with
  | 0 => max units 1
  | size => size

/-- Units with their places, in waves. -/
def wavesOf (concurrency : Option Nat) (units : List WorkUnit) : List (List (Nat × WorkUnit)) :=
  Intrinsic.chunks (waveSize concurrency units.length) units.length (withPlaces units)

/-- Runs all units; their outputs in order. -/
def runUnits (visit : Visit) (processor : Runner) (limits : MapLimits) (concurrency : Option Nat)
    (units : List WorkUnit) : Action (List Json) :=
  runWaves visit processor limits { outputs := units.map fun _ => .null }
    (wavesOf concurrency units)

/-- How many of a number of items a percentage tolerates. -/
def shareOf (percentage : Float) (items : Nat) : Nat :=
  ((Decimal.floor? (Float.ofNat items * percentage / 100.0)).getD 0).toNat

namespace Visit

/-- How many items may fail, if a number or a percentage says; the smaller one of both. -/
def tolerance (visit : Visit) (mapping : Mapping) (items : Nat) : Action (Option Nat) := do
  let count ← visit.resolve .unsigned "ToleratedFailureCount" mapping.toleratedCount.dynamic
  let percentage ←
    visit.resolve .float "ToleratedFailurePercentage" mapping.toleratedPercentage.dynamic
  match percentage with
  | none => return count
  | some percentage =>
    if 0.0 ≤ percentage ∧ percentage ≤ 100.0 then
      let share := shareOf percentage items
      return some ((count.map fun count => min count share).getD share)
    else
      throw <| .reserved .runtime <|
        "ToleratedFailurePercentage " ++ Decimal.plainText percentage ++ " is outside 0..=100"

/-! ## Writing results -/

/-- What is known of the writes so far. -/
structure WriteTally where
  written : List Json
  failures : List String := []
  fault : Option Fault := none

/-- Takes in how a write ended. -/
def WriteTally.absorb (tally : WriteTally) (index : Nat) : Completion → Progress WriteTally
  | .finished (.ok value) => .more { tally with written := tally.written.set index value }
  | .finished (.error (.failed failure)) =>
    .more { tally with
      failures := tally.failures ++ ["output " ++ Decimal.natText index ++ ": " ++ failure.shown] }
  | .finished (.error fault) => .stop { tally with fault := some fault }
  | .crashed =>
    .more { tally with failures := tally.failures ++ ["writer call did not complete: "] }

/-- What the writer is given for an output. -/
def writerInput (visit : Visit) (writer : ResultWriter) (output : Json) : Action Json := do
  let template := visit.template writer.parameters writer.arguments
  let input ← Action.evaluate (Pipeline.buildArguments template output visit.env)
  match writer.config with
  | some config => return .object [("Output", input), ("WriterConfig", config)]
  | none => return input

/-- What the writer is given for each output, in order. -/
def writerInputs (visit : Visit) (writer : ResultWriter) : List Json → Action (List Json)
  | [] => return []
  | output :: rest => do
    let input ← visit.writerInput writer output
    let inputs ← visit.writerInputs writer rest
    return input :: inputs

/-- Sends every output through the writer. Failures are reported, in the order of their texts, when
all writes have ended. -/
def writeResults (visit : Visit) (writer : ResultWriter) (outputs : List Json) : Action Json := do
  let inputs ← visit.writerInputs writer outputs
  let tally ← Action.gather inputs.length
    (fun index => (invoke writer.resource (inputs.getD index .null) none).run)
    { written := outputs.map fun _ => .null } WriteTally.absorb
  match tally.fault, tally.failures with
  | some fault, _ => throw fault
  | none, [] => return .array tally.written
  | none, failures =>
    let sorted := failures.mergeSort fun left right => !decide (right < left)
    throw <| .reserved .resultWriterFailed <|
      Decimal.natText failures.length ++ " of " ++ Decimal.natText outputs.length ++
        " writes failed in Map state '" ++ visit.name ++ "': " ++ String.intercalate "; " sorted

/-! ## The state -/

/-- The units of a Map: its batches, or its items one by one. -/
def groupUnits (visit : Visit) (mapping : Mapping) (units : List WorkUnit) :
    Action (List WorkUnit) :=
  match mapping.batcher with
  | some batcher => visit.batch batcher units
  | none => return units

/-- What becomes of the outputs of a Map: their array, or what the writer makes of it. -/
def collect (visit : Visit) (mapping : Mapping) (outputs : List Json) : Action Json :=
  match mapping.writer with
  | some writer => visit.writeResults writer outputs
  | none => return .array outputs

def runMap (visit : Visit) (mapping : Mapping) (processor : Option Runner) : Action Json := do
  let some processor := processor | throw (.malformed (.noProcessor visit.name))
  let items ← visit.readItems mapping
  let selected ← visit.selectItems mapping 0 items
  let units ← visit.groupUnits mapping selected
  let tolerance ← visit.tolerance mapping items.length
  let concurrency ← visit.resolve .unsigned "MaxConcurrency" mapping.maxConcurrency.dynamic
  let limits : MapLimits :=
    { state := visit.name, items := items.length, tolerance
      cancelWave := visit.env.config.cancelWave }
  let outputs ← runUnits visit processor limits concurrency units
  visit.collect mapping outputs

end Visit

end Workflow.Engine
