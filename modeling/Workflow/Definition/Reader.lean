import Workflow.Definition.Error
import Workflow.Definition.Fields
import Workflow.Record

/-!
# Reading definitions

Machines, graphs and states from documents. Fields that a record does not know are passed over.
Graphs nest no deeper than the document does, so its depth is fuel enough for reading it.
-/

namespace Workflow

open Record (optional orElse required nullable)

/-! ## Fields -/

/-- The dialect of a name, given as text or as an object with that one key. -/
def Dialect.read? : Json → Option Dialect
  | .string name => ofName? name
  | .object [(name, .null)] => ofName? name
  | _ => none

/-- A literal that a reader takes, or the text of an expression. -/
def Given.read? {α : Type} (literal : Json → Option α) (value : Json) : Option (Given α) :=
  match literal value, value with
  | some found, _ => some (.literal found)
  | none, .string text => some (.expression text)
  | none, _ => none

/-- A setting and its sibling. -/
def Setting.read? {α : Type} (literal : Json → Option α) (name : String)
    (fields : Record.Fields) : Option (Setting α) := do
  let given ← optional (Given.read? literal) name fields
  let path ← optional Json.string? (name ++ "Path") fields
  return { given, path }

/-- A text setting and its sibling. -/
def TextSetting.read? (name : String) (fields : Record.Fields) : Option TextSetting := do
  let text ← optional Json.string? name fields
  let path ← optional Json.string? (name ++ "Path") fields
  return { text, path }

/-! ## Policies -/

/-- An unsigned 32-bit integer. -/
def Json.toSmall? (value : Json) : Option Nat :=
  value.toUnsigned?.filter fun count => count < 4294967296

/-- Whether a jitter strategy is the full one. -/
def Retrier.readJitter? : Json → Option Bool
  | .string "NONE" => some false
  | .string "FULL" => some true
  | .object [("NONE", .null)] => some false
  | .object [("FULL", .null)] => some true
  | _ => none

def Retrier.read? (document : Json) : Option Retrier := do
  let fields ← Record.fields? ["ErrorEquals", "IntervalSeconds", "MaxAttempts", "BackoffRate",
    "MaxDelaySeconds", "JitterStrategy", "Comment"] document
  let errorEquals ← required (Record.list Json.string?) "ErrorEquals" fields
  let intervalSeconds ← optional Json.toUnsigned? "IntervalSeconds" fields
  let maxAttempts ← optional Json.toSmall? "MaxAttempts" fields
  let backoffRate ← optional Record.float? "BackoffRate" fields
  let maxDelaySeconds ← optional Json.toUnsigned? "MaxDelaySeconds" fields
  let fullJitter ← optional readJitter? "JitterStrategy" fields
  let comment ← optional Json.string? "Comment" fields
  return { errorEquals, intervalSeconds, maxAttempts, backoffRate, maxDelaySeconds, fullJitter
           comment }

def Catcher.read? (document : Json) : Option Catcher := do
  let fields ← Record.fields? ["ErrorEquals", "Next", "ResultPath", "Output", "Assign",
    "Comment"] document
  let errorEquals ← required (Record.list Json.string?) "ErrorEquals" fields
  let next ← required Json.string? "Next" fields
  let resultPath ← nullable Json.string? "ResultPath" fields
  let comment ← optional Json.string? "Comment" fields
  return { errorEquals, next, resultPath, comment
           output := Record.any "Output" fields
           assign := Record.any "Assign" fields }

/-! ## Map records -/

/-- Reads the settings of an item reader. -/
def ReaderConfig.read? : Json → Option ReaderConfig
  | .object fields => do
    let maxItems ← Setting.read? Json.toUnsigned? "MaxItems" fields
    return { maxItems, extra := Json.erase "MaxItems" (Json.erase "MaxItemsPath" fields) }
  | _ => none

def ItemReader.read? (document : Json) : Option ItemReader := do
  let fields ← Record.fields? ["Resource", "ReaderConfig", "Parameters", "Arguments"] document
  let resource ← required Json.string? "Resource" fields
  let config ← optional ReaderConfig.read? "ReaderConfig" fields
  return { resource, config
           parameters := Record.any "Parameters" fields
           arguments := Record.any "Arguments" fields }

def ItemBatcher.read? (document : Json) : Option ItemBatcher := do
  let fields ← Record.fields? ["MaxItemsPerBatch", "MaxItemsPerBatchPath",
    "MaxInputBytesPerBatch", "MaxInputBytesPerBatchPath", "BatchInput"] document
  let maxItems ← Setting.read? Json.toUnsigned? "MaxItemsPerBatch" fields
  let maxBytes ← Setting.read? Json.toUnsigned? "MaxInputBytesPerBatch" fields
  return { maxItems, maxBytes, batchInput := Record.any "BatchInput" fields }

def ResultWriter.read? (document : Json) : Option ResultWriter := do
  let fields ← Record.fields? ["Resource", "WriterConfig", "Parameters", "Arguments"] document
  let resource ← required Json.string? "Resource" fields
  return { resource
           config := Record.any "WriterConfig" fields
           parameters := Record.any "Parameters" fields
           arguments := Record.any "Arguments" fields }

/-- Reads what a Map does beside running its processor. -/
def Mapping.read? (fields : Record.Fields) : Option Mapping := do
  let itemsPath ← optional Json.string? "ItemsPath" fields
  let reader ← optional ItemReader.read? "ItemReader" fields
  let batcher ← optional ItemBatcher.read? "ItemBatcher" fields
  let writer ← optional ResultWriter.read? "ResultWriter" fields
  let maxConcurrency ← Setting.read? Json.toUnsigned? "MaxConcurrency" fields
  let toleratedCount ← Setting.read? Json.toUnsigned? "ToleratedFailureCount" fields
  let toleratedPercentage ← Setting.read? Record.float? "ToleratedFailurePercentage" fields
  let label ← optional Json.string? "Label" fields
  return { itemsPath, reader, batcher, writer, maxConcurrency, toleratedCount
           toleratedPercentage, label
           items := Record.any "Items" fields
           itemSelector := Record.any "ItemSelector" fields }

/-! ## States -/

def Task.read? (fields : Record.Fields) : Option Task := do
  let resource ← required Json.string? "Resource" fields
  let timeout ← Setting.read? Json.toUnsigned? "TimeoutSeconds" fields
  let heartbeat ← Setting.read? Json.toUnsigned? "HeartbeatSeconds" fields
  return { resource, timeout, heartbeat, credentials := Record.any "Credentials" fields }

/-- Reads what states have in common; fields that the type does not know are not looked at. -/
def Common.read? (type : StateType) (fields : Record.Fields) : Option Common := do
  let known := fields.filter fun (name, _) => type.knows name
  let comment ← optional Json.string? "Comment" known
  let dialect ← optional Dialect.read? "QueryLanguage" known
  let next ← optional Json.string? "Next" known
  let ends ← optional Json.bool? "End" known
  let inputPath ← nullable Json.string? "InputPath" known
  let outputPath ← nullable Json.string? "OutputPath" known
  let resultPath ← nullable Json.string? "ResultPath" known
  let retriers ← orElse (Record.list Retrier.read?) [] "Retry" known
  let catchers ← orElse (Record.list Catcher.read?) [] "Catch" known
  return { comment, dialect, next, ends, inputPath, outputPath, resultPath, retriers, catchers
           parameters := Record.any "Parameters" known
           resultSelector := Record.any "ResultSelector" known
           arguments := Record.any "Arguments" known
           output := Record.any "Output" known
           assign := Record.any "Assign" known }

namespace Definition

/-- A field that does not fit makes the document a misfit. -/
def fit {α : Type} (found : Option α) : Except Misfit α :=
  match found with
  | some value => .ok value
  | none => .error .field

/-- Reads a branch of a Choice. -/
def readBranch : Json → Except Misfit Branch
  | .object members => (Branch.read members).mapError .rule
  | _ => .error .field

def readItems {α : Type} (read : Json → Except Misfit α) : Option Json → Except Misfit (List α)
  | some (.array items) => items.mapM read
  | _ => .error .field

/-- Reads an optional graph. -/
def readOptional {α : Type} (read : Json → Except Misfit α) : Option Json →
    Except Misfit (Option α)
  | none => .ok none
  | some .null => .ok none
  | some value => (read value).map some

/-- Refuses the fields of a Map that come before a name and do not fit. -/
def precede (name : String) (fields : Record.Fields) : Except Misfit Unit := do
  let earlier := fields.filter fun (other, _) => other < name
  let _ ← fit (Common.read? .map earlier)
  let _ ← fit (Mapping.read? earlier)

/-- Reads what a state is besides what states have in common, given a reader for the graphs
nested in it. Fields are looked at in the order of their names, so that a misfit is the first. -/
def readKind (nested : Json → Except Misfit Graph) (type : StateType) (fields : Record.Fields) :
    Except Misfit StateKind :=
  match type with
  | .task => return .task (← fit (Task.read? fields))
  | .pass => return .pass (Record.any "Result" fields)
  | .choice => do
    let branches ← readItems readBranch (Json.lookup "Choices" fields)
    return .choice branches (← fit (optional Json.string? "Default" fields))
  | .wait => do
    let seconds ← fit (Setting.read? Json.toUnsigned? "Seconds" fields)
    return .wait seconds (← fit (TextSetting.read? "Timestamp" fields))
  | .succeed => return .succeed
  | .fail => do
    let error ← fit (TextSetting.read? "Error" fields)
    return .fail error (← fit (TextSetting.read? "Cause" fields))
  | .map => do
    precede "ItemProcessor" fields
    let processor ← readOptional nested (Json.lookup "ItemProcessor" fields)
    precede "Iterator" fields
    let iterator ← readOptional nested (Json.lookup "Iterator" fields)
    return .map processor iterator (← fit (Mapping.read? fields))
  | .parallel => return .parallel (← readItems nested (Json.lookup "Branches" fields))

mutual

def readGraph (fuel : Nat) (document : Json) : Except Misfit Graph :=
  match fuel with
  | 0 => .error .field
  | fuel + 1 => do
    let fields ← fit <|
      Record.fields? ["StartAt", "States", "Comment", "ProcessorConfig"] document
    let comment ← fit (optional Json.string? "Comment" fields)
    let startAt ← fit (orElse (fun value => value.string?.map some) none "StartAt" fields)
    match Json.lookup "States" fields with
    | some (.object members) =>
      let states ← members.mapM fun (name, raw) => do
        let state ← readState fuel raw
        return (name, state)
      return .mk (← fit startAt) states comment (Record.any "ProcessorConfig" fields)
    | _ => throw .field

def readState (fuel : Nat) (document : Json) : Except Misfit State :=
  match fuel, document with
  | fuel + 1, .object fields => do
    let type ← fit ((required Json.string? "Type" fields).bind StateType.ofName?)
    let kind ← readKind (readGraph fuel) type fields
    return .mk (← fit (Common.read? type fields)) kind
  | _, _ => .error .field

end

/-- Reads a state from a document of its own. -/
def stateOf (document : Json) : Except Misfit State := readState document.depth document

def machineOf (document : Json) : Except Misfit Machine := do
  match document with
  | .object fields =>
    let dialect ← fit (optional Dialect.read? "QueryLanguage" fields)
    let timeout ← fit (optional Json.toUnsigned? "TimeoutSeconds" fields)
    let version ← fit (optional Json.string? "Version" fields)
    let graph ← readGraph document.depth document
    return { graph, dialect, timeout, version }
  | _ => throw .field

end Definition

end Workflow
