import Workflow.Definition

/-!
# Fields of states

Which fields a state may have depends on its type and on its dialect.
-/

namespace Workflow.StateType

/-- The fields of every state. -/
def commonFields : List String := ["Type", "Comment", "QueryLanguage"]

/-- The fields of a state type in both dialects. -/
def sharedFields : StateType → List String
  | .task => ["Resource", "Next", "End", "Retry", "Catch", "TimeoutSeconds", "HeartbeatSeconds",
      "Credentials", "Assign"]
  | .pass => ["Next", "End", "Assign"]
  | .choice => ["Choices", "Default", "Assign"]
  | .wait => ["Next", "End", "Seconds", "Timestamp", "Assign"]
  | .succeed => []
  | .fail => ["Error", "Cause"]
  | .map => ["Next", "End", "ItemProcessor", "Iterator", "ItemReader", "ItemBatcher",
      "ResultWriter", "MaxConcurrency", "ToleratedFailureCount", "ToleratedFailurePercentage",
      "Label", "Retry", "Catch", "Assign", "ItemSelector"]
  | .parallel => ["Next", "End", "Branches", "Retry", "Catch", "Assign"]

/-- The further fields of a state type in the path dialect. -/
def pathFields : StateType → List String
  | .task => ["InputPath", "OutputPath", "Parameters", "ResultSelector", "ResultPath",
      "TimeoutSecondsPath", "HeartbeatSecondsPath"]
  | .pass => ["InputPath", "OutputPath", "Parameters", "Result", "ResultPath"]
  | .choice => ["InputPath", "OutputPath"]
  | .wait => ["InputPath", "OutputPath", "SecondsPath", "TimestampPath"]
  | .succeed => ["InputPath", "OutputPath"]
  | .fail => ["ErrorPath", "CausePath"]
  | .map => ["InputPath", "OutputPath", "ItemsPath", "Parameters", "ResultSelector", "ResultPath",
      "MaxConcurrencyPath", "ToleratedFailureCountPath", "ToleratedFailurePercentagePath"]
  | .parallel => ["InputPath", "OutputPath", "Parameters", "ResultSelector", "ResultPath"]

/-- The further fields of a state type in the functional dialect. -/
def functionalFields : StateType → List String
  | .task => ["Arguments", "Output"]
  | .pass => ["Output"]
  | .choice => ["Output"]
  | .wait => ["Output"]
  | .succeed => ["Output"]
  | .fail => []
  | .map => ["Items", "Output"]
  | .parallel => ["Arguments", "Output"]

/-- Whether states of a type that are written in a dialect may have a field. -/
def allows (type : StateType) (dialect : Dialect) (field : String) : Bool :=
  commonFields.contains field || type.sharedFields.contains field ||
    match dialect with
    | .path => type.pathFields.contains field
    | .functional => type.functionalFields.contains field

/-- Whether states of a type know a field in any dialect. -/
def knows (type : StateType) (field : String) : Bool :=
  type.allows .path field || type.allows .functional field

/-- Fields that states of a type must have. -/
def requiredFields : StateType → List String
  | .task => ["Resource"]
  | .choice => ["Choices"]
  | .parallel => ["Branches"]
  | _ => []

end Workflow.StateType
