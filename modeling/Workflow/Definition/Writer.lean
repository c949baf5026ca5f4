import Workflow.Definition
import Workflow.Record

/-!
# Writing definitions

Machines, graphs and states as documents. Only fields that are set are written.
-/

namespace Workflow

open Record (object someList nullableText)

/-- The document of a field. -/
def Given.toJson {α : Type} (literal : α → Json) : Given α → Json
  | .literal value => literal value
  | .expression text => .string text

def Setting.toFields {α : Type} (literal : α → Json) (name : String) (setting : Setting α) :
    List (String × Option Json) :=
  [(name, setting.given.map (Given.toJson literal)),
   (name ++ "Path", setting.path.map Json.string)]

def TextSetting.toFields (name : String) (setting : TextSetting) :
    List (String × Option Json) :=
  [(name, setting.text.map Json.string), (name ++ "Path", setting.path.map Json.string)]

/-- The names that a policy claims. -/
def namesToJson (names : List String) : Json := .array (names.map Json.string)

def Retrier.toJson (retrier : Retrier) : Json :=
  object
    [("ErrorEquals", some (namesToJson retrier.errorEquals)),
     ("IntervalSeconds", retrier.intervalSeconds.map Json.nat),
     ("MaxAttempts", retrier.maxAttempts.map Json.nat),
     ("BackoffRate", retrier.backoffRate.map Json.ofFloat),
     ("MaxDelaySeconds", retrier.maxDelaySeconds.map Json.nat),
     ("JitterStrategy",
      retrier.fullJitter.map fun full => .string (if full then "FULL" else "NONE")),
     ("Comment", retrier.comment.map Json.string)]

def Catcher.toJson (catcher : Catcher) : Json :=
  object
    [("ErrorEquals", some (namesToJson catcher.errorEquals)),
     ("Next", some (.string catcher.next)),
     ("ResultPath", nullableText catcher.resultPath),
     ("Output", catcher.output),
     ("Assign", catcher.assign),
     ("Comment", catcher.comment.map Json.string)]

/-- The document of the settings of an item reader. -/
def ReaderConfig.toJson (config : ReaderConfig) : Json :=
  object <|
    config.maxItems.toFields Json.nat "MaxItems" ++
      config.extra.map fun (name, value) => (name, some value)

def ItemReader.toJson (reader : ItemReader) : Json :=
  object
    [("Resource", some (.string reader.resource)),
     ("ReaderConfig", reader.config.map ReaderConfig.toJson),
     ("Parameters", reader.parameters),
     ("Arguments", reader.arguments)]

def ItemBatcher.toJson (batcher : ItemBatcher) : Json :=
  object <|
    batcher.maxItems.toFields Json.nat "MaxItemsPerBatch" ++
    batcher.maxBytes.toFields Json.nat "MaxInputBytesPerBatch" ++
    [("BatchInput", batcher.batchInput)]

def ResultWriter.toJson (writer : ResultWriter) : Json :=
  object
    [("Resource", some (.string writer.resource)),
     ("WriterConfig", writer.config),
     ("Parameters", writer.parameters),
     ("Arguments", writer.arguments)]

/-- The fields of a Map beside its processor. -/
def Mapping.toFields (mapping : Mapping) : List (String × Option Json) :=
  [("Items", mapping.items),
   ("ItemsPath", mapping.itemsPath.map Json.string),
   ("ItemSelector", mapping.itemSelector),
   ("ItemReader", mapping.reader.map ItemReader.toJson),
   ("ItemBatcher", mapping.batcher.map ItemBatcher.toJson),
   ("ResultWriter", mapping.writer.map ResultWriter.toJson),
   ("Label", mapping.label.map Json.string)] ++
  mapping.maxConcurrency.toFields Json.nat "MaxConcurrency" ++
  mapping.toleratedCount.toFields Json.nat "ToleratedFailureCount" ++
  mapping.toleratedPercentage.toFields Json.ofFloat "ToleratedFailurePercentage"

/-- The fields that states have in common. -/
def Common.toFields (common : Common) : List (String × Option Json) :=
  [("Comment", common.comment.map Json.string),
   ("QueryLanguage", common.dialect.map fun dialect => .string dialect.name),
   ("Next", common.next.map Json.string),
   ("End", common.ends.map Json.bool),
   ("InputPath", nullableText common.inputPath),
   ("OutputPath", nullableText common.outputPath),
   ("ResultPath", nullableText common.resultPath),
   ("Parameters", common.parameters),
   ("ResultSelector", common.resultSelector),
   ("Arguments", common.arguments),
   ("Output", common.output),
   ("Assign", common.assign),
   ("Retry", someList Retrier.toJson common.retriers),
   ("Catch", someList Catcher.toJson common.catchers)]

mutual

def Graph.toFields : Graph → List (String × Option Json)
  | .mk startAt states comment processorConfig =>
    [("StartAt", some (.string startAt)),
     ("States", some (.object (Graph.statesToMembers states))),
     ("Comment", comment.map Json.string),
     ("ProcessorConfig", processorConfig)]

def Graph.statesToMembers : List (String × State) → List (String × Json)
  | [] => []
  | (name, .mk common kind) :: rest =>
    (name, object (("Type", some (.string (State.mk common kind).type.name)) ::
      (common.toFields ++ kind.toFields))) :: Graph.statesToMembers rest

/-- The fields of a state besides those that states have in common. -/
def StateKind.toFields : StateKind → List (String × Option Json)
  | .task task =>
    [("Resource", some (.string task.resource)), ("Credentials", task.credentials)] ++
    task.timeout.toFields Json.nat "TimeoutSeconds" ++
    task.heartbeat.toFields Json.nat "HeartbeatSeconds"
  | .pass result => [("Result", result)]
  | .choice branches fallback =>
    [("Choices", some (.array (branches.map Branch.toJson))),
     ("Default", fallback.map Json.string)]
  | .wait seconds timestamp =>
    seconds.toFields Json.nat "Seconds" ++ timestamp.toFields "Timestamp"
  | .succeed => []
  | .fail error cause => error.toFields "Error" ++ cause.toFields "Cause"
  | .map processor iterator mapping =>
    ("ItemProcessor", Graph.optionToJson processor) ::
    ("Iterator", Graph.optionToJson iterator) :: mapping.toFields
  | .parallel branches => [("Branches", some (.array (Graph.listToJson branches)))]

def Graph.optionToJson : Option Graph → Option Json
  | none => none
  | some graph => some (object graph.toFields)

def Graph.listToJson : List Graph → List Json
  | [] => []
  | graph :: rest => object graph.toFields :: Graph.listToJson rest

end

def State.toJson (state : State) : Json :=
  object (("Type", some (.string state.type.name)) ::
    (state.common.toFields ++ state.kind.toFields))

def Machine.toJson (machine : Machine) : Json :=
  object <| machine.graph.toFields ++
    [("QueryLanguage", machine.dialect.map fun dialect => .string dialect.name),
     ("TimeoutSeconds", machine.timeout.map Json.nat),
     ("Version", machine.version.map Json.string)]

end Workflow
