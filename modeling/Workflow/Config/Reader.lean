import Workflow.Config
import Workflow.Definition.Reader

/-!
# Reading and writing settings

Every setting has a default, so an empty record is valid. Unknown settings are passed over.
-/

namespace Workflow.Config

/-- The names of the settings, in order. -/
def names : List String :=
  ["query_language", "max_transitions", "max_choice_depth", "max_array_range",
   "cancel_wave_on_threshold", "default_task_timeout_secs"]

/-- Reads settings; those that are absent keep their defaults. -/
def read? (document : Json) : Option Config := do
  let initial : Config := {}
  let fields ← Record.fields? names document
  let dialect ← Record.orElse Dialect.read? initial.dialect "query_language" fields
  let maxTransitions ←
    Record.orElse Json.toUnsigned? initial.maxTransitions "max_transitions" fields
  let maxChoiceDepth ←
    Record.orElse Json.toUnsigned? initial.maxChoiceDepth "max_choice_depth" fields
  let maxArrayRange ←
    Record.orElse Json.toUnsigned? initial.maxArrayRange "max_array_range" fields
  let cancelWave ← Record.orElse Json.bool? initial.cancelWave "cancel_wave_on_threshold" fields
  let taskTimeout ← Record.optional Json.toUnsigned? "default_task_timeout_secs" fields
  return { dialect, maxTransitions, maxChoiceDepth, maxArrayRange, cancelWave, taskTimeout }

/-- The document of settings. -/
def toJson (config : Config) : Json :=
  Record.object
    [("query_language", some (.string config.dialect.name)),
     ("max_transitions", some (.nat config.maxTransitions)),
     ("max_choice_depth", some (.nat config.maxChoiceDepth)),
     ("max_array_range", some (.nat config.maxArrayRange)),
     ("cancel_wave_on_threshold", some (.bool config.cancelWave)),
     ("default_task_timeout_secs", config.taskTimeout.map Json.nat)]

end Workflow.Config
