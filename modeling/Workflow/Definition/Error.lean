import Workflow.Json.Printer
import Workflow.Rule

/-!
# Definition errors

What can be wrong with a definition, and the wording of it.
-/

namespace Workflow.Definition

/-- What can be wrong with the value of a field. -/
inductive Objection where
  | unknownDialect (value : Json)
  | unknownType (name : String)
  | notCondition
  | strayCondition

def Objection.message : Objection → String
  | .unknownDialect value => "unknown query language " ++ value.text
  | .unknownType type => "unknown state type '" ++ type ++ "'"
  | .notCondition => "choice rules must be a 'Condition' expression"
  | .strayCondition => "'Condition' rules require the functional query language"

/-- Why a document does not have the shape of a definition. -/
inductive Misfit where
  /-- The text is no document. -/
  | noDocument
  /-- A field is missing or of the wrong kind. -/
  | field
  | rule (flaw : Rule.Flaw)
  | machine
  | states
  | state (name : String)
  | processor (key state : String)
  | branches (state : String)
  | branch (state : String)

/-- The wording of a misfit; nothing more is said of fields and of texts that are no documents. -/
def Misfit.detail? : Misfit → Option String
  | .noDocument => none
  | .field => none
  | .rule flaw => some flaw.message
  | .machine => some "a definition must be a JSON object"
  | .states => some "'States' must be an object"
  | .state label => some ("state '" ++ label ++ "' must be a JSON object")
  | .processor key label => some ("'" ++ key ++ "' of state '" ++ label ++ "' must be an object")
  | .branches label => some ("'Branches' of state '" ++ label ++ "' must be an array")
  | .branch label => some ("a branch of state '" ++ label ++ "' must be an object")

/-- What can be wrong with a definition. -/
inductive Error where
  | misfit (misfit : Misfit)
  | missingStart (name : String)
  | unknownTarget (state target : String)
  | invalidName (name : String)
  | fieldNotAllowed (state type dialect field : String)
  | missingField (state field : String)
  | transition (state : String)
  | unreachable (state : String)
  | invalidValue (state field : String) (objection : Objection)

def Error.message : Error → String
  | .misfit reason =>
    "invalid definition JSON" ++
      match reason.detail? with
      | some detail => ": " ++ detail
      | none => ""
  | .missingStart name => "state machine has no state named '" ++ name ++ "' (StartAt)"
  | .unknownTarget state target =>
    "state '" ++ state ++ "' transitions to unknown state '" ++ target ++ "'"
  | .invalidName name => "invalid state name '" ++ name ++ "': names must be 1-80 characters"
  | .fieldNotAllowed state type dialect field =>
    "field '" ++ field ++ "' is not allowed on a " ++ type ++ " state using " ++ dialect ++
      " (state '" ++ state ++ "')"
  | .missingField state field =>
    "state '" ++ state ++ "' is missing required field '" ++ field ++ "'"
  | .transition state => "state '" ++ state ++ "' must have exactly one of 'Next' or 'End'"
  | .unreachable state => "state '" ++ state ++ "' is not reachable from StartAt"
  | .invalidValue state field objection =>
    "invalid value for '" ++ field ++ "' in state '" ++ state ++ "': " ++ objection.message

end Workflow.Definition
