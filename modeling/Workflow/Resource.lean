import Workflow.Shell
import Workflow.Json.Printer
import Workflow.Text.Blank
import Workflow.Toml.Reader
import Workflow.Record

/-!
# Resources

A table of resources says how each of them is handled: by a program, or by a result or an error that
is always the same. A program reads its input as a document and prints its result as one. When it
fails, it may print an error; otherwise the failure tells how it ended and what it complained of.
-/

namespace Workflow

/-- How a resource is handled. -/
inductive Resource where
  | program (name : String) (arguments : List String)
  | result (value : Json)
  | error (failure : Failure)
deriving Inhabited

namespace Resource

/-! ## Tables -/

/-- Why a table of resources is refused. -/
inductive Flaw where
  /-- The table does not have the form of one. -/
  | misfit
  /-- A resource has not exactly one way to be handled. -/
  | ambiguous (name : String)
deriving DecidableEq, Inhabited

def fieldNames : List String := ["command", "args", "result", "error", "cause"]

mutual

/-- A document in which numbers that are not finite became null. -/
def settled : Json → Json
  | .number (.float value) => Json.ofFloat value
  | .array items => .array (settledItems items)
  | .object members => .object (settledMembers members)
  | other => other

/-- Items in which numbers that are not finite became null. -/
def settledItems : List Json → List Json
  | [] => []
  | item :: rest => settled item :: settledItems rest

/-- Members in which numbers that are not finite became null. -/
def settledMembers : List (String × Json) → List (String × Json)
  | [] => []
  | (key, value) :: rest => (key, settled value) :: settledMembers rest

end

/-- The fields of a resource; no other ones may be there. A list has to give all of them. -/
def fields? : Json → Option Record.Fields
  | .object members =>
    if members.all fun (key, _) => fieldNames.contains key then some members else none
  | .array items =>
    if fieldNames.length ≤ items.length then some (fieldNames.zip items) else none
  | _ => none

/-- Reads a resource; there is none when it is not clear how to handle it. -/
def read (document : Json) : Except Flaw (Option Resource) := do
  let fitting {α : Type} (found : Option α) : Except Flaw α :=
    match found with
    | some value => .ok value
    | none => .error .misfit
  let fields ← fitting (fields? document)
  let command ← fitting (Record.optional Json.string? "command" fields)
  let arguments ← fitting (Record.orElse (Record.list Json.string?) [] "args" fields)
  let failing ← fitting (Record.optional Json.string? "error" fields)
  let cause ← fitting (Record.optional Json.string? "cause" fields)
  match command, Json.lookup "result" fields, failing with
  | some called, none, none => return some (.program called arguments)
  | none, some value, none => return some (.result (settled value))
  | none, none, some called => return some (.error ⟨called, cause⟩)
  | _, _, _ => return none

/-- Reads a table of resources, in order of their names. The whole table has to fit before any
resource is looked at. -/
def readTable (document : Json) : Except Flaw (List (String × Resource)) := do
  let table ← match (document.get? "resources").getD (.object []) with
    | .object members => .ok members
    | _ => .error .misfit
  let read ← table.mapM fun (name, entry) => do return (name, ← read entry)
  read.mapM fun (name, resource?) =>
    match resource? with
    | some resource => .ok (name, resource)
    | none => .error (.ambiguous name)

/-- Reads a file with a table of resources. -/
def readFile (text : String) : Except Flaw (List (String × Resource)) :=
  match Toml.parse? text with
  | some document => readTable document
  | none => .error .misfit

/-! ## Handling -/

/-- The error that a program printed. A field may not be given twice. -/
def printedFailure? (output : String) : Option Failure := do
  let document ← Json.parse? output
  let keys := ((Json.rawMembers? output).getD []).map Prod.fst
  if (keys.count "Error") ≤ 1 ∧ (keys.count "Cause") ≤ 1 then Failure.ofJson? document else none

/-- What a program that ended makes of a call. -/
def resultOf (name : String) (remains : Shell.Remains) : Except Failure Json :=
  let failed (cause : String) : Except Failure Json := .error (.reserved .taskFailed cause)
  let output := Text.trimmed (Encoding.shown remains.output)
  if remains.stop.isSuccess then
    if output.isEmpty then .ok .null
    else
      match Json.parse? output with
      | some value => .ok value
      | none => failed ("'" ++ name ++ "' printed invalid JSON: the output is no document")
  else
    match printedFailure? output with
    | some failure => .error failure
    | none =>
      let errors := Text.trimmed (Encoding.shown remains.errors)
      failed ("'" ++ name ++ "' exited with " ++ remains.stop.shown ++ ": " ++ errors)

/-- How a resource handles its input, given the variables of the environment. -/
def handler (bindings : List (String × String)) : Resource → Handler Files
  | .program name arguments => fun input files =>
    match Shell.start name arguments bindings (Encoding.utf8 input.text) files with
    | .ok step => step.activity (resultOf name)
    | .error refusal =>
      let cause := "failed to start '" ++ name ++ "': " ++ refusal.message
      (.finished (.error (.reserved .taskFailed cause)), files)
  | .result value => fun _ files => (.finished (.ok value), files)
  | .error failure => fun _ files => (.finished (.error failure), files)

end Resource

end Workflow
