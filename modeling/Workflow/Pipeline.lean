import Workflow.Definition
import Workflow.Template

/-!
# Shaping data

What happens to data on its way through a state. In the path dialect the input is narrowed,
arguments are built from it, and what the state produced is selected from, placed in the input and
narrowed again. In the functional dialect arguments and output are templates. In both, variables
are assigned from values as they were when the state was entered.
-/

namespace Workflow

/-- What every expression of one state can read besides its input. -/
structure Env where
  context : Json
  bindings : Variables
  config : Config
  dialect : Dialect
deriving Inhabited

/-- The scope of expressions that read an input. -/
def Env.scope (env : Env) (input : Json) : Scope where
  input := input
  context := env.context
  bindings := env.bindings
  config := env.config

/-- What a state produces. -/
structure Completed where
  output : Json
  bindings : Variables
deriving Inhabited

namespace Pipeline

open Evaluation (Error)

/-! ## Steps -/

/-- Narrows a value by a path. Without a path it stays; an explicit `null` makes it an empty
object, and a path that finds nothing makes it `null`. -/
def narrow (path : Option (Option String)) (value : Json) (env : Env) : Except Error Json :=
  match path with
  | none => .ok value
  | some none => .ok (.object [])
  | some (some text) =>
    ((Path.evaluate text (env.scope value)).map fun found => found.getD .null).mapError .path

/-- The effective input of a state. -/
def selectInput (common : Common) (raw : Json) (env : Env) : Except Error Json :=
  match env.dialect with
  | .path => narrow common.inputPath raw env
  | .functional => .ok raw

/-- The arguments that a template makes of the effective input; without one they are the same. -/
def buildArguments (template : Option Json) (effective : Json) (env : Env) :
    Evaluation Error Json :=
  match template with
  | none => return effective
  | some template => env.dialect.expand template (env.scope effective)

/-- Places a result in the raw input. Without a path the result replaces it, an explicit `null`
keeps it. -/
def placeResult (path : Option (Option String)) (raw result : Json) : Except Error Json :=
  match path with
  | none => .ok result
  | some none => .ok raw
  | some (some text) => (Path.place text raw result).mapError .path

/-- Drops every `.$` at the end of a key. -/
def withoutMarks (key : String) : String :=
  String.ofList (dropMarks key.toList.reverse).reverse
where
  /-- Drops every `$.` at the front of a list. -/
  dropMarks : List Char → List Char
    | '$' :: '.' :: rest => dropMarks rest
    | rest => rest

/-- Assigns one entry in a dialect. In the path dialect an entry that finds nothing removes the
variable. -/
def assignEntry (dialect : Dialect) (scope : Scope) (bindings : Variables) (key : String)
    (value : Json) : Evaluation Error Variables :=
  match dialect with
  | .path => do
    match ← Template.expandEntry key value scope with
    | some (name, found) => return Json.insert name found bindings
    | none => return Json.erase (withoutMarks key) bindings
  | .functional => do
    let found ← Evaluation.lifted .functional (Functional.expand scope value)
    return Json.insert key found bindings

/-- Assigns entries in key order. -/
def assignEntries (dialect : Dialect) (scope : Scope) (bindings : Variables) :
    List (String × Json) → Evaluation Error Variables
  | [] => return bindings
  | (key, value) :: rest => do
    let assigned ← assignEntry dialect scope bindings key value
    assignEntries dialect scope assigned rest

/-- Assigns the entries of a block over variables. Every entry is evaluated in the same scope. -/
def applyAssign (assign : Json) (scope : Scope) (env : Env) : Evaluation Error Variables :=
  match assign with
  | .object entries => assignEntries env.dialect scope env.bindings entries
  | _ => return env.bindings

/-- Assigns the entries of a block, if there is one. -/
def assignOptional (assign : Option Json) (scope : Scope) (env : Env) :
    Evaluation Error Variables :=
  match assign with
  | some assign => applyAssign assign scope env
  | none => return env.bindings

def outputOr (template : Option Json) (value : Json) (scope : Scope) : Evaluation Error Json :=
  match template with
  | some template => Evaluation.lifted .functional (Functional.expand scope template)
  | none => return value

/-! ## Completion -/

/-- What becomes of the result of a state's effect. States without an effect pass their effective
input as the result. -/
def complete (common : Common) (raw result : Json) (env : Env) : Evaluation Error Completed :=
  match env.dialect with
  | .path => do
    let shaped ← match common.resultSelector with
      | some selector => Template.expand (env.scope result) selector
      | none => pure result
    let bindings ← assignOptional common.assign (env.scope shaped) env
    let placed ← Evaluation.ofExcept (placeResult common.resultPath raw shaped)
    let output ← Evaluation.ofExcept (narrow common.outputPath placed env)
    return { output, bindings }
  | .functional => do
    let scope := { env.scope raw with result := some result }
    let bindings ← assignOptional common.assign scope env
    let output ← outputOr common.output result scope
    return { output, bindings }

/-- What a catcher makes of a failure. -/
def catchOutput (catcher : Catcher) (raw : Json) (failure : Failure) (env : Env) :
    Evaluation Error Completed :=
  match env.dialect with
  | .path => do
    let bindings ← assignOptional catcher.assign (env.scope failure.toJson) env
    let output ← Evaluation.ofExcept (placeResult catcher.resultPath raw failure.toJson)
    return { output, bindings }
  | .functional => do
    let scope := { env.scope raw with errorOutput := some failure.toJson }
    let bindings ← assignOptional catcher.assign scope env
    let output ← outputOr catcher.output failure.toJson scope
    return { output, bindings }

/-- What the matched branch of a Choice adds to what the Choice itself completed. -/
def completeBranch (branch : Branch) (raw effective : Json) (env : Env) (done : Completed) :
    Evaluation Error Completed := do
  let scope := match env.dialect with
    | .path => env.scope effective
    | .functional => { env.scope raw with result := some effective }
  let bindings ← assignOptional branch.assign scope { env with bindings := done.bindings }
  let output ← outputOr branch.output done.output scope
  return { output, bindings }

/-! ## Dynamic fields -/

/-- What the value of a dynamic field has to be. -/
structure Expected (α : Type) where
  /-- The name that messages give it. -/
  name : String
  read? : Json → Option α

/-- An unsigned 64-bit integer. -/
def Expected.unsigned : Expected Nat := ⟨"u64", Json.toUnsigned?⟩

/-- A float; integers are taken too. -/
def Expected.float : Expected Float := ⟨"f64", fun value => value.number?.map Number.toFloat⟩

/-- A text. -/
def Expected.text : Expected String := ⟨"a string", Json.string?⟩

/-- A value as messages name what was found. -/
def shownKind : Json → String
  | .null => "null"
  | .bool value => "boolean `" ++ (if value then "true" else "false") ++ "`"
  | .number (.int value) => "integer `" ++ Decimal.integerText value ++ "`"
  | .number (.float value) => "floating point `" ++ Decimal.floatText value ++ "`"
  | .string text => "string " ++ Text.quotedName text
  | .array _ => "sequence"
  | .object _ => "map"

/-- How a value misses what is expected: an integer where one is expected has the wrong value,
everything else the wrong type. -/
def mismatch {α : Type} (expected : Expected α) (value : Json) : String :=
  let complaint := match value with
    | .number (.int _) => if expected.name = "u64" then "invalid value: " else "invalid type: "
    | _ => "invalid type: "
  complaint ++ shownKind value ++ ", expected " ++ expected.name

def readFound {α : Type} (expected : Expected α) (kind : Reserved) (field : String)
    (value : Json) : Except Fault α :=
  match expected.read? value with
  | some found => .ok found
  | none =>
    .error <| .reserved kind <|
      field ++ ": unexpected value " ++ value.text ++ ": " ++ mismatch expected value

/-- The value of a dynamic field. -/
def resolve {α : Type} (expected : Expected α) (field : String) (dynamic : Dynamic α)
    (scope : Scope) : Except Fault α := do
  match dynamic with
  | .literal value => return value
  | .path text =>
    match ← (Path.evaluate text scope).mapError fun error => (Error.path error).fault with
    | some found => readFound expected .runtime field found
    | none => throw (.reserved .runtime (field ++ ": path '" ++ text ++ "' matched nothing"))
  | .expression text =>
    let found ← (Functional.evaluate text scope).mapError fun error =>
      (Error.functional error).fault
    readFound expected .queryEvaluationError field found

/-- The value of a dynamic field, if it is set. -/
def resolveOptional {α : Type} (expected : Expected α) (field : String)
    (dynamic : Option (Dynamic α)) (scope : Scope) : Except Fault (Option α) :=
  match dynamic with
  | none => .ok none
  | some dynamic => (resolve expected field dynamic scope).map some

end Pipeline

end Workflow
