import Workflow.Command
import Workflow.Config.Reader
import Workflow.Definition.Load
import Workflow.Engine.Run
import Workflow.Resource
import Workflow.Schedule

/-!
# Commands

What comes of a command line, as a function of the environment and the files. Running reads the
definition, the input, the settings and the resources, in this order, then loads the definition and
runs it. Validating only loads it. A command prints a report or ends with a trouble.
-/

namespace Workflow.Command

/-! ## Troubles -/

/-- What a file is read for. -/
inductive Purpose where
  | definition
  | input
  | config
  | resources
deriving DecidableEq, Inhabited

def Purpose.name : Purpose → String
  | .definition => "definition"
  | .input => "input"
  | .config => "config"
  | .resources => "resources"

/-- Why a command ends without a report. -/
inductive Trouble where
  | unreadable (purpose : Purpose) (path : String)
  /-- The text of a file is no document. -/
  | malformedFile (purpose : Purpose) (path : String)
  /-- The input on the command line is no document. -/
  | malformedInput
  | invalidConfig (path : String)
  | invalidResources (path : String)
  | ambiguousResource (name : String)
  | invalidDefinition (path : String) (error : Definition.Error)
  | fault (fault : Fault)
  /-- Nothing can happen any more. -/
  | stuck

def Trouble.message : Trouble → String
  | .unreadable purpose path => "failed to read " ++ purpose.name ++ " file " ++ path
  | .malformedFile purpose path => purpose.name ++ " file " ++ path ++ " is not valid JSON"
  | .malformedInput => "--input is not valid JSON"
  | .invalidConfig path => "invalid config file " ++ path
  | .invalidResources path => "invalid resources file " ++ path
  | .ambiguousResource name =>
    "resource '" ++ name ++
      "' must set exactly one of \x60command\x60, \x60result\x60 or \x60error\x60"
  | .invalidDefinition path _ => "invalid definition " ++ path
  | .fault cause => cause.message
  | .stuck => "the execution is stuck"

/-- What is known of the cause of a trouble. -/
inductive Cause where
  | none
  /-- Whoever read the file or the document could tell more. -/
  | reading
  | definition (error : Definition.Error)

def Trouble.cause : Trouble → Cause
  | .unreadable _ _ => .reading
  | .malformedFile _ _ => .reading
  | .malformedInput => .reading
  | .invalidConfig _ => .reading
  | .invalidResources _ => .reading
  | .ambiguousResource _ => .none
  | .invalidDefinition _ error => .definition error
  | .fault _ => .none
  | .stuck => .none

/-! ## Reports -/

/-- What a command prints, and whether it went well. -/
structure Report where
  succeeded : Bool
  output : String
  errors : String
deriving DecidableEq, Inhabited

def documentLines (document : Json) : String := document.pretty ++ "\n"

/-- The report of an execution that ended with an output. -/
def successReport (style : Style) (output : Json) : Report :=
  if style.isJson then
    let body := Json.ofMembers [("status", .string "succeeded"), ("output", output)]
    { succeeded := true, output := documentLines body, errors := "" }
  else
    { succeeded := true, output := documentLines output
      errors := if style.isQuiet then "" else "  * Execution succeeded\n" }

/-- The report of an execution that failed. -/
def failureReport (style : Style) (failure : Failure) : Report :=
  if style.isJson then
    let body := Json.ofMembers [("status", .string "failed"), ("error", failure.toJson)]
    { succeeded := false, output := documentLines body, errors := "" }
  else
    let cause := match failure.cause with
      | some cause => "    Cause: " ++ cause ++ "\n"
      | none => ""
    { succeeded := false, output := ""
      errors := "  x Execution failed: " ++ failure.name ++ "\n" ++ cause }

/-- The report of a valid definition. -/
def validReport (style : Style) (path : String) (machine : Machine) : Report :=
  let startAt := machine.graph.startAt
  let count := machine.graph.count
  let output :=
    if style.isJson then
      documentLines <| Json.ofMembers
        [("valid", .bool true), ("start_at", .string startAt), ("states", .nat count),
         ("query_language", ((machine.dialect.map fun dialect => .string dialect.name)).getD .null)]
    else
      "  * " ++ path ++ " is valid\n  Start: " ++ startAt ++ "\n  States: " ++
        Decimal.natText count ++ " (nested graphs included)\n"
  { succeeded := true, output, errors := "" }

/-! ## Reading -/

/-- A result, or a trouble where there is none. -/
def orTrouble {α : Type} (trouble : Trouble) : Option α → Except Trouble α
  | some value => .ok value
  | none => .error trouble

def readDocument (files : Files) (purpose : Purpose) (path : String) : Except Trouble Json := do
  let text ← orTrouble (.unreadable purpose path) (files.text? path)
  orTrouble (.malformedFile purpose path) (Json.parse? text)

/-- Reads the input of a run, which is an empty object unless one is given. -/
def readInput (files : Files) : InputSource → Except Trouble Json
  | .absent => .ok (.object [])
  | .text text => orTrouble .malformedInput (Json.parse? text)
  | .file path => readDocument files .input path

/-- A path below a directory. -/
def joined (directory name : String) : String :=
  if directory.isEmpty || directory.toList.getLast? = some '/' then directory ++ name
  else directory ++ "/" ++ name

/-- Where settings lie unless a file is given. The directory of the user's own settings counts as
part of the files. -/
def defaultConfigPath (environment : Environment) : String :=
  match environment.lookup "STATELANG_CONFIG_DIR" with
  | some directory => joined directory "config.toml"
  | none => ".config/statelang/config.toml"

/-- Reads settings from the text of a file. -/
def parseConfig (path text : String) : Except Trouble Config :=
  orTrouble (.invalidConfig path) ((Toml.parse? text).bind Config.read?)

/-- Reads settings. A file that is given must be there; the default one need not. -/
def readConfig (files : Files) (environment : Environment) (given : Option String) :
    Except Trouble Config := do
  match given with
  | some path => parseConfig path (← orTrouble (.unreadable .config path) (files.text? path))
  | none =>
    let path := defaultConfigPath environment
    match files.text? path with
    | some text => parseConfig path text
    | none => return {}

/-- Reads the table of resources, which is empty unless one is given. -/
def readResources (files : Files) (given : Option String) :
    Except Trouble (List (String × Resource)) := do
  match given with
  | none => return []
  | some path =>
    match Resource.readFile (← orTrouble (.unreadable .resources path) (files.text? path)) with
    | .ok table => return table
    | .error .misfit => throw (.invalidResources path)
    | .error (.ambiguous name) => throw (.ambiguousResource name)

/-! ## Running -/

/-- The host of a run. Time limits strike only after the millisecond in which they end. -/
def host (environment : Environment) (table : List (String × Resource)) (skipsWaits : Bool) :
    Host Files where
  handler? := fun name => (table.lookup name).map fun resource => resource.handler environment
  skipsWaits := skipsWaits
  split? := some fun limit => Engine.splitByBytes limit [] 0
  lateness := 1

/-- An identifier made of the time and of random bytes. -/
def identifier (started : Instant) (bytes : List UInt8) : String :=
  let time := started.seconds.toNat * 1000 + started.nanos / 1000000
  let timeBytes := [40, 32, 24, 16, 8, 0].map fun shift => (time >>> shift).toUInt8
  let marked := (timeBytes ++ bytes).mapIdx fun place byte =>
    if place = 6 then (byte &&& 0x0F) ||| 0x70
    else if place = 8 then (byte &&& 0x3F) ||| 0x80
    else byte
  let groups := [(0, 4), (4, 2), (6, 2), (8, 2), (10, 6)]
  "-".intercalate <| groups.map fun (start, count) =>
    String.ofList (Encoding.hex ((marked.drop start).take count))

/-- How many rounds a run may take. -/
def maxRounds : Nat := 1000000000

/-- Runs a definition at a time, with a random source. -/
def run (environment : Environment) (files : Files) (started : Instant) (source : Random.Source)
    (style : Style) (order : RunOrder) : Except Trouble Report := do
  let definition ← readDocument files .definition order.definition
  let input ← readInput files order.input
  let config ← readConfig files environment order.config
  let table ← readResources files order.resources
  let machine ← (Definition.load definition config.dialect).mapError
    (.invalidDefinition order.definition)
  let (bytes, source) := source.bytes 10
  let program := Engine.runMachine { config, extraRetries := 0 } machine config.dialect
    (identifier started bytes) none input
  let world : Schedule.World Files := { epoch := started, config, source, state := files }
  let host := host environment table order.skipsWaits
  match Schedule.run host maxRounds machine.timeout program world with
  | none => throw .stuck
  | some (.ok output, _) => return successReport style output
  | some (.error fault, _) =>
    match fault.failure? with
    | some failure => return failureReport style failure
    | none => throw (.fault fault)

def validate (files : Files) (style : Style) (path : String) : Except Trouble Report := do
  let text ← orTrouble (.unreadable .definition path) (files.text? path)
  let machine ← (Definition.loadText text .path).mapError (.invalidDefinition path)
  return validReport style path machine

/-- Does what a command line asks for. -/
def execute (environment : Environment) (files : Files) (started : Instant)
    (source : Random.Source) (invocation : Invocation) : Except Trouble Report :=
  match invocation.order with
  | .run order => run environment files started source invocation.style order
  | .validate path => validate files invocation.style path

end Workflow.Command
