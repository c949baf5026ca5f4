/-!
# Command lines

What a command line asks for: to run a definition or to validate one. Switches may stand before,
between and after other arguments; two dashes end them. A switch may be given once on either side of
the command's name, the one for details any number of times. Two variables of the environment stand
in for switches that are absent.
-/

namespace Workflow.Command

abbrev Environment := List (String × String)

/-- How the outcome is printed. -/
structure Style where
  /-- As a document for other programs. -/
  isJson : Bool := false
  /-- Without saying that all went well. -/
  isQuiet : Bool := false
deriving DecidableEq, Inhabited

/-- Where the input of a run comes from. -/
inductive InputSource where
  | absent
  | text (text : String)
  | file (path : String)
deriving DecidableEq, Inhabited

/-- What is to be run, and how. -/
structure RunOrder where
  definition : String
  input : InputSource := .absent
  resources : Option String := none
  config : Option String := none
  skipsWaits : Bool := false
deriving DecidableEq, Inhabited

/-- What a command line asks for. -/
inductive Order where
  | run (order : RunOrder)
  | validate (definition : String)
deriving DecidableEq, Inhabited

/-- A command line that was understood. -/
structure Invocation where
  style : Style
  order : Order
deriving DecidableEq, Inhabited

/-! ## Switches -/

/-- The switches of command lines. -/
inductive Switch where
  | json
  | quiet
  | verbose
  | skipWaits
  | input
  | inputFile
  | resources
  | config
deriving DecidableEq, Inhabited

namespace Switch

def ofName? : String → Option Switch
  | "json" => some .json
  | "quiet" => some .quiet
  | "verbose" => some .verbose
  | "skip-waits" => some .skipWaits
  | "input" => some .input
  | "input-file" => some .inputFile
  | "resources" => some .resources
  | "config" => some .config
  | _ => none

/-- Whether a switch belongs to every command. -/
def isCommon : Switch → Bool
  | .json => true
  | .quiet => true
  | .verbose => true
  | _ => false

/-- Whether a switch has a value. -/
def takesValue : Switch → Bool
  | .input => true
  | .inputFile => true
  | .resources => true
  | .config => true
  | _ => false

/-- Whether a text may be the value of a switch. A path is not empty. -/
def admits (switch : Switch) (value : String) : Bool := switch == .input || !value.isEmpty

end Switch

/-- What was read of a command line. -/
structure Given where
  switches : List (Switch × String) := []
  operands : List String := []
deriving Inhabited

namespace Given

/-- Whether a switch was given. -/
def has (given : Given) (switch : Switch) : Bool := (given.switches.lookup switch).isSome

def value? (given : Given) (switch : Switch) : Option String := given.switches.lookup switch

/-- Adds a switch with its value. Only the one for details may be repeated. -/
def add? (given : Given) (switch : Switch) (value : String) : Option Given :=
  if (given.has switch && switch != .verbose) || !switch.admits value then none
  else some { given with switches := (switch, value) :: given.switches }

end Given

/-- Whether an argument is written like a switch. -/
def isSwitchLike (argument : String) : Bool :=
  argument.startsWith "-" && argument != "-"

/-- A switch behind its two dashes, with a value that is attached to it. -/
def named? (accepts : Switch → Bool) (text : List Char) : Option (Switch × Option String) :=
  let name := text.takeWhile fun c => c != '='
  let attached := match text.drop name.length with
    | [] => none
    | _ :: value => some (String.ofList value)
  ((Switch.ofName? (String.ofList name)).filter accepts).map fun switch => (switch, attached)

/-- Reads arguments up to the first operand, or up to their end if operands are collected. -/
def read? (accepts : Switch → Bool) (collects : Bool) (given : Given) :
    List String → Option (Given × List String)
  | [] => some (given, [])
  | argument :: rest =>
    if !isSwitchLike argument then
      if collects then
        read? accepts collects { given with operands := given.operands ++ [argument] } rest
      else some (given, argument :: rest)
    else if argument = "--" then
      if collects then some ({ given with operands := given.operands ++ rest }, []) else none
    else
      match argument.toList.drop 1 with
      | '-' :: text =>
        match named? accepts text, rest with
        | none, _ => none
        | some (switch, attached), rest =>
          if !switch.takesValue then
            if attached.isSome then none
            else (given.add? switch "on").bind fun given => read? accepts collects given rest
          else
            match attached, rest with
            | some value, rest =>
              (given.add? switch value).bind fun given => read? accepts collects given rest
            | none, value :: rest =>
              if isSwitchLike value then none
              else (given.add? switch value).bind fun given => read? accepts collects given rest
            | none, [] => none
      | letters =>
        if letters.all fun c => c == 'v' then read? accepts collects given rest else none

/-! ## Invocations -/

/-- The value of a switch, or of a variable that stands in for it. Both have to be admitted. -/
def valueOr? (environment : Environment) (given : Given) (switch : Switch) (name : String) :
    Option (Option String) :=
  match given.value? switch, environment.lookup name with
  | some value, _ => some (some value)
  | none, some value => if switch.admits value then some (some value) else none
  | none, none => some none

def runOrder? (environment : Environment) (given : Given) (definition : String) :
    Option RunOrder := do
  let input ← match given.value? .input, given.value? .inputFile with
    | none, none => some .absent
    | some text, none => some (.text text)
    | none, some path => some (.file path)
    | some _, some _ => none
  let resources ← valueOr? environment given .resources "STATELANG_RESOURCES"
  let config ← valueOr? environment given .config "STATELANG_CONFIG"
  return { definition, input, resources, config, skipsWaits := given.has .skipWaits }

/-- Understands a command line. -/
def Invocation.parse? (environment : Environment) (arguments : List String) :
    Option Invocation := do
  let (before, rest) ← read? Switch.isCommon false {} arguments
  let (name, rest) ← match rest with
    | [] => none
    | name :: rest => some (name, rest)
  let accepts (switch : Switch) : Bool := switch.isCommon || name == "run"
  let (given, _) ← read? accepts true {} rest
  let definition ← match given.operands with
    | [path] => if path.isEmpty then none else some path
    | _ => none
  let order ← match name with
    | "run" => (runOrder? environment given definition).map Order.run
    | "validate" => some (.validate definition)
    | _ => none
  let style : Style :=
    { isJson := before.has .json || given.has .json
      isQuiet := before.has .quiet || given.has .quiet }
  return { style, order }

end Workflow.Command
