import Workflow.Intrinsic.Function
import Workflow.Intrinsic.Parser
import Workflow.Scope

/-!
# Evaluating intrinsic calls

Arguments are evaluated from left to right before the function is looked up. What was drawn from
the random source stays drawn when a later step fails.
-/

namespace Workflow.Intrinsic

/-- How many arguments each function takes. -/
def arityOf? : String → Option Arity
  | "Array" => some (.atLeast 0)
  | "ArrayContains" => some (.exactly 2)
  | "ArrayGetItem" => some (.exactly 2)
  | "ArrayLength" => some (.exactly 1)
  | "ArrayPartition" => some (.exactly 2)
  | "ArrayRange" => some (.exactly 3)
  | "ArrayUnique" => some (.exactly 1)
  | "Base64Encode" => some (.exactly 1)
  | "Base64Decode" => some (.exactly 1)
  | "Format" => some (.atLeast 1)
  | "Hash" => some (.exactly 2)
  | "JsonMerge" => some (.exactly 3)
  | "JsonToString" => some (.exactly 1)
  | "StringToJson" => some (.exactly 1)
  | "MathAdd" => some (.exactly 2)
  | "MathRandom" => some (.between 2 3)
  | "StringSplit" => some (.exactly 2)
  | "UUID" => some (.exactly 0)
  | _ => none

/-- The result of a function that draws nothing, for as many arguments as it takes. -/
def applyPlain (config : Config) (name : String) (arguments : List Json) :
    Except Complaint Json := do
  match name, arguments with
  | "Array", items => return .array items
  | "ArrayContains", [list, value] =>
    let items ← arrayAt 1 list
    return .bool (contains items value)
  | "ArrayGetItem", [list, index] =>
    let items ← arrayAt 1 list
    itemAt items (← integerAt 2 index)
  | "ArrayLength", [list] =>
    let items ← arrayAt 1 list
    return .nat items.length
  | "ArrayPartition", [list, size] =>
    let items ← arrayAt 1 list
    partition items (← integerAt 2 size)
  | "ArrayRange", [start, stop, step] =>
    let start ← integerAt 1 start
    let stop ← integerAt 2 stop
    let step ← integerAt 3 step
    let values ← range config.maxArrayRange start stop step
    return .array (values.map Json.int)
  | "ArrayUnique", [list] =>
    let items ← arrayAt 1 list
    return .array (unique [] items)
  | "Base64Encode", [text] =>
    let text ← stringAt 1 text
    return .string (encodeText text)
  | "Base64Decode", [text] =>
    let decoded ← decodeText (← stringAt 1 text)
    return .string decoded
  | "Format", template :: values =>
    let template ← stringAt 1 template
    let filled ← format template.toList values
    return .string (String.ofList filled)
  | "Hash", [text, algorithm] =>
    let text ← stringAt 1 text
    let digest ← hash text (← stringAt 2 algorithm)
    return .string digest
  | "JsonMerge", [.object left, .object right, deep] =>
    let deep ← booleanAt 3 deep
    return .object (mergeMembers deep left right)
  | "JsonMerge", _ => throw .notObjects
  | "JsonToString", [value] => return .string value.text
  | "StringToJson", [text] =>
    match Json.parse? (← stringAt 1 text) with
    | some value => return value
    | none => throw .badJson
  | "MathAdd", [.number left, .number right] =>
    let sum ← add left right
    return .number sum
  | "MathAdd", _ => throw .notNumbers
  | "StringSplit", [text, delimiters] =>
    let text ← stringAt 1 text
    let delimiters ← stringAt 2 delimiters
    return split text delimiters
  | _, _ => return .null

/-- The result of a function for as many arguments as it takes. -/
def applyDrawing (config : Config) (name : String) (arguments : List Json) :
    Evaluation Complaint Json := do
  match name, arguments with
  | "MathRandom", start :: stop :: seed =>
    let start ← Evaluation.ofExcept (integerAt 1 start)
    let stop ← Evaluation.ofExcept (integerAt 2 stop)
    if stop ≤ start then throw .emptyRange
    match seed with
    | [] => return .int (← drawInteger start stop)
    | seed :: _ =>
      let seed ← Evaluation.ofExcept (integerAt 3 seed)
      return .int (seededInteger start stop seed)
  | "UUID", _ => return .string (← drawIdentifier)
  | _, _ => Evaluation.ofExcept (applyPlain config name arguments)

/-- Calls a function by its name. -/
def apply (config : Config) (name : String) (arguments : List Json) : Evaluation Error Json :=
  match arityOf? name with
  | none => throw (.unknownFunction name)
  | some arity =>
    if arity.admits arguments.length then
      ExceptT.adapt (Error.refused name) (applyDrawing config name arguments)
    else throw (.arity name arity arguments.length)

/-- A function called with as many arguments as it takes does what it does, and its objections bear
its name. -/
theorem run_apply {name : String} {arity : Arity} {arguments : List Json}
    (known : arityOf? name = some arity) (admitted : arity.admits arguments.length = true)
    (config : Config) (source : Random.Source) :
    (apply config name arguments).run source =
      Prod.map (Except.mapError (Error.refused name)) id
        ((applyDrawing config name arguments).run source) := by
  simp only [apply, known, if_pos admitted]
  rfl

/-- A function that draws nothing leaves the source as it is. -/
theorem run_apply_of_plain {name : String} {arity : Arity} {arguments : List Json}
    {config : Config} {answer : Except Complaint Json} (known : arityOf? name = some arity)
    (admitted : arity.admits arguments.length = true)
    (plain : applyDrawing config name arguments = Evaluation.ofExcept answer)
    (source : Random.Source) :
    (apply config name arguments).run source =
      (answer.mapError (Error.refused name), source) := by
  rw [run_apply known admitted, plain]
  rfl

mutual

def Call.evaluate (scope : Scope) : Call → Evaluation Error Json
  | .mk name arguments => do
    let values ← evaluateAll scope arguments
    apply scope.config name values

/-- Evaluates arguments from left to right. -/
def evaluateAll (scope : Scope) : List Argument → Evaluation Error (List Json)
  | [] => return []
  | argument :: rest => do
    let value ← argument.evaluate scope
    let values ← evaluateAll scope rest
    return value :: values

def Argument.evaluate (scope : Scope) : Argument → Evaluation Error Json
  | .literal value => return value
  | .call inner => inner.evaluate scope
  | .path text =>
    match Path.evaluate text scope with
    | .ok (some value) => return value
    | .ok none => throw (.missing text)
    | .error cause => throw (.path cause)

end

/-- Reads a call and evaluates it. -/
def evaluate (text : String) (scope : Scope) : Evaluation Error Json :=
  match parse text with
  | .ok call => call.evaluate scope
  | .error cause => throw cause

end Workflow.Intrinsic
