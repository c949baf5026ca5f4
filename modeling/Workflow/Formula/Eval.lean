import Workflow.Decimal.Binary
import Workflow.Formula.Parser
import Workflow.Json.Reader
import Workflow.Text.Blank
import Workflow.Text.Case

/-!
# Evaluating formulas

All arithmetic is on doubles, and a result that is no finite number is `null`. Only `false`, `null`,
zero and the empty string count as false. The connectives return one of their operands and leave
the right one alone when the left one decides; a left operand that fails counts as false.
-/

namespace Workflow.Formula

/-! ## Values -/

/-- Whether a value counts as true. -/
def truthy : Json → Bool
  | .null => false
  | .bool value => value
  | .number value => value.toFloat != 0.0
  | .string value => value != ""
  | .array _ => true
  | .object _ => true

/-- Whether the outcome of a computation counts as true. -/
def truthyOutcome : Except Error Json → Bool
  | .ok value => truthy value
  | .error _ => false

/-- The remainder of a division of finite doubles, with the sign of the left one. -/
def remainder (left right : Float) : Float :=
  let dividend := Decimal.magnitudeOf left
  let divisor := Decimal.magnitudeOf right
  if divisor.significand = 0 then 0.0 / 0.0
  else
    let exponent := min dividend.exponent divisor.exponent
    let aligned (value : Decimal.Binary) : Nat :=
      value.significand <<< (value.exponent - exponent).toNat
    let size := (Float.ofNat (aligned dividend % aligned divisor)).scaleB exponent
    if Decimal.isNegative left then -size else size

/-- How far apart two numbers may be and still be equal. -/
def tolerance : Float := 0.000001

/-- Whether one list of characters begins with another. -/
def startsWith : List Char → List Char → Bool
  | _, [] => true
  | [], _ :: _ => false
  | c :: text, d :: start => c == d && startsWith text start

/-- Whether a list of characters contains another. -/
def containsText (part : List Char) : List Char → Bool
  | [] => part.isEmpty
  | c :: text => startsWith (c :: text) part || containsText part text

/-- An operator between two numbers. -/
def Operator.onNumbers (operator : Operator) (left right : Float) : Json :=
  match operator with
  | .add => .ofFloat (left + right)
  | .subtract => .ofFloat (left - right)
  | .multiply => .ofFloat (left * right)
  | .divide => .ofFloat (left / right)
  | .floorDivide => .ofFloat (left / right).floor
  | .modulus => .ofFloat (remainder left right)
  | .exponent => .ofFloat (left ^ right)
  | .less => .bool (left < right)
  | .lessEqual => .bool (left ≤ right)
  | .greater => .bool (right < left)
  | .greaterEqual => .bool (right ≤ left)
  | .equal => .bool ((left - right).abs < tolerance)
  | .notEqual => .bool !((left - right).abs < tolerance)
  | .isIn => .bool false
  | .and => .null
  | .or => .null

/-- An operator between two strings. -/
def Operator.onStrings? (operator : Operator) (left right : String) : Option Json :=
  match operator with
  | .equal => some (.bool (left == right))
  | .notEqual => some (.bool (left != right))
  | .add => some (.string (left ++ right))
  | .isIn => some (.bool (containsText left.toList right.toList))
  | .less => some (.bool (left < right))
  | .lessEqual => some (.bool (left ≤ right))
  | .greater => some (.bool (right < left))
  | .greaterEqual => some (.bool (right ≤ left))
  | _ => none

/-- Equality of values that are not both numbers or both strings. -/
def sameKind (left right : Json) : Bool :=
  match left, right with
  | .bool left, .bool right => left == right
  | .null, .null => true
  | .array _, .array _ => left == right
  | .object _, .object _ => left == right
  | _, _ => false

/-- An operator between two values. -/
def Operator.apply (operator : Operator) (left right : Json) : Except Error Json :=
  match left, right with
  | .number x, .number y => .ok (operator.onNumbers x.toFloat y.toFloat)
  | .string x, .string y =>
    match operator.onStrings? x y with
    | some value => .ok value
    | none => .error (.badOperands operator left right)
  | _, _ =>
    match operator, left, right with
    | .isIn, _, .array items => .ok (.bool (items.any fun item => item == left))
    | .isIn, .string key, .object members => .ok (.bool (Json.lookup key members).isSome)
    | .equal, _, _ => .ok (.bool (sameKind left right))
    | .notEqual, _, _ => .ok (.bool !(sameKind left right))
    | _, _, _ => .error (.badOperands operator left right)

/-- The item or member that a value selects. -/
def access (subject position : Json) : Except Error Json :=
  match position with
  | .string key => .ok ((subject.get? key).getD .null)
  | .number size =>
    match subject with
    | .array items =>
      let place := ((Decimal.floor? size.toFloat).getD 0).toNat
      .ok ((items[place]?).getD .null)
    | _ => .ok .null
  | _ => .error .badIndex

/-- The items whose member compares with a value; a comparison that fails drops the item. -/
def keep (subject : Json) (key : String) (operator : Operator) (right : Json) :
    Except Error Json :=
  match subject with
  | .array items =>
    .ok (.array (items.filter fun item =>
      truthyOutcome (operator.apply ((item.get? key).getD .null) right)))
  | _ => .error .badFilter

/-! ## Transforms -/

/-- The text of the first argument, empty when it is no string. -/
def firstText : List Json → String
  | .string text :: _ => text
  | _ => ""

/-- The text of the second argument, if it is a string. -/
def secondText? : List Json → Option String
  | _ :: .string text :: _ => some text
  | _ => none

/-- The rest of a list of characters behind a given beginning. -/
def behind? : List Char → List Char → Option (List Char)
  | text, [] => some text
  | [], _ :: _ => none
  | c :: text, d :: start => if c = d then behind? text start else none

/-- The pieces of a text between occurrences of a nonempty delimiter; `piece` holds, in reverse,
what was read of the current piece. -/
def pieces (delimiter : List Char) : (fuel : Nat) → (piece text : List Char) → List (List Char)
  | 0, piece, text => [piece.reverse ++ text]
  | _ + 1, piece, [] => [piece.reverse]
  | fuel + 1, piece, c :: text =>
    match behind? (c :: text) delimiter with
    | some rest => piece.reverse :: pieces delimiter fuel [] rest
    | none => pieces delimiter fuel (c :: piece) text

/-- Splits a text; the empty delimiter stands at both ends and between all characters. -/
def splitText (text delimiter : List Char) : List (List Char) :=
  if delimiter.isEmpty then [[]] ++ text.map (fun c => [c]) ++ [[]]
  else pieces delimiter text.length [] text

/-- A list of texts as a document. -/
def texts (values : List (List Char)) : Json :=
  .array (values.map fun value => .string (String.ofList value))

/-- Applies a function to the subject and the further arguments of a transform. -/
def applyTransform (function : String) (arguments : List Json) : Except Error Json :=
  let first := (firstText arguments).toList
  match function with
  | "lower" => .ok (.string (String.ofList (Text.lower first)))
  | "upper" => .ok (.string (String.ofList (Text.upper first)))
  | "trim" => .ok (.string (String.ofList (Text.trim first)))
  | "split" => .ok (texts (splitText first ((secondText? arguments).getD ",").toList))
  | "contains" =>
    let sought := arguments.getD 1 .null
    .ok (.bool (match arguments.head? with
      | some (.array items) => items.any fun item => item == sought
      | some (.string text) =>
        match sought with
        | .string part => containsText part.toList text.toList
        | _ => false
      | _ => false))
  | "startsWith" => .ok (.bool (startsWith first ((secondText? arguments).getD "").toList))
  | "endsWith" =>
    .ok (.bool (startsWith first.reverse ((secondText? arguments).getD "").toList.reverse))
  | "length" =>
    .ok (.nat (match arguments.head? with
      | some (.string text) => text.length
      | some (.array items) => items.length
      | some (.object members) => members.length
      | _ => 0))
  | "keys" =>
    .ok (match arguments.head? with
      | some (.object members) => .array (members.map fun member => .string member.1)
      | _ => .array [])
  | "string" =>
    .ok (match arguments.head? with
      | some (.string text) => .string text
      | some other => .string other.text
      | none => .string "")
  | "number" =>
    match arguments.head? with
    | some (.number value) => .ok (.number value)
    | some (.string text) =>
      match Decimal.float? (Text.trim text.toList) with
      | some value => .ok (.ofFloat value)
      | none => .error (.notNumber text)
    | _ => .error .notNumeric
  | "json" =>
    match Json.parseChars? first with
    | some value => .ok value
    | none => .error .badJson
  | other => .error (.unknownTransform other)

/-! ## Formulas -/

mutual

/-- The value of a formula, with the members of the context as its names. -/
def value (context : List (String × Json)) : Formula → Except Error Json
  | .null => .ok .null
  | .bool flag => .ok (.bool flag)
  | .number size => .ok (.ofFloat size)
  | .string text => .ok (.string text)
  | .array items => (values context items).map Json.array
  | .object members => (memberValues context [] members).map Json.object
  | .name key =>
    match Json.lookup key context with
    | some found => .ok found
    | none => .error (.undefinedName key)
  | .binary .and left right =>
    let decided := value context left
    if truthyOutcome decided then value context right else decided
  | .binary .or left right =>
    let decided := value context left
    if truthyOutcome decided then decided else value context right
  | .binary operator left right => do
    let left ← value context left
    let right ← value context right
    operator.apply left right
  | .conditional test yes no =>
    if truthyOutcome (value context test) then value context yes else value context no
  | .transform subject function arguments => do
    let subject ← value context subject
    let arguments ← values context arguments
    applyTransform function (subject :: arguments)
  | .index subject position => do
    let subject ← value context subject
    let position ← value context position
    access subject position
  | .member subject key => do
    let subject ← value context subject
    return (subject.get? key).getD .null
  | .filter subject key operator right => do
    let subject ← value context subject
    match subject with
    | .array _ =>
      let right ← value context right
      keep subject key operator right
    | _ => throw .badFilter

/-- The values of formulas, from left to right. -/
def values (context : List (String × Json)) : List Formula → Except Error (List Json)
  | [] => .ok []
  | item :: rest => do
    let first ← value context item
    let others ← values context rest
    return first :: others

/-- The values of members, refusing a key that was given before. -/
def memberValues (context given : List (String × Json)) :
    List (String × Formula) → Except Error (List (String × Json))
  | [] => .ok given
  | (key, item) :: rest =>
    match Json.lookup key given with
    | some _ => .error (.repeatedKey key)
    | none => do
      let found ← value context item
      memberValues context (Json.insert key found given) rest

end

/-- Reads a formula and evaluates it; the context has to be an object. -/
def evaluate (text : String) (context : Json) : Except Error Json := do
  let formula ← parse text
  match context with
  | .object members => formula.value members
  | _ => throw .badContext

end Workflow.Formula
