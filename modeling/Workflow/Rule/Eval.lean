import Workflow.Fault
import Workflow.Rule
import Workflow.Rule.Wildcard
import Workflow.Time

/-!
# Evaluating choice rules

Rules are evaluated from left to right and no further than their value needs. A data test whose
variable finds nothing is false, except one that asks for presence, and values of the wrong kinds
compare as false. A rule nested too deep is an error when evaluation gets to it.
-/

namespace Workflow.Rule

/-- What can go wrong with a rule. -/
inductive Error where
  | evaluation (error : Evaluation.Error)
  | tooDeep (limit : Nat)

def Error.message : Error → String
  | .evaluation error => error.message
  | .tooDeep limit => (Malformation.deepRule limit).message

/-- The fault that an error of a rule becomes. -/
def Error.fault : Error → Fault
  | .evaluation error => error.fault
  | .tooDeep limit => .malformed (.deepRule limit)

/-! ## Data tests -/

/-- Whether an order of two values is the one asked for. -/
def Order.holds (order : Order) (equal less greater : Bool) : Bool :=
  match order with
  | .equal => equal
  | .greater => greater
  | .greaterEqual => greater || equal
  | .less => less
  | .lessEqual => less || equal

/-- Compares two values of the kind that an operator asks for. -/
def Operator.compare : Operator → Json → Json → Bool
  | .boolean, .bool left, .bool right => left == right
  | .numeric order, .number left, .number right =>
    let left := left.toFloat
    let right := right.toFloat
    order.holds (left == right) (left < right) (right < left)
  | .string order, .string left, .string right =>
    order.holds (left == right) (left < right) (right < left)
  | .fits, .string text, .string pattern => Wildcard.matchText pattern text
  | .timestamp order, .string left, .string right =>
    match Instant.parse? left, Instant.parse? right with
    | some (left, _), some (right, _) =>
      order.holds (left == right) (left.before right) (right.before left)
    | _, _ => false
  | _, _, _ => false

/-- Whether a value is of a kind; every value is present. -/
def Kind.holds : Kind → Json → Bool
  | .boolean, .bool _ => true
  | .null, .null => true
  | .numeric, .number _ => true
  | .present, _ => true
  | .string, .string _ => true
  | .timestamp, .string text => (Instant.parse? text).isSome
  | _, _ => false

/-- What a type test expects: true unless its operand is `false`. -/
def Operand.flag : Operand → Bool
  | .literal (.bool value) => value
  | _ => true

/-- The value of an expression or a path, if it finds anything. -/
def resolve (text : String) (scope : Scope) : Except Evaluation.Error (Option Json) :=
  if Functional.isExpression text then
    ((Functional.evaluate text scope).map some).mapError .functional
  else (Path.evaluate text scope).mapError .path

/-- The value of an operand, if it finds anything. -/
def Operand.value (scope : Scope) : Operand → Except Evaluation.Error (Option Json)
  | .literal value => .ok (some value)
  | .path text => resolve text scope

/-- Evaluates a data test. -/
def evaluateTest (scope : Scope) (subject : String) (operator : Operator) (operand : Operand) :
    Except Evaluation.Error Bool := do
  let found ← resolve subject scope
  match operator, found with
  | .isKind .present, found => return found.isSome == operand.flag
  | _, none => return false
  | .isKind kind, some value => return kind.holds value == operand.flag
  | operator, some value =>
    match ← operand.value scope with
    | some operand => return operator.compare value operand
    | none => return false

/-! ## Rules -/

mutual

/-- Evaluates a rule that stands at a nesting depth; a rule by itself stands at depth one. -/
def evaluate (scope : Scope) (depth : Nat) : Rule → Except Error Bool
  | .all rules =>
    if scope.config.maxChoiceDepth < depth then .error (.tooDeep scope.config.maxChoiceDepth)
    else evaluateAll scope (depth + 1) rules
  | .any rules =>
    if scope.config.maxChoiceDepth < depth then .error (.tooDeep scope.config.maxChoiceDepth)
    else evaluateAny scope (depth + 1) rules
  | .not inner =>
    if scope.config.maxChoiceDepth < depth then .error (.tooDeep scope.config.maxChoiceDepth)
    else (inner.evaluate scope (depth + 1)).map fun value => !value
  | .test subject operator operand =>
    if scope.config.maxChoiceDepth < depth then .error (.tooDeep scope.config.maxChoiceDepth)
    else (evaluateTest scope subject operator operand).mapError .evaluation
  | .condition text =>
    if scope.config.maxChoiceDepth < depth then .error (.tooDeep scope.config.maxChoiceDepth)
    else (Functional.condition text scope).mapError fun error => .evaluation (.functional error)

/-- Whether all rules hold, up to the first that does not. -/
def evaluateAll (scope : Scope) (depth : Nat) : List Rule → Except Error Bool
  | [] => .ok true
  | rule :: rest => do
    if ← rule.evaluate scope depth then evaluateAll scope depth rest else return false

/-- Whether any rule holds, up to the first that does. -/
def evaluateAny (scope : Scope) (depth : Nat) : List Rule → Except Error Bool
  | [] => .ok false
  | rule :: rest => do
    if ← rule.evaluate scope depth then return true else evaluateAny scope depth rest

end

/-- The first branch whose rule holds, with its place. -/
def firstMatch (scope : Scope) (place : Nat) :
    List Branch → Except Error (Option (Nat × Branch))
  | [] => .ok none
  | branch :: rest => do
    if ← branch.rule.evaluate scope 1 then return some (place, branch)
    else firstMatch scope (place + 1) rest

end Workflow.Rule
