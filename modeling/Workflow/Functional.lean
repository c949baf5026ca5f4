import Workflow.Formula.Eval
import Workflow.Scope

/-!
# The functional dialect

An expression is a string between `{%` and `%}`. Its body is a formula, evaluated against a context
built from the scope: the members of the input, the variables over them, and `states` with the
input, the context object and whatever else is bound. Data is never put into the text of a formula.

Formulas compute with floats, so every integer of the context becomes a float, and a float of the
result that has no fraction becomes an integer again.
-/

namespace Workflow

namespace Functional

/-! ## Delimiters -/

/-- The text before a two-character ending. -/
def beforeEnd? (first second : Char) : List Char → Option (List Char)
  | [] => none
  | [_] => none
  | [a, b] => if a = first ∧ b = second then some [] else none
  | a :: rest => (beforeEnd? first second rest).map (a :: ·)

/-- The body of an expression, if the text is one. -/
def body? (text : String) : Option (List Char) :=
  match Text.trim text.toList with
  | '\x7b' :: '%' :: rest => (beforeEnd? '%' '\x7d' rest).map Text.trim
  | _ => none

/-- Whether a text ends in two characters. -/
def endsWith (first second : Char) (text : List Char) : Bool :=
  match text.reverse with
  | b :: a :: _ => a == first && b == second
  | _ => false

/-- Whether a text begins with two characters. -/
def startsWith (first second : Char) : List Char → Bool
  | a :: b :: _ => a == first && b == second
  | _ => false

/-- Whether a text is a whole expression. -/
def isExpression (text : String) : Bool :=
  let trimmed := Text.trim text.toList
  4 ≤ trimmed.length && startsWith '\x7b' '%' trimmed && endsWith '%' '\x7d' trimmed

/-! ## Errors -/

/-- Why an expression has no value. -/
inductive Cause where
  | undelimited
  | formula (error : Formula.Error)
  /-- A condition has a value that is no boolean. -/
  | notBoolean (value : Json)

def Cause.message : Cause → String
  | .undelimited => "expression must be wrapped in \x7b% %\x7d"
  | .formula error => error.message
  | .notBoolean value => "condition did not evaluate to a boolean: got " ++ value.text

/-- An expression and why it has no value. -/
structure Error where
  text : String
  cause : Cause

def Error.message (error : Error) : String :=
  "failed to evaluate '" ++ error.text ++ "': " ++ error.cause.message

end Functional

/-! ## Numbers -/

/-- The bound below which every integral float stands for exactly one integer. -/
def Number.exactBound : Nat := 9007199254740992

/-- A float as an integer, if it has no fraction and lies below the bound of exactness. -/
def Number.simplified : Number → Number
  | .int value => .int value
  | .float value =>
    match Decimal.integral? value with
    | some whole => if whole.natAbs < exactBound then .int whole else .float value
    | none => .float value

namespace Json

mutual

/-- The document with every integer as the nearest float. -/
def withFloats : Json → Json
  | .number (.int value) => ofFloat (Float.ofInt value)
  | .array items => .array (itemsWithFloats items)
  | .object members => .object (membersWithFloats members)
  | other => other

/-- Items with every integer as the nearest float. -/
def itemsWithFloats : List Json → List Json
  | [] => []
  | item :: rest => item.withFloats :: itemsWithFloats rest

/-- Members with every integer as the nearest float. -/
def membersWithFloats : List (String × Json) → List (String × Json)
  | [] => []
  | (key, value) :: rest => (key, value.withFloats) :: membersWithFloats rest

end

mutual

/-- The document with every float that has no fraction as an integer. -/
def simplified : Json → Json
  | .number value => .number value.simplified
  | .array items => .array (simplifiedItems items)
  | .object members => .object (simplifiedMembers members)
  | other => other

/-- Items with every float that has no fraction as an integer. -/
def simplifiedItems : List Json → List Json
  | [] => []
  | item :: rest => item.simplified :: simplifiedItems rest

/-- Members with every float that has no fraction as an integer. -/
def simplifiedMembers : List (String × Json) → List (String × Json)
  | [] => []
  | (key, value) :: rest => (key, value.simplified) :: simplifiedMembers rest

end

end Json

/-! ## Evaluation -/

namespace Functional

/-- What formulas know under the name `states`. -/
def statesOf (scope : Scope) : Json :=
  let bound := fun (name : String) (value : Option Json) (members : List (String × Json)) =>
    match value with
    | some value => (name, value) :: members
    | none => members
  .object <|
    ("context", scope.context) ::
      bound "errorOutput" scope.errorOutput
        (("input", scope.input) :: bound "result" scope.result [])

/-- The context that formulas are evaluated against. -/
def contextOf (scope : Scope) : Json :=
  let input := scope.input.members?.getD []
  let merged := Json.insert "states" (statesOf scope) (Json.overlay input scope.bindings)
  (Json.object merged).withFloats

/-- The value of a formula, with whole floats as integers. -/
def bodyValue (body : String) (context : Json) : Except Formula.Error Json :=
  (Formula.evaluate body context).map Json.simplified

/-- The value of an expression. -/
def evaluate (text : String) (scope : Scope) : Except Error Json :=
  match body? text with
  | none => .error ⟨text, .undelimited⟩
  | some body =>
    (bodyValue (String.ofList body) (contextOf scope)).mapError fun error => ⟨text, .formula error⟩

/-- The value of an expression that has to be a boolean. -/
def condition (text : String) (scope : Scope) : Except Error Bool := do
  match ← evaluate text scope with
  | .bool value => return value
  | other => throw ⟨text, .notBoolean other⟩

mutual

/-- A template with every string that is a whole expression replaced by its value. -/
def expand (scope : Scope) : Json → Except Error Json
  | .string text => if isExpression text then evaluate text scope else .ok (.string text)
  | .array items => (expandItems scope items).map Json.array
  | .object members => (expandMembers scope members).map Json.object
  | other => .ok other

/-- Items with their expressions replaced, from left to right. -/
def expandItems (scope : Scope) : List Json → Except Error (List Json)
  | [] => .ok []
  | item :: rest => do
    let first ← expand scope item
    let others ← expandItems scope rest
    return first :: others

/-- Members with their expressions replaced, in key order. -/
def expandMembers (scope : Scope) :
    List (String × Json) → Except Error (List (String × Json))
  | [] => .ok []
  | (key, value) :: rest => do
    let first ← expand scope value
    let others ← expandMembers scope rest
    return (key, first) :: others

end

end Functional

end Workflow
