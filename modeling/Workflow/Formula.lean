import Workflow.Json.Printer

/-!
# Formulas

The expressions of the functional dialect: literals, names of the context, arithmetic, comparison,
lazy connectives, conditionals, access to members and items, filters over arrays, and transforms
that pipe a value into a named function.
-/

namespace Workflow

/-- Operators between two formulas. -/
inductive Formula.Operator where
  | add | subtract | multiply | divide | floorDivide | modulus | exponent
  | less | lessEqual | greater | greaterEqual | equal | notEqual | isIn
  | and | or
deriving DecidableEq, Inhabited

inductive Formula where
  | null
  | bool (value : Bool)
  | number (value : Float)
  | string (value : String)
  | array (items : List Formula)
  | object (members : List (String × Formula))
  /-- A member of the context. -/
  | name (name : String)
  | binary (operator : Formula.Operator) (left right : Formula)
  | conditional (test yes no : Formula)
  /-- A value piped into a function, with further arguments. -/
  | transform (subject : Formula) (function : String) (arguments : List Formula)
  | index (subject position : Formula)
  | member (subject : Formula) (key : String)
  /-- The items whose member compares with a value. -/
  | filter (subject : Formula) (key : String) (operator : Formula.Operator) (right : Formula)

instance : Inhabited Formula := ⟨.null⟩

namespace Formula

/-- The name of an operator in messages. -/
def Operator.shown : Operator → String
  | .add => "Add"
  | .subtract => "Subtract"
  | .multiply => "Multiply"
  | .divide => "Divide"
  | .floorDivide => "Floor division"
  | .modulus => "Modulus"
  | .exponent => "Exponent"
  | .less => "Less than"
  | .lessEqual => "Less than or equal to"
  | .greater => "Greater than"
  | .greaterEqual => "Greater than or equal to"
  | .equal => "Equal"
  | .notEqual => "Not equal"
  | .isIn => "In"
  | .and => "And"
  | .or => "Or"

/-- What can go wrong with a formula. -/
inductive Error where
  | parsing
  | badContext
  | undefinedName (name : String)
  | unknownTransform (name : String)
  | repeatedKey (key : String)
  | badIndex
  | badFilter
  | badOperands (operator : Operator) (left right : Json)
  /-- A transform refuses a text that is no number. -/
  | notNumber (text : String)
  /-- A transform refuses a value that is neither text nor number. -/
  | notNumeric
  /-- A transform refuses a text that is no document. -/
  | badJson

def Error.message : Error → String
  | .parsing => "Parsing error"
  | .badContext => "Invalid context provided"
  | .undefinedName text => "Identifier '" ++ text ++ "' is undefined"
  | .unknownTransform text => "Unknown transform: " ++ text
  | .repeatedKey key => "Duplicate object key: " ++ key
  | .badIndex => "Invalid index type"
  | .badFilter => "Invalid filter"
  | .badOperands operator left right =>
    "Invalid binary operation, left: " ++ left.text ++ ", right: " ++ right.text ++
      ", operation: " ++ operator.shown
  | .notNumber text => "Custom error: '" ++ text ++ "' is not a number"
  | .notNumeric => "Custom error: number() expects a string or number"
  | .badJson => "Custom error: invalid JSON"

end Formula

end Workflow
