import Workflow.Json

/-!
# Choice rules

A rule is a boolean tree whose leaves compare a value of the data with an operand, or ask a
condition of the functional dialect. In a document the operator is the key of a member, so a rule
is read by looking at its members in key order, and exactly one of them may be a predicate.
-/

namespace Workflow

namespace Rule

/-! ## Operators -/

/-- Orders that a comparison can ask for. -/
inductive Order where
  | equal | greater | greaterEqual | less | lessEqual
deriving DecidableEq, Inhabited

/-- The end of an operator's name. -/
def Order.name : Order → String
  | .equal => "Equals"
  | .greater => "GreaterThan"
  | .greaterEqual => "GreaterThanEquals"
  | .less => "LessThan"
  | .lessEqual => "LessThanEquals"

/-- Kinds of values that a type test can ask for. -/
inductive Kind where
  | boolean | null | numeric | present | string | timestamp
deriving DecidableEq, Inhabited

/-- The end of a type test's name. -/
def Kind.name : Kind → String
  | .boolean => "Boolean"
  | .null => "Null"
  | .numeric => "Numeric"
  | .present => "Present"
  | .string => "String"
  | .timestamp => "Timestamp"

/-- What a data test asks. -/
inductive Operator where
  | boolean
  | isKind (kind : Kind)
  | numeric (order : Order)
  | string (order : Order)
  /-- The text fits a pattern with wildcards. -/
  | fits
  | timestamp (order : Order)
deriving DecidableEq, Inhabited

namespace Operator

def name : Operator → String
  | .boolean => "BooleanEquals"
  | .isKind kind => "Is" ++ kind.name
  | .numeric order => "Numeric" ++ order.name
  | .string order => "String" ++ order.name
  | .fits => "StringMatches"
  | .timestamp order => "Timestamp" ++ order.name

/-- Whether an operator asks for the kind of a value; such a test has no path form. -/
def isTypeTest : Operator → Bool
  | .isKind _ => true
  | _ => false

def orders : List Order := [.equal, .greater, .greaterEqual, .less, .lessEqual]

def list : List Operator :=
  [.boolean] ++
  [Kind.boolean, .null, .numeric, .present, .string, .timestamp].map .isKind ++
  orders.map .numeric ++ orders.map .string ++ [.fits] ++ orders.map .timestamp

/-- The key of the path form of an operator. -/
def pathKey (operator : Operator) : String := operator.name ++ "Path"

/-- The operator that a key names, and whether the key asks for a path. -/
def ofKey? (key : String) : Option (Operator × Bool) :=
  match list.find? fun operator => operator.name == key with
  | some operator => some (operator, false)
  | none =>
    (list.find? fun operator => !operator.isTypeTest && operator.pathKey == key).map (·, true)

end Operator

/-- What the value of a data test is compared with. -/
inductive Operand where
  | literal (value : Json)
  | path (text : String)

end Rule

inductive Rule where
  | all (rules : List Rule)
  | any (rules : List Rule)
  | not (inner : Rule)
  | test (subject : String) (operator : Rule.Operator) (operand : Rule.Operand)
  /-- An expression of the functional dialect that has to be a boolean. -/
  | condition (text : String)

namespace Rule

instance : Inhabited Rule := ⟨.all []⟩

/-! ## Reading -/

/-- Why a document is no rule or no branch. -/
inductive Flaw where
  | nestedKey (key : String)
  | secondPredicate
  | noPredicate
  | variableNotText
  | strayVariable
  | notList (key : String)
  | emptyList (key : String)
  | entryNotObject (key : String)
  | innerNotObject
  | conditionNotText
  | unknownField (key : String)
  | noVariable (key : String)
  | pathNotText (key : String)
  | noNext
  | commentNotText
deriving DecidableEq, Inhabited

def Flaw.message : Flaw → String
  | .nestedKey key => "nested choice rules must not carry '" ++ key ++ "'"
  | .secondPredicate => "choice rule must have exactly one predicate"
  | .noPredicate => "choice rule has no predicate"
  | .variableNotText => "'Variable' must be a string"
  | .strayVariable => "'Variable' is only valid on a data test"
  | .notList key => "'" ++ key ++ "' must be an array of rules"
  | .emptyList key => "'" ++ key ++ "' must not be empty"
  | .entryNotObject key => "'" ++ key ++ "' entries must be objects"
  | .innerNotObject => "'Not' must be a rule object"
  | .conditionNotText => "'Condition' must be a string"
  | .unknownField key => "unknown choice rule field '" ++ key ++ "'"
  | .noVariable key => "'" ++ key ++ "' requires 'Variable'"
  | .pathNotText key => "'" ++ key ++ "' must be a path string"
  | .noNext => "choice rule is missing 'Next'"
  | .commentNotText => "'Comment' must be a string"

/-- Keys that only a branch may carry. -/
def branchKeys : List String := ["Next", "Assign", "Output", "Comment"]

/-- What is known of a rule before its predicate is looked for: its variable. A nested rule may not
carry the keys of a branch. -/
def readVariable (nested : Bool) (members : List (String × Json)) :
    Except Flaw (Option String) :=
  match branchKeys.find? fun key => nested && (Json.lookup key members).isSome with
  | some key => .error (.nestedKey key)
  | none =>
    match Json.lookup "Variable" members with
    | none => .ok none
    | some (.string subject) => .ok (some subject)
    | some _ => .error .variableNotText

/-- A data test from its key and the value of that key. -/
def readTest (subject : Option String) (key : String) (value : Json) : Except Flaw Rule :=
  match Operator.ofKey? key with
  | none => .error (.unknownField key)
  | some (operator, isPath) =>
    match subject with
    | none => .error (.noVariable key)
    | some subject =>
      if isPath then
        match value with
        | .string text => .ok (.test subject operator (.path text))
        | _ => .error (.pathNotText key)
      else .ok (.test subject operator (.literal value))

/-- The second predicate of a rule is one too many. -/
def keepOnly (found : Option Rule) (rule : Rule) : Except Flaw (Option Rule) :=
  match found with
  | none => .ok (some rule)
  | some _ => .error .secondPredicate

/-- A rule has a predicate, and a variable only in a data test. -/
def finish (subject : Option String) : Option Rule → Except Flaw Rule
  | none => .error .noPredicate
  | some (.test subject operator operand) => .ok (.test subject operator operand)
  | some rule => if subject.isSome then .error .strayVariable else .ok rule

/-- Whether a key is not looked at when the predicate is searched. -/
def isSkipped (nested : Bool) (key : String) : Bool :=
  key == "Variable" || (!nested && branchKeys.contains key)

mutual

/-- Reads the members of a rule in key order. -/
def readMembers (nested : Bool) (subject : Option String) (found : Option Rule) :
    List (String × Json) → Except Flaw (Option Rule)
  | [] => .ok found
  | (key, value) :: rest =>
    if isSkipped nested key then readMembers nested subject found rest
    else do
      let rule ← readPredicate subject key value
      let found ← keepOnly found rule
      readMembers nested subject found rest

/-- Reads the predicate of a rule from its key and the value of that key. -/
def readPredicate (subject : Option String) (key : String) : Json → Except Flaw Rule
  | .array items =>
    if key = "And" ∨ key = "Or" then
      if items.isEmpty then .error (.emptyList key)
      else do
        let rules ← readItems key items
        return if key = "And" then .all rules else .any rules
    else if key = "Not" then .error .innerNotObject
    else if key = "Condition" then .error .conditionNotText
    else readTest subject key (.array items)
  | .object members =>
    if key = "Not" then do
      let subject ← readVariable true members
      let found ← readMembers true subject none members
      let inner ← finish subject found
      return .not inner
    else if key = "And" ∨ key = "Or" then .error (.notList key)
    else if key = "Condition" then .error .conditionNotText
    else readTest subject key (.object members)
  | value =>
    if key = "Condition" then
      match value with
      | .string text => .ok (.condition text)
      | _ => .error .conditionNotText
    else if key = "And" ∨ key = "Or" then .error (.notList key)
    else if key = "Not" then .error .innerNotObject
    else readTest subject key value

/-- Reads nested rules from left to right. -/
def readItems (key : String) : List Json → Except Flaw (List Rule)
  | [] => .ok []
  | item :: rest => do
    let first ← readItem key item
    let others ← readItems key rest
    return first :: others

/-- Reads a nested rule. -/
def readItem (key : String) : Json → Except Flaw Rule
  | .object members => do
    let subject ← readVariable true members
    let found ← readMembers true subject none members
    finish subject found
  | _ => .error (.entryNotObject key)

end

/-- Reads a rule from the members of an object. -/
def read (nested : Bool) (members : List (String × Json)) : Except Flaw Rule := do
  let subject ← readVariable nested members
  let found ← readMembers nested subject none members
  finish subject found

/-! ## Writing -/

mutual

def toJson : Rule → Json
  | .all rules => .object [("And", .array (listToJson rules))]
  | .any rules => .object [("Or", .array (listToJson rules))]
  | .not inner => .object [("Not", inner.toJson)]
  | .test subject operator (.literal value) =>
    .object [(operator.name, value), ("Variable", .string subject)]
  | .test subject operator (.path text) =>
    .object [(operator.pathKey, .string text), ("Variable", .string subject)]
  | .condition text => .object [("Condition", .string text)]

def listToJson : List Rule → List Json
  | [] => []
  | rule :: rest => rule.toJson :: listToJson rest

end

mutual

/-- Whether a condition of the functional dialect stands anywhere in a rule. -/
def hasCondition : Rule → Bool
  | .all rules => anyHasCondition rules
  | .any rules => anyHasCondition rules
  | .not inner => inner.hasCondition
  | .test _ _ _ => false
  | .condition _ => true

/-- Whether a condition of the functional dialect stands anywhere in one of several rules. -/
def anyHasCondition : List Rule → Bool
  | [] => false
  | rule :: rest => rule.hasCondition || anyHasCondition rest

end

/-- Whether a rule is nothing but a condition of the functional dialect. -/
def isCondition : Rule → Bool
  | .condition _ => true
  | _ => false

end Rule

/-! ## Branches -/

/-- A rule of a Choice state and what follows when it holds. -/
structure Branch where
  rule : Rule
  next : String
  assign : Option Json
  output : Option Json
  comment : Option String
deriving Inhabited

namespace Branch

/-- Reads a branch from the members of an object. -/
def read (members : List (String × Json)) : Except Rule.Flaw Branch := do
  let next ← match Json.lookup "Next" members with
    | some (.string next) => pure next
    | _ => throw .noNext
  let comment ← match Json.lookup "Comment" members with
    | none => pure none
    | some (.string comment) => pure (some comment)
    | some _ => throw .commentNotText
  let rule ← Rule.read false members
  return { rule, next, comment
           assign := Json.lookup "Assign" members
           output := Json.lookup "Output" members }

def toJson (branch : Branch) : Json :=
  let written := (branch.rule.toJson.members?).getD []
  let extra : List (String × Option Json) :=
    [("Next", some (.string branch.next)), ("Assign", branch.assign), ("Output", branch.output),
     ("Comment", branch.comment.map .string)]
  .object <| Json.overlay written <|
    extra.filterMap fun (key, value) => value.map fun value => (key, value)

end Branch

end Workflow
