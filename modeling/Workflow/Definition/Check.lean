import Workflow.Definition.Reader

/-!
# Checking documents

Before a definition is read, its document is checked: names of states have 1 to 80 characters,
every state has a known type, and every key is a field that is legal for the state's type and
dialect. A nested graph inherits the dialect of the machine, not that of the state it stands in.
-/

namespace Workflow.Definition

def machineFields : List String :=
  ["StartAt", "States", "Comment", "QueryLanguage", "TimeoutSeconds", "Version"]

/-- The fields of a nested graph. -/
def graphFields : List String := ["StartAt", "States", "Comment", "ProcessorConfig"]

/-- The greatest number of characters of a state's name. -/
def maxNameLength : Nat := 80

/-- Refuses the first key that is not allowed. -/
def checkKeys (state type dialect : String) (allowed : String → Bool)
    (members : List (String × Json)) : Except Error Unit :=
  match members.find? fun (key, _) => !allowed key with
  | some (key, _) => .error (.fieldNotAllowed state type dialect key)
  | none => .ok ()

/-- The dialect that a document declares, else the inherited one. -/
def declaredDialect (state : String) (inherited : Dialect) (members : List (String × Json)) :
    Except Error Dialect :=
  match Json.lookup "QueryLanguage" members with
  | none => .ok inherited
  | some value =>
    match Dialect.read? value with
    | some dialect => .ok dialect
    | none => .error (.invalidValue state "QueryLanguage" (.unknownDialect value))

def declaredType (state : String) (members : List (String × Json)) : Except Error StateType :=
  match Json.lookup "Type" members with
  | some (.string name) =>
    match StateType.ofName? name with
    | some type => .ok type
    | none => .error (.invalidValue state "Type" (.unknownType name))
  | _ => .error (.missingField state "Type")

/-- Refuses a state without one of the fields that its type requires. -/
def checkRequired (state : String) (type : StateType) (members : List (String × Json)) :
    Except Error Unit :=
  match type.requiredFields.find? fun field => (Json.lookup field members).isNone with
  | some field => .error (.missingField state field)
  | none =>
    if type = .map ∧ (Json.lookup "ItemProcessor" members).isNone ∧
        (Json.lookup "Iterator" members).isNone then
      .error (.missingField state "ItemProcessor")
    else .ok ()

/-- The field of a catcher that a dialect does not allow. -/
def foreignCatchField : Dialect → String
  | .path => "Output"
  | .functional => "ResultPath"

/-- Refuses catchers with a field of the other dialect. -/
def checkCatchers (state : String) (dialect : Dialect) (members : List (String × Json)) :
    Except Error Unit :=
  match Json.lookup "Catch" members with
  | some (.array catchers) =>
    if catchers.any fun catcher => (catcher.get? (foreignCatchField dialect)).isSome then
      .error (.fieldNotAllowed state "Catch" dialect.name (foreignCatchField dialect))
    else .ok ()
  | _ => .ok ()

/-- Checks everything about a state but the graphs nested in it; the dialect it is written in. -/
def checkFields (state : String) (inherited : Dialect) (members : List (String × Json)) :
    Except Error Dialect := do
  let type ← declaredType state members
  let dialect ← declaredDialect state inherited members
  checkKeys state type.name dialect.name (type.allows dialect) members
  checkRequired state type members
  checkCatchers state dialect members
  return dialect

mutual

def checkGraph (fuel : Nat) (inherited : Dialect) (members : List (String × Json)) :
    Except Error Unit :=
  match fuel with
  | 0 => .error (.misfit .field)
  | fuel + 1 =>
    match Json.lookup "States" members with
    | some (.object states) =>
      states.forM fun (name, raw) => do
        if name.length = 0 ∨ maxNameLength < name.length then throw (.invalidName name)
        match raw with
        | .object fields => checkState fuel name inherited fields
        | _ => throw (.misfit (.state name))
    | some _ => .error (.misfit .states)
    | none => .error (.missingField "" "States")

def checkState (fuel : Nat) (name : String) (inherited : Dialect)
    (members : List (String × Json)) : Except Error Unit :=
  match fuel with
  | 0 => .error (.misfit .field)
  | fuel + 1 => do
    let dialect ← checkFields name inherited members
    ["ItemProcessor", "Iterator"].forM fun key =>
      match Json.lookup key members with
      | none => .ok ()
      | some (.object fields) => do
        checkKeys name key dialect.name graphFields.contains fields
        checkGraph fuel inherited fields
      | some _ => .error (.misfit (.processor key name))
    match Json.lookup "Branches" members with
    | none => return
    | some (.array branches) =>
      branches.forM fun branch =>
        match branch with
        | .object fields => do
          checkKeys name "Branch" dialect.name graphFields.contains fields
          checkGraph fuel inherited fields
        | _ => .error (.misfit (.branch name))
    | some _ => throw (.misfit (.branches name))

end

end Workflow.Definition
