import Workflow.Fault
import Workflow.Intrinsic.Eval

/-!
# Templates

A template of the path dialect is a document in which a key that ends in `.$` asks for a value: its
text is a path or an intrinsic call, and the key loses the ending. A path that finds nothing drops
the key. Everything else is copied, and values that were found are never expanded again.
-/

namespace Workflow

namespace Template

/-- The name in front of a `.$` ending. -/
def dynamicName? (key : String) : Option String :=
  match key.toList.reverse with
  | '$' :: '.' :: rest => some (String.ofList rest.reverse)
  | _ => none

/-- The value that the text of a dynamic key asks for; nothing when a path finds nothing. -/
def dynamicValue (key : String) (value : Json) (scope : Scope) :
    Evaluation Evaluation.Error (Option Json) :=
  match value with
  | .string text =>
    if Intrinsic.looksLike text then
      (ExceptT.adapt .intrinsic (Intrinsic.evaluate text scope)) >>= fun found =>
        return some found
    else Evaluation.lifted .path (Path.evaluate text scope)
  | _ => throw (.path (.notText key))

mutual

def expand (scope : Scope) : Json → Evaluation Evaluation.Error Json
  | .object members => do
    let written ← expandMembers scope [] members
    return .object written
  | .array items => do
    let written ← expandItems scope items
    return .array written
  | other => return other

/-- Expands items from left to right. -/
def expandItems (scope : Scope) : List Json → Evaluation Evaluation.Error (List Json)
  | [] => return []
  | item :: rest => do
    let first ← expand scope item
    let others ← expandItems scope rest
    return first :: others

/-- Expands members in key order, over those already written. -/
def expandMembers (scope : Scope) (written : List (String × Json)) :
    List (String × Json) → Evaluation Evaluation.Error (List (String × Json))
  | [] => return written
  | (key, value) :: rest =>
    match dynamicName? key with
    | some name => do
      match ← dynamicValue key value scope with
      | some found => expandMembers scope (Json.insert name found written) rest
      | none => expandMembers scope written rest
    | none => do
      let found ← expand scope value
      expandMembers scope (Json.insert key found written) rest

end

/-- Expands one member of a template: its key and value, or nothing when a path finds nothing. -/
def expandEntry (key : String) (value : Json) (scope : Scope) :
    Evaluation Evaluation.Error (Option (String × Json)) :=
  match dynamicName? key with
  | some name => do
    let found ← dynamicValue key value scope
    return found.map fun value => (name, value)
  | none => do
    let found ← expand scope value
    return some (key, found)

end Template

def Dialect.expand (dialect : Dialect) (template : Json) (scope : Scope) :
    Evaluation Evaluation.Error Json :=
  match dialect with
  | .path => Template.expand scope template
  | .functional => Evaluation.lifted .functional (Functional.expand scope template)

end Workflow
