import Workflow.Json

/-!
# Records in documents

Readers for the members of a record. A record is written as an object, or as the list of its fields
in their order. Every reader is given the fields and a name. A missing optional field and a `null`
are the same, except where a reader keeps the difference. The result is nothing when the field does
not fit.
-/

namespace Workflow.Record

/-- Fields by name. -/
abbrev Fields := List (String × Json)

/-- The fields of a record, whose names are given in order. -/
def fields? (names : List String) : Json → Option Fields
  | .object members => some members
  | .array items => if items.length ≤ names.length then some (names.zip items) else none
  | _ => none

variable {α : Type}

def optional (read : Json → Option α) (name : String) (fields : Fields) : Option (Option α) :=
  match Json.lookup name fields with
  | none => some none
  | some .null => some none
  | some value => (read value).map some

def orElse (read : Json → Option α) (initial : α) (name : String) (fields : Fields) : Option α :=
  match Json.lookup name fields with
  | none => some initial
  | some value => read value

def required (read : Json → Option α) (name : String) (fields : Fields) : Option α :=
  (Json.lookup name fields).bind read

/-- An optional field for which an explicit `null` is kept. -/
def nullable (read : Json → Option α) (name : String) (fields : Fields) :
    Option (Option (Option α)) :=
  match Json.lookup name fields with
  | none => some none
  | some .null => some (some none)
  | some value => (read value).map fun found => some (some found)

/-- An optional field of any kind. -/
def any (name : String) (fields : Fields) : Option Json :=
  match Json.lookup name fields with
  | some .null => none
  | found => found

/-- A list. -/
def list (read : Json → Option α) : Json → Option (List α)
  | .array items => items.mapM read
  | _ => none

/-- A number that becomes a float. -/
def float? (value : Json) : Option Float := value.number?.map Number.toFloat

/-- The fields that are set, as an object. -/
def object (fields : List (String × Option Json)) : Json :=
  Json.ofMembers <| fields.filterMap fun (name, value) => value.map fun value => (name, value)

/-- A list that is written only when it has elements. -/
def someList (write : α → Json) (items : List α) : Option Json :=
  if items.isEmpty then none else some (.array (items.map write))

/-- A path for which an explicit `null` is kept. -/
def nullableText (path : Option (Option String)) : Option Json :=
  path.map fun path =>
    match path with
    | some text => .string text
    | none => .null

end Workflow.Record
