import Workflow.Json

/-!
# Tables of settings files

A table is written in pieces: by headers, by keys with dots, and by the members between them. Every
table remembers how it came about, because it may be declared only once and only dotted keys may go
on with a table that dotted keys began. Values, also those with members, are closed.
-/

namespace Workflow.Toml

/-- How a table came about. -/
inductive Origin where
  /-- By its own header. -/
  | declared
  /-- By the header of a table in it. -/
  | implied
  /-- By a key with dots. -/
  | dotted
deriving DecidableEq, Inhabited

/-- What a key stands for. -/
inductive Node where
  | value (document : Json)
  | table (origin : Origin) (members : List (String × Node))
  /-- The tables of an array, the latest first. -/
  | tables (items : List (List (String × Node)))
deriving Inhabited

/-- Nodes by key. -/
abbrev Members := List (String × Node)

namespace Members

def find? (key : String) : Members → Option Node
  | [] => none
  | (name, node) :: rest => if name = key then some node else find? key rest

def set (key : String) (node : Node) : Members → Members
  | [] => [(key, node)]
  | (name, old) :: rest =>
    if name = key then (key, node) :: rest else (name, old) :: set key node rest

/-- Changes the table at the end of a path of keys. Tables on the way that are missing are added. A
dotted path does not lead through tables that have a header. -/
def change (isDotted : Bool) (edit : Origin → Members → Option Members) :
    List String → Origin → Members → Option Members
  | [], origin, members => edit origin members
  | key :: rest, _, members =>
    match find? key members with
    | none => do
      let origin := if isDotted then .dotted else .implied
      let inner ← change isDotted edit rest origin []
      return set key (.table origin inner) members
    | some (.value _) => none
    | some (.table origin inner) =>
      if isDotted && origin = .declared then none
      else (change isDotted edit rest origin inner).map fun inner =>
        set key (.table origin inner) members
    | some (.tables []) => none
    | some (.tables (inner :: others)) =>
      (change isDotted edit rest .declared inner).map fun inner =>
        set key (.tables (inner :: others)) members

/-- Adds a member under a key, which may be dotted. No key is set twice. -/
def assign (path : List String) (key : String) (value : Json) (members : Members) :
    Option Members :=
  change true
    (fun origin inner =>
      if path.isEmpty == (origin == .dotted) || (find? key inner).isSome then none
      else some (set key (.value value) inner))
    path .declared members

/-- Declares the table of a header. -/
def declare (path : List String) (key : String) (members : Members) : Option Members :=
  change false
    (fun _ inner =>
      match find? key inner with
      | none => some (set key (.table .declared []) inner)
      | some (.table .implied kept) => some (set key (.table .declared kept) inner)
      | some _ => none)
    path .declared members

/-- Adds a table to the array of a header. -/
def extend (path : List String) (key : String) (members : Members) : Option Members :=
  change false
    (fun _ inner =>
      match find? key inner with
      | none => some (set key (.tables [[]]) inner)
      | some (.tables items) => some (set key (.tables ([] :: items)) inner)
      | some _ => none)
    path .declared members

/-- Adds a member to the table of a header. -/
def assignIn (header path : List String) (key : String) (value : Json) (members : Members) :
    Option Members :=
  change false (fun _ inner => assign path key value inner) header .declared members

end Members

mutual

def Node.toJson : Node → Json
  | .value document => document
  | .table _ members => Json.ofMembers (membersJson members)
  | .tables items => .array (tablesJson items).reverse

def membersJson : List (String × Node) → List (String × Json)
  | [] => []
  | (key, node) :: rest => (key, node.toJson) :: membersJson rest

/-- The documents of the tables of an array. -/
def tablesJson : List (List (String × Node)) → List Json
  | [] => []
  | members :: rest => Json.ofMembers (membersJson members) :: tablesJson rest

end

end Workflow.Toml
