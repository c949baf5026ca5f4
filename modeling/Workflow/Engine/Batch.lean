import Workflow.Engine.Effects

/-!
# Items and batches

Where a Map takes its items from, what it makes of each, and how it groups them. A unit of work is
what the processor runs on: one item, or a batch of several.
-/

namespace Workflow.Engine

/-- What the processor of a Map runs on. -/
structure WorkUnit where
  /-- How many items it stands for. -/
  weight : Nat
  /-- What the context shows as the item. -/
  shown : Json
  input : Json
deriving Inhabited

/-- Splits items into batches of a size in bytes. A batch is closed when the next item would make
it too big; an item that is too big by itself makes a batch of its own. -/
def splitByBytes (limit : Nat) (current : List Json) (size : Nat) : List Json → List (List Json)
  | [] => if current.isEmpty then [] else [current]
  | item :: rest =>
    let itemSize := item.text.utf8ByteSize
    if !current.isEmpty && limit < size + itemSize then
      current :: splitByBytes limit [item] itemSize rest
    else splitByBytes limit (current ++ [item]) (size + itemSize) rest

namespace Visit

/-! ## Items -/

def expectItems (visit : Visit) (field : String) : Json → Except Fault (List Json)
  | .array items => .ok items
  | other =>
    .error <| .reserved .runtime <|
      field ++ " of Map state '" ++ visit.name ++ "' must select an array, got " ++ other.text

/-- Adds the settings of a reader to its arguments. -/
def withReaderConfig (arguments : Json) (config : Option ReaderConfig) : Json :=
  match config with
  | some config =>
    if config.extra.isEmpty then arguments
    else setMember arguments "ReaderConfig" (.object config.extra)
  | none => arguments

/-- Calls the reader of a Map; its failures get the name of reader failures. -/
def callReader (reader : ItemReader) (arguments : Json) : Action Json :=
  tryCatch (invoke reader.resource arguments none) fun fault =>
    match fault with
    | .failed failure =>
      throw <| .reserved .itemReaderFailed <|
        "reader '" ++ reader.resource ++ "' failed: " ++ failure.shown
    | fault => throw fault

/-- The items that a reader gives. -/
def readFrom (visit : Visit) (reader : ItemReader) : Action (List Json) := do
  let template := visit.template reader.parameters reader.arguments
  let arguments ← Action.evaluate <|
    Pipeline.buildArguments template visit.effective visit.env
  match ← callReader reader (withReaderConfig arguments reader.config) with
  | .array items =>
    let limit := (reader.config.map ReaderConfig.maxItems).bind Setting.dynamic
    match ← visit.resolve .unsigned "MaxItems" limit with
    | some limit => return if 0 < limit then items.take limit else items
    | none => return items
  | _ =>
    throw <| .reserved .itemReaderFailed <|
      "reader '" ++ reader.resource ++ "' did not return an array"

/-- The items of a Map: from a reader, a template, a path, or the effective input. -/
def readItems (visit : Visit) (mapping : Mapping) : Action (List Json) := do
  match mapping.reader, mapping.items, mapping.itemsPath with
  | some reader, _, _ => visit.readFrom reader
  | none, some template, _ =>
    let value ← Action.evaluate (visit.env.dialect.expand template visit.scope)
    Action.ofExcept (visit.expectItems "Items" value)
  | none, none, some path =>
    match ← Action.evaluated ((Path.evaluate path visit.scope).mapError .path) with
    | some value => Action.ofExcept (visit.expectItems "ItemsPath" value)
    | none =>
      throw <| .reserved .runtime <|
        "ItemsPath '" ++ path ++ "' matched nothing in Map state '" ++ visit.name ++ "'"
  | none, none, none =>
    match visit.effective with
    | .array items => return items
    | other => return [other]

/-- What the selector makes of an item; without one the item stays as it is. -/
def selectItem (visit : Visit) (mapping : Mapping) (index : Nat) (item : Json) : Action Json :=
  match mapping.selector visit.common with
  | none => return item
  | some selector =>
    let scope := { visit.scope with context := withItem visit.env.context index item }
    Action.evaluate (visit.env.dialect.expand selector scope)

/-- Units of single items, the first of which has the given index. -/
def selectItems (visit : Visit) (mapping : Mapping) (index : Nat) :
    List Json → Action (List WorkUnit)
  | [] => return []
  | item :: rest => do
    let input ← visit.selectItem mapping index item
    let units ← visit.selectItems mapping (index + 1) rest
    return { weight := 1, shown := item, input } :: units

/-! ## Batches -/

/-- A batch as a unit. -/
def batchUnit (input : Option Json) (items : List Json) : WorkUnit :=
  let members : List (String × Json) := match input with
    | some input => [("BatchInput", input), ("Items", .array items)]
    | none => [("Items", .array items)]
  { weight := items.length, shown := .object members, input := .object members }

/-- Splits groups of items by their size in bytes, one group after the other. -/
def splitGroups (visit : Visit) (limit : Nat) : List (List Json) → Action (List (List Json))
  | [] => return []
  | group :: rest => do
    match ← Action.ask (.split visit.name group limit) with
    | none => throw (.noBatching visit.name)
    | some parts =>
      let others ← visit.splitGroups limit rest
      return parts ++ others

/-- Groups inputs by their number; zero means all in one group. -/
def groupsOf (size : Nat) (inputs : List Json) : List (List Json) :=
  if size = 0 then [inputs] else Intrinsic.chunks size inputs.length inputs

/-- Splits groups of items if their size is limited. -/
def limitGroups (visit : Visit) (limit : Option Nat) (groups : List (List Json)) :
    Action (List (List Json)) :=
  match limit with
  | some limit => visit.splitGroups limit groups
  | none => return groups

/-- What every batch is given besides its items, if anything. -/
def batchInput (visit : Visit) (batcher : ItemBatcher) : Action (Option Json) :=
  match batcher.batchInput with
  | some template => some <$> Action.evaluate (visit.env.dialect.expand template visit.scope)
  | none => return none

/-- Groups units into batches. -/
def batch (visit : Visit) (batcher : ItemBatcher) (units : List WorkUnit) :
    Action (List WorkUnit) := do
  let size ← visit.resolve .unsigned "MaxItemsPerBatch" batcher.maxItems.dynamic
  let limit ← visit.resolve .unsigned "MaxInputBytesPerBatch" batcher.maxBytes.dynamic
  let groups ← visit.limitGroups limit (groupsOf (size.getD 0) (units.map WorkUnit.input))
  let input ← visit.batchInput batcher
  return (groups.filter fun group => !group.isEmpty).map (batchUnit input)

end Visit

end Workflow.Engine
