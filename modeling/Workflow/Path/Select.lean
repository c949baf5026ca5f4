import Workflow.Path

/-!
# Selecting and placing

`Path.select` collects what a chain of selectors matches below a document, in order. It fails only
where a slice steps out of the signed 64-bit integers. `Path.place` writes a value where a reference
path points, creating an object wherever a member name meets nothing.
-/

namespace Workflow

namespace Json

mutual

/-- The document itself and every value inside it, containers before their contents. -/
def descendants : Json → List Json
  | .array items => .array items :: descendantsOfItems items
  | .object members => .object members :: descendantsOfMembers members
  | .null => [.null]
  | .bool value => [.bool value]
  | .number value => [.number value]
  | .string value => [.string value]

/-- The descendants of each item, one item after the other. -/
def descendantsOfItems : List Json → List Json
  | [] => []
  | item :: rest => item.descendants ++ descendantsOfItems rest

/-- The descendants of each member value, one member after the other. -/
def descendantsOfMembers : List (String × Json) → List Json
  | [] => []
  | (_, value) :: rest => value.descendants ++ descendantsOfMembers rest

end

end Json

namespace Path

/-- The place that a possibly negative position names in a list of the given length. -/
def resolveIndex (position : Int) (length : Nat) : Option Nat :=
  let resolved := if position < 0 then (length : Int) + position else position
  if 0 ≤ resolved ∧ resolved < length then some resolved.toNat else none

/-- A bound of a slice moved into the places that a walk can stand on or stop at. -/
def clampBound (length : Nat) (forward : Bool) (bound : Int) : Int :=
  let counted := if bound < 0 then (length : Int) + bound else bound
  let lowest : Int := if forward then 0 else -1
  let highest : Int := if forward then length else (length : Int) - 1
  max lowest (min counted highest)

/-- The places of a walk from `start` towards `stop`. The next place has to be a signed 64-bit
integer, also the one behind the last; the walk fails at the place where it is not. -/
def walk (fuel : Nat) (forward : Bool) (step stop start : Int) : Except Overrun (List Nat) :=
  match fuel with
  | 0 => .ok []
  | fuel + 1 =>
    if (if forward then start < stop else stop < start) then
      if Number.maxSigned < start + step ∨ start + step < Number.minSigned then
        .error ⟨start.toNat, step⟩
      else (walk fuel forward step stop (start + step)).map (start.toNat :: ·)
    else .ok []

/-- The places that a slice selects in a list of the given length, in order. -/
def slicePlaces (length : Nat) (start stop step : Option Int) : Except Overrun (List Nat) :=
  let step := step.getD 1
  if step = 0 then .ok []
  else
    let forward := decide (0 < step)
    let first := (start.map (clampBound length forward)).getD
      (if forward then 0 else (length : Int) - 1)
    let last := (stop.map (clampBound length forward)).getD (if forward then length else -1)
    walk (length + 1) forward step last first

def slice (items : List Json) (start stop step : Option Int) : Except Overrun (List Json) :=
  (slicePlaces items.length start stop step).map fun places =>
    places.filterMap fun place => items[place]?

/-- Whether an order of two values meets a comparison. -/
def Comparison.ofOrder (comparison : Comparison) (equal less greater : Bool) : Bool :=
  match comparison with
  | .eq => equal
  | .ne => !equal
  | .lt => less
  | .le => less || equal
  | .gt => greater
  | .ge => greater || equal

/-- Whether a comparison only asks for equality. -/
def Comparison.isEquality : Comparison → Bool
  | .eq | .ne => true
  | _ => false

/-- Compares numbers by size, strings by their bytes, and everything else only for equality. -/
def Comparison.holds (comparison : Comparison) (left right : Json) : Bool :=
  match left, right with
  | .number left, .number right =>
    let left := left.toFloat
    let right := right.toFloat
    comparison.ofOrder (left == right) (left < right) (right < left)
  | .string left, .string right => comparison.ofOrder (left == right) (left < right) (right < left)
  | left, right => comparison.ofOrder (left == right) false false && comparison.isEquality

/-- What is found in each of several documents, one document after the other. -/
def inEach (find : Json → Except Overrun (List Json)) : List Json → Except Overrun (List Json)
  | [] => .ok []
  | node :: rest => do
    let found ← find node
    let others ← inEach find rest
    return found ++ others

mutual

/-- What a selector matches in a document. -/
def Selector.apply : Selector → Json → Except Overrun (List Json)
  | .child name, node => .ok (node.get? name).toList
  | .index position, .array items =>
    .ok ((resolveIndex position items.length).bind fun place => items[place]?).toList
  | .index _, _ => .ok []
  | .wildcard, node => .ok node.children
  | .slice start stop step, .array items => slice items start stop step
  | .slice _ _ _, _ => .ok []
  | .union members, node => applyEach members node
  | .filter condition, node =>
    inEach (fun child => do return if ← condition.accepts child then [child] else [])
      node.children
  | .descend inner, node => inEach inner.apply node.descendants

/-- What several selectors match in a document, one selector after the other. -/
def applyEach : List Selector → Json → Except Overrun (List Json)
  | [], _ => .ok []
  | selector :: rest, node => do
    let found ← selector.apply node
    let others ← applyEach rest node
    return found ++ others

/-- What a chain of selectors matches, starting from several documents. -/
def selectFrom : List Selector → List Json → Except Overrun (List Json)
  | [], nodes => .ok nodes
  | selector :: rest, nodes => do
    let found ← inEach selector.apply nodes
    selectFrom rest found

/-- Whether a value meets a condition. -/
def Filter.accepts : Filter → Json → Except Overrun Bool
  | .present path, current => do return !(← selectFrom path [current]).isEmpty
  | .compare left comparison right, current => do
    match ← left.value? current, ← right.value? current with
    | some left, some right => return comparison.holds left right
    | _, _ => return false
  | .join left .and right, current => do
    if ← left.accepts current then right.accepts current else return false
  | .join left .or right, current => do
    if ← left.accepts current then return true else right.accepts current
  | .not inner, current => do return !(← inner.accepts current)

/-- The value of a side of a comparison: a literal, or the first match below the current value. -/
def Operand.value? : Operand → Json → Except Overrun (Option Json)
  | .literal value, _ => .ok (some value)
  | .current path, current => do return (← selectFrom path [current]).head?

end

/-- What a chain of selectors matches below a document. -/
def select (selectors : List Selector) (document : Json) : Except Overrun (List Json) :=
  selectFrom selectors [document]

/-- One match stands for itself, several for their array, and none for nothing. -/
def collect : List Json → Option Json
  | [] => none
  | [value] => some value
  | values => some (.array values)

/-- The value of a selector chain: the document itself when the chain is empty. -/
def valueOf (selectors : List Selector) (document : Json) : Except Overrun (Option Json) :=
  (select selectors document).map collect

/-- Writes a value where reference steps lead, below a document. -/
def placeAt (steps : List Step) (document value : Json) : Except Obstacle Json :=
  match steps, document with
  | [], _ => .ok value
  | .name name :: rest, .object members =>
    (placeAt rest ((Json.lookup name members).getD (.object [])) value).map fun placed =>
      .object (Json.insert name placed members)
  | .position position :: rest, .array items =>
    match items[position]? with
    | none => .error (.outOfBounds position items.length)
    | some item => (placeAt rest item value).map fun placed => .array (items.set position placed)
  | step :: _, other => .error (.wrongKind step other.kindName)

end Path

end Workflow
