/-!
# JSON documents

The value type shared by every part of the interpreter. Integers and floats are different
numbers: `1` and `1.0` print differently and are not equal, although both can be compared by
size. The members of an object are kept in the byte order of their keys, which is also the order
in which wildcards, templates and error searches meet them; `Json.insert` keeps that order, and
`Json.Sorted` states it.

Two notions of equality live side by side. Lean's `=` tells `0.0` from `-0.0`; the `==` of this
file is equality of values, for which both zeros are the same number.
-/

namespace Workflow

/-- A JSON number, either an integer or a double-precision float. -/
inductive Number where
  | int (value : Int)
  | float (value : Float)
deriving DecidableEq, Inhabited

namespace Number

/-- The least signed 64-bit integer. -/
def minSigned : Int := -9223372036854775808

/-- The greatest signed 64-bit integer. -/
def maxSigned : Int := 9223372036854775807

/-- The greatest unsigned 64-bit integer. -/
def maxUnsigned : Int := 18446744073709551615

/-- Integers that a document can hold: signed or unsigned 64-bit ones. -/
def InRange : Number → Prop
  | .int value => minSigned ≤ value ∧ value ≤ maxUnsigned
  | .float _ => True

/-- The number as a signed 64-bit integer, if it is an integer in that range. -/
def toSigned? : Number → Option Int
  | .int value => if minSigned ≤ value ∧ value ≤ maxSigned then some value else none
  | .float _ => none

/-- The number as an unsigned 64-bit integer, if it is an integer in that range. -/
def toUnsigned? : Number → Option Nat
  | .int value => if 0 ≤ value ∧ value ≤ maxUnsigned then some value.toNat else none
  | .float _ => none

/-- The nearest double. -/
def toFloat : Number → Float
  | .int value => Float.ofInt value
  | .float value => value

/-- A float as a number; documents hold no infinities and no NaN. -/
def ofFloat? (value : Float) : Option Number :=
  if value.isFinite then some (.float value) else none

/-- Equality of values: integers with integers, floats with floats. -/
def sameValue : Number → Number → Bool
  | .int left, .int right => left == right
  | .float left, .float right => left == right
  | _, _ => false

instance : BEq Number := ⟨sameValue⟩

end Number

inductive Json where
  | null
  | bool (value : Bool)
  | number (value : Number)
  | string (value : String)
  | array (items : List Json)
  | object (members : List (String × Json))
deriving Inhabited

namespace Json

/-- An integer as a document. -/
abbrev int (value : Int) : Json := .number (.int value)

/-- A natural number as a document. -/
abbrev nat (value : Nat) : Json := .number (.int value)

/-- A float as a document; infinities and NaN have no JSON form and become `null`. -/
def ofFloat (value : Float) : Json :=
  match Number.ofFloat? value with
  | some finite => .number finite
  | none => .null

/-! ## Members of an object -/

/-- The value of a key in a list of members. -/
def lookup (key : String) : List (String × Json) → Option Json
  | [] => none
  | (name, value) :: rest => if name = key then some value else lookup key rest

/-- Sets a key, keeping the members in key order. -/
def insert (key : String) (value : Json) : List (String × Json) → List (String × Json)
  | [] => [(key, value)]
  | (name, old) :: rest =>
    if key = name then (key, value) :: rest
    else if key < name then (key, value) :: (name, old) :: rest
    else (name, old) :: insert key value rest

def erase (key : String) : List (String × Json) → List (String × Json)
  | [] => []
  | (name, value) :: rest => if name = key then rest else (name, value) :: erase key rest

/-- Members given in any order, a later one replacing an earlier one of the same key. -/
def sortMembers (members : List (String × Json)) : List (String × Json) :=
  members.foldl (fun sorted (key, value) => insert key value sorted) []

/-- An object from members in any order. -/
def ofMembers (members : List (String × Json)) : Json := .object (sortMembers members)

/-- Writes every member of `extra` over `base`. -/
def overlay (base extra : List (String × Json)) : List (String × Json) :=
  extra.foldl (fun merged (key, value) => insert key value merged) base

/-- Keys in strictly increasing order. -/
def SortedKeys (members : List (String × Json)) : Prop :=
  members.Pairwise fun left right => left.1 < right.1

mutual

/-- Every object in the document has its keys in strictly increasing order. -/
def Sorted : Json → Prop
  | .array items => SortedItems items
  | .object members => SortedKeys members ∧ SortedMembers members
  | _ => True

/-- Every item is sorted. -/
def SortedItems : List Json → Prop
  | [] => True
  | item :: rest => item.Sorted ∧ SortedItems rest

/-- Every member value is sorted. -/
def SortedMembers : List (String × Json) → Prop
  | [] => True
  | (_, value) :: rest => value.Sorted ∧ SortedMembers rest

end

mutual

/-- How many levels of values the document has. -/
def depth : Json → Nat
  | .array items => depthOfItems items + 1
  | .object members => depthOfMembers members + 1
  | _ => 1

/-- The depth of the deepest item. -/
def depthOfItems : List Json → Nat
  | [] => 0
  | item :: rest => max item.depth (depthOfItems rest)

/-- The depth of the deepest member value. -/
def depthOfMembers : List (String × Json) → Nat
  | [] => 0
  | (_, value) :: rest => max value.depth (depthOfMembers rest)

end

/-- The value of a key, if the document is an object that has it. -/
def get? (document : Json) (key : String) : Option Json :=
  match document with
  | .object members => lookup key members
  | _ => none

/-- The items of an array and the member values of an object, in order. -/
def children : Json → List Json
  | .array items => items
  | .object members => members.map Prod.snd
  | _ => []

/-! ## Kinds of values -/

/-- The name of a value's kind, as error messages give it. -/
def kindName : Json → String
  | .null => "null"
  | .bool _ => "boolean"
  | .number _ => "number"
  | .string _ => "string"
  | .array _ => "array"
  | .object _ => "object"

/-- The text of a string value. -/
def string? : Json → Option String
  | .string value => some value
  | _ => none

/-- The number of a numeric value. -/
def number? : Json → Option Number
  | .number value => some value
  | _ => none

/-- The truth value of a boolean. -/
def bool? : Json → Option Bool
  | .bool value => some value
  | _ => none

def items? : Json → Option (List Json)
  | .array items => some items
  | _ => none

def members? : Json → Option (List (String × Json))
  | .object members => some members
  | _ => none

/-- The value as an unsigned 64-bit integer. -/
def toUnsigned? (document : Json) : Option Nat := document.number?.bind Number.toUnsigned?

/-- The value as a signed 64-bit integer. -/
def toSigned? (document : Json) : Option Int := document.number?.bind Number.toSigned?

/-! ## Equality of values -/

mutual

/-- Equality of values, with numbers compared by `Number.sameValue`. -/
def sameValue : Json → Json → Bool
  | .null, .null => true
  | .bool left, .bool right => left == right
  | .number left, .number right => left == right
  | .string left, .string right => left == right
  | .array left, .array right => sameItems left right
  | .object left, .object right => sameMembers left right
  | _, _ => false

/-- Item-wise equality of values. -/
def sameItems : List Json → List Json → Bool
  | [], [] => true
  | left :: leftRest, right :: rightRest => left.sameValue right && sameItems leftRest rightRest
  | _, _ => false

/-- Equality of member lists: the same keys in the same order, with equal values. -/
def sameMembers : List (String × Json) → List (String × Json) → Bool
  | [], [] => true
  | (leftKey, left) :: leftRest, (rightKey, right) :: rightRest =>
    leftKey == rightKey && left.sameValue right && sameMembers leftRest rightRest
  | _, _ => false

end

instance : BEq Json := ⟨sameValue⟩

/-! ## Lookup and insertion -/

@[simp]
theorem lookup_nil (key : String) : lookup key [] = none := rfl

theorem lookup_insert_self (key : String) (value : Json) (members : List (String × Json)) :
    lookup key (insert key value members) = some value := by
  induction members with
  | nil => simp [insert, lookup]
  | cons member rest ih =>
    obtain ⟨name, old⟩ := member
    by_cases same : key = name
    · simp [insert, lookup, same]
    · by_cases before : key < name
      · simp [insert, lookup, same, before]
      · have different : ¬name = key := fun equal => same equal.symm
        simp [insert, lookup, same, before, different, ih]

theorem lookup_insert_of_ne {key other : String} (different : other ≠ key) (value : Json)
    (members : List (String × Json)) :
    lookup other (insert key value members) = lookup other members := by
  induction members with
  | nil => simp [insert, lookup, different.symm]
  | cons member rest ih =>
    obtain ⟨name, old⟩ := member
    by_cases same : key = name
    · subst same
      simp [insert, lookup, different.symm]
    · by_cases before : key < name
      · simp [insert, lookup, same, before, different.symm]
      · simp [insert, lookup, same, before, ih]

end Json

end Workflow
