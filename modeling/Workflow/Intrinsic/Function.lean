import Workflow.Decimal.Binary
import Workflow.Digest
import Workflow.Encoding
import Workflow.Intrinsic
import Workflow.Json.Printer
import Workflow.Json.Reader
import Workflow.Random

/-!
# The function library

The functions behind intrinsic calls, on argument values. All but two are plain functions of their
arguments; `Intrinsic.drawInteger` and `Intrinsic.drawIdentifier` also draw from the random source.
-/

namespace Workflow.Intrinsic

/-! ## Argument values -/

/-- An integer moved into the signed 64-bit range. -/
def saturate (value : Int) : Int := max Number.minSigned (min Number.maxSigned value)

/-- A signed 64-bit integer, or a float without a fraction moved into that range. -/
def integerOf? (value : Json) : Option Int :=
  match value with
  | .number n =>
    match n.toSigned? with
    | some exact => some exact
    | none => (Decimal.integral? n.toFloat).map saturate
  | _ => none

/-- The items of an array argument. -/
def arrayAt (position : Nat) (value : Json) : Except Complaint (List Json) :=
  match value with
  | .array items => .ok items
  | _ => .error (.notArray position)

/-- The text of a string argument. -/
def stringAt (position : Nat) (value : Json) : Except Complaint String :=
  match value with
  | .string text => .ok text
  | _ => .error (.notString position)

/-- The value of an integer argument. -/
def integerAt (position : Nat) (value : Json) : Except Complaint Int :=
  match integerOf? value with
  | some exact => .ok exact
  | none => .error (.notInteger position)

/-- The value of a boolean argument. -/
def booleanAt (position : Nat) (value : Json) : Except Complaint Bool :=
  match value with
  | .bool flag => .ok flag
  | _ => .error (.notBoolean position)

/-! ## Arrays -/

/-- Whether a value is among the items of an array. -/
def contains (items : List Json) (value : Json) : Bool := items.any fun item => item == value

/-- The item of an array at an index. -/
def itemAt (items : List Json) (index : Int) : Except Complaint Json :=
  let found := if 0 ≤ index then items[index.toNat]? else none
  match found with
  | some item => .ok item
  | none => .error (.outOfBounds index items.length)

/-- Consecutive pieces of a list, all of the given size but perhaps the last. -/
def chunks {α : Type} (size : Nat) : (fuel : Nat) → List α → List (List α)
  | 0, _ => []
  | _ + 1, [] => []
  | fuel + 1, items => items.take size :: chunks size fuel (items.drop size)

/-- The pieces of an array. -/
def partition (items : List Json) (size : Int) : Except Complaint Json :=
  if size ≤ 0 then .error .chunkSize
  else .ok (.array ((chunks size.toNat items.length items).map Json.array))

/-- The values of a range from `current` on, of which `left` more are allowed. The range ends when
it passes `stop` and where the next value is no signed 64-bit integer. -/
def rangeFrom (limit : Nat) (stop step : Int) (left : Nat) (current : Int) :
    Except Complaint (List Int) :=
  if (0 < step ∧ current ≤ stop) ∨ (step < 0 ∧ stop ≤ current) then
    match left with
    | 0 => .error (.longRange limit)
    | left + 1 =>
      let next := current + step
      if Number.minSigned ≤ next ∧ next ≤ Number.maxSigned then
        (rangeFrom limit stop step left next).map (current :: ·)
      else .ok [current]
  else .ok []

/-- The values from `start` to `stop`, both included, in steps. -/
def range (limit : Nat) (start stop step : Int) : Except Complaint (List Int) :=
  if step = 0 then .error .zeroStep else rangeFrom limit stop step limit start

/-- The items of a list without those that occurred before. -/
def unique (seen : List Json) : List Json → List Json
  | [] => seen
  | item :: rest => if contains seen item then unique seen rest else unique (seen ++ [item]) rest

/-! ## Texts -/

/-- The text of a digest algorithm's result. -/
def hash (text algorithm : String) : Except Complaint String :=
  let bytes := Encoding.utf8 text
  let digest? : Option (List UInt8) := match algorithm with
    | "MD5" => some (Digest.md5 bytes)
    | "SHA-1" => some (Digest.sha1 bytes)
    | "SHA-256" => some (Digest.sha256 bytes)
    | "SHA-384" => some (Digest.sha384 bytes)
    | "SHA-512" => some (Digest.sha512 bytes)
    | _ => none
  match digest? with
  | some digest => .ok (String.ofList (Encoding.hex digest))
  | none => .error (.badAlgorithm algorithm)

/-- The Base64 form of a text. -/
def encodeText (text : String) : String :=
  String.ofList (Encoding.Base64.encode (Encoding.utf8 text))

/-- The text of a Base64 form. -/
def decodeText (text : String) : Except Complaint String :=
  match Encoding.Base64.decode? text.toList with
  | none => .error .badBase64
  | some bytes =>
    match Encoding.ofUtf8? bytes with
    | some decoded => .ok decoded
    | none => .error .badUtf8

/-- A value as it stands in a formatted text: strings as they are, the rest as compact JSON. -/
def shownChars : Json → List Char
  | .string text => text.toList
  | other => other.compact

/-- Fills the placeholders `{}` of a template in order; an escaped brace is a brace. -/
def format : List Char → List Json → Except Complaint (List Char)
  | [], [] => .ok []
  | [], _ :: _ => .error .manyArguments
  | '\\' :: '\x7b' :: rest, values => (format rest values).map ('\x7b' :: ·)
  | '\\' :: '\x7d' :: rest, values => (format rest values).map ('\x7d' :: ·)
  | '\x7b' :: '\x7d' :: _, [] => .error .fewArguments
  | '\x7b' :: '\x7d' :: rest, value :: values =>
    (format rest values).map (shownChars value ++ ·)
  | c :: rest, values => (format rest values).map (c :: ·)

/-- The nonempty pieces of a text between characters of a set. -/
def splitOn (delimiters : List Char) : List Char → List (List Char)
  | [] => [[]]
  | c :: rest =>
    if delimiters.contains c then [] :: splitOn delimiters rest
    else
      match splitOn delimiters rest with
      | [] => [[c]]
      | piece :: pieces => (c :: piece) :: pieces

/-- The nonempty pieces of a text between delimiter characters, as an array. -/
def split (text delimiters : String) : Json :=
  .array (((splitOn delimiters.toList text.toList).filter fun piece => !piece.isEmpty).map
    fun piece => .string (String.ofList piece))

/-! ## Objects -/

mutual

/-- Merges members into others, one after the other. -/
def mergeMembers (deep : Bool) (target : List (String × Json)) :
    List (String × Json) → List (String × Json)
  | [] => target
  | (key, value) :: rest =>
    mergeMembers deep (Json.insert key (mergeValue deep (Json.lookup key target) value) target) rest

/-- The value of a key after a merge: of two objects their own merge, if that is asked for. -/
def mergeValue (deep : Bool) (existing : Option Json) : Json → Json
  | .object incoming =>
    match existing with
    | some (.object members) =>
      if deep then .object (mergeMembers deep members incoming) else .object incoming
    | _ => .object incoming
  | .null => .null
  | .bool value => .bool value
  | .number value => .number value
  | .string value => .string value
  | .array items => .array items

end

/-! ## Numbers -/

/-- The sum of two numbers: exact on signed 64-bit integers, else on doubles. -/
def add (left right : Number) : Except Complaint Number :=
  match left.toSigned?, right.toSigned? with
  | some x, some y =>
    if Number.minSigned ≤ x + y ∧ x + y ≤ Number.maxSigned then .ok (.int (x + y))
    else .error .overflow
  | _, _ =>
    match Number.ofFloat? (left.toFloat + right.toFloat) with
    | some sum => .ok sum
    | none => .error .notFinite

/-- An integer modulo `2 ^ 64`, in the signed range. -/
def wrapSigned (value : Int) : Int := value.bmod Random.wordCount

/-- The integer that a 64-bit draw selects from `start` up to but without `stop`. -/
def reduceDraw (start stop : Int) (draw : UInt64) : Int :=
  wrapSigned (start + wrapSigned ((draw.toNat : Int) % (stop - start)))

/-- The integer that a seed selects from `start` up to but without `stop`. -/
def seededInteger (start stop seed : Int) : Int :=
  let source := Random.Source.ofSeed (UInt64.ofNat (seed % Random.wordCount).toNat)
  start + ((source.uniform (stop - start).toNat).1 : Int)

/-- Draws an integer from `start` up to but without `stop`. -/
def drawInteger (start stop : Int) : StateM Random.Source Int := fun source =>
  let (draw, source) := source.next
  (reduceDraw start stop draw, source)

/-- Sixteen bytes as the text of a random identifier, with the version and variant bits set. -/
def identifierText (bytes : List UInt8) : String :=
  let marked := (bytes.set 6 ((bytes.getD 6 0 &&& 0x0f) ||| 0x40)).set 8
    ((bytes.getD 8 0 &&& 0x3f) ||| 0x80)
  let digits := Encoding.hex marked
  let group (start count : Nat) := (digits.drop start).take count
  String.ofList (group 0 8 ++ '-' :: group 8 4 ++ '-' :: group 12 4 ++ '-' :: group 16 4 ++
    '-' :: group 20 12)

def drawIdentifier : StateM Random.Source String := fun source =>
  let (bytes, source) := source.bytes 16
  (identifierText bytes, source)

end Workflow.Intrinsic
