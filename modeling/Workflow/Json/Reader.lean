import Workflow.Json
import Workflow.Decimal.Literal

/-!
# Reading JSON

`Json.parse?` reads one document that fills its text. Members are sorted by key and a repeated
key keeps its last value. Containers may be nested at most `Json.maxDepth` deep.

An integer literal becomes an unsigned or signed 64-bit integer where it fits and a float
otherwise; the literal `-0` is the float minus zero. A float is computed from the leading digits
that fit into 64 bits by one multiplication with, or division by, a power of ten, so that it may
differ from the nearest double in its last place. A literal beyond the range of doubles is refused.
-/

namespace Workflow

namespace Number

/-- The largest significand that the digits of a literal are collected into. -/
def maxSignificand : Nat := 18446744073709551615

/-- A significand, the power of ten of its last digit, and the text after the digits. -/
structure Significand where
  value : Nat
  exponent : Int
  rest : List Char

/-- Collects whole digits; once the significand is full the others only raise the exponent. -/
def collectWhole (value : Nat) (dropped : Nat) : List Char → Significand
  | [] => ⟨value, dropped, []⟩
  | c :: rest =>
    if !Decimal.isDigit c then ⟨value, dropped, c :: rest⟩
    else if dropped = 0 ∧ value * 10 + Decimal.digitValue c ≤ maxSignificand then
      collectWhole (value * 10 + Decimal.digitValue c) 0 rest
    else collectWhole value (dropped + 1) rest

/-- Collects digits after the point; once the significand is full the others are dropped. -/
def collectFraction (value : Nat) (exponent : Int) (full : Bool) : List Char → Significand
  | [] => ⟨value, exponent, []⟩
  | c :: rest =>
    if !Decimal.isDigit c then ⟨value, exponent, c :: rest⟩
    else if !full && value * 10 + Decimal.digitValue c ≤ maxSignificand then
      collectFraction (value * 10 + Decimal.digitValue c) (exponent - 1) false rest
    else collectFraction value exponent true rest

/-- Ten to a power of at most 308. -/
def powerOfTen (exponent : Nat) : Float := Float.ofScientific 1 false exponent

/-- Divides by `10 ^ 308` until the remaining exponent has a power of ten of its own. -/
def scaleDown : (fuel : Nat) → (value : Float) → (exponent : Nat) → Float
  | 0, value, _ => value
  | fuel + 1, value, exponent =>
    if exponent ≤ 308 then value / powerOfTen exponent
    else if value == 0.0 then value
    else scaleDown fuel (value / powerOfTen 308) (exponent - 308)

/-- `significand * 10 ^ exponent` as a double, refused when it is beyond the range of doubles. -/
def scale? (significand : Nat) (exponent : Int) : Option Float :=
  let value := Float.ofNat significand
  if exponent < 0 then some (scaleDown 8 value exponent.natAbs)
  else if exponent ≤ 308 then
    let scaled := value * powerOfTen exponent.natAbs
    if scaled.isFinite then some scaled else none
  else if significand = 0 then some value
  else none

/-- The exponent of a literal that stops the reader from adding digits. -/
def maxExponent : Nat := 2147483647

/-- An exponent after its letter: an optional sign and at least one digit. -/
def readExponent? (text : List Char) : Option (Int × List Char) :=
  let (negative, unsigned) := match text with
    | '-' :: rest => (true, rest)
    | '+' :: rest => (false, rest)
    | _ => (false, text)
  let run := unsigned.takeWhile Decimal.isDigit
  if run.isEmpty then none
  else
    let size := min (Decimal.nat run) maxExponent
    some (if negative then -(size : Int) else size, unsigned.dropWhile Decimal.isDigit)

/-- Whether the first digits of a text are those of a whole part: no zero before another digit. -/
def startsWhole : List Char → Bool
  | '0' :: c :: _ => !Decimal.isDigit c
  | c :: _ => Decimal.isDigit c
  | [] => false

/-- Reads an unsigned literal, giving its sign to the result. -/
def readUnsigned? (negative : Bool) (text : List Char) : Option (Number × List Char) :=
  if !startsWhole text then none
  else
    let signed (value : Float) : Number := .float (if negative then -value else value)
    let whole := collectWhole 0 0 text
    let withExponent (collected : Significand) : Option (Number × List Char) :=
      match collected.rest with
      | c :: rest =>
        if c == 'e' || c == 'E' then do
          let (exponent, rest) ← readExponent? rest
          let value ← scale? collected.value (collected.exponent + exponent)
          return (signed value, rest)
        else do
          let value ← scale? collected.value collected.exponent
          return (signed value, c :: rest)
      | [] => do
        let value ← scale? collected.value collected.exponent
        return (signed value, [])
    match whole.rest with
    | '.' :: c :: rest =>
      if Decimal.isDigit c then
        withExponent (collectFraction whole.value whole.exponent false (c :: rest))
      else none
    | ['.'] => none
    | rest =>
      if whole.exponent ≠ 0 || rest.head? == some 'e' || rest.head? == some 'E' then
        withExponent whole
      else if !negative then some (.int whole.value, rest)
      else if 0 < whole.value && whole.value ≤ 9223372036854775808 then
        some (.int (-(whole.value : Int)), rest)
      else some (signed (Float.ofNat whole.value), rest)

/-- Reads a number literal from the front of a text. -/
def read? : List Char → Option (Number × List Char)
  | '-' :: rest => readUnsigned? true rest
  | text => readUnsigned? false text

end Number

namespace Json

/-- How deep containers may be nested. -/
def maxDepth : Nat := 127

/-- The blanks of JSON. -/
def isBlank (c : Char) : Bool := c == ' ' || c == '\t' || c == '\n' || c == '\r'

/-- Drops the blanks at the front of a text. -/
def skipBlanks : List Char → List Char
  | [] => []
  | c :: rest => if isBlank c then skipBlanks rest else c :: rest

/-- The value of a hexadecimal digit. -/
def hexValue? (c : Char) : Option Nat :=
  if '0' ≤ c && c ≤ '9' then some (c.toNat - '0'.toNat)
  else if 'a' ≤ c && c ≤ 'f' then some (c.toNat - 'a'.toNat + 10)
  else if 'A' ≤ c && c ≤ 'F' then some (c.toNat - 'A'.toNat + 10)
  else none

/-- The value of four hexadecimal digits. -/
def hexUnit? (a b c d : Char) : Option Nat := do
  let a ← hexValue? a
  let b ← hexValue? b
  let c ← hexValue? c
  let d ← hexValue? d
  return ((a * 16 + b) * 16 + c) * 16 + d

/-- The character that a one-letter escape stands for. -/
def escapedChar? : Char → Option Char
  | '"' => some '"'
  | '\\' => some '\\'
  | '/' => some '/'
  | 'b' => some '\x08'
  | 'f' => some '\x0c'
  | 'n' => some '\n'
  | 'r' => some '\r'
  | 't' => some '\t'
  | _ => none

/-- The rest of a string after its opening quote, and the text after its closing quote. -/
def readString? : List Char → Option (List Char × List Char)
  | [] => none
  | '"' :: rest => some ([], rest)
  | '\\' :: 'u' :: a :: b :: c :: d :: rest =>
    match hexUnit? a b c d with
    | none => none
    | some unit =>
      if unit < 0xD800 || 0xDFFF < unit then
        (readString? rest).map fun (chars, tail) => (Char.ofNat unit :: chars, tail)
      else if 0xDBFF < unit then none
      else
        match rest with
        | '\\' :: 'u' :: a' :: b' :: c' :: d' :: rest' =>
          match hexUnit? a' b' c' d' with
          | none => none
          | some low =>
            if low < 0xDC00 || 0xDFFF < low then none
            else
              let point := 0x10000 + (unit - 0xD800) * 0x400 + (low - 0xDC00)
              (readString? rest').map fun (chars, tail) => (Char.ofNat point :: chars, tail)
        | _ => none
  | '\\' :: c :: rest =>
    match escapedChar? c with
    | none => none
    | some plain => (readString? rest).map fun (chars, tail) => (plain :: chars, tail)
  | c :: rest =>
    if c.toNat < 32 || c == '\\' then none
    else (readString? rest).map fun (chars, tail) => (c :: chars, tail)

/-- The text after a given beginning. -/
def dropStart? : List Char → List Char → Option (List Char)
  | [], text => some text
  | _ :: _, [] => none
  | c :: start, d :: text => if c = d then dropStart? start text else none

mutual

/-- Reads a value; `depth` bounds the nesting and `fuel` the number of steps. -/
def readValue? (fuel depth : Nat) (text : List Char) : Option (Json × List Char) :=
  match fuel with
  | 0 => none
  | fuel + 1 =>
    match skipBlanks text with
    | [] => none
    | '"' :: rest =>
      (readString? rest).map fun (chars, tail) => (.string (String.ofList chars), tail)
    | '[' :: rest =>
      if depth = 0 then none
      else
        match skipBlanks rest with
        | ']' :: tail => some (.array [], tail)
        | _ => (readItems? fuel (depth - 1) rest).map fun (items, tail) => (.array items, tail)
    | '\x7b' :: rest =>
      if depth = 0 then none
      else
        match skipBlanks rest with
        | '\x7d' :: tail => some (.object [], tail)
        | _ =>
          (readMembers? fuel (depth - 1) rest).map fun (members, tail) => (ofMembers members, tail)
    | 'n' :: rest => (dropStart? ['u', 'l', 'l'] rest).map fun tail => (.null, tail)
    | 't' :: rest => (dropStart? ['r', 'u', 'e'] rest).map fun tail => (.bool true, tail)
    | 'f' :: rest => (dropStart? ['a', 'l', 's', 'e'] rest).map fun tail => (.bool false, tail)
    | start => (Number.read? start).map fun (value, tail) => (.number value, tail)

/-- Reads the items of an array up to its closing bracket. -/
def readItems? (fuel depth : Nat) (text : List Char) : Option (List Json × List Char) :=
  match fuel with
  | 0 => none
  | fuel + 1 =>
    match readValue? fuel depth text with
    | none => none
    | some (item, rest) =>
      match skipBlanks rest with
      | ']' :: tail => some ([item], tail)
      | ',' :: tail => (readItems? fuel depth tail).map fun (items, tail) => (item :: items, tail)
      | _ => none

/-- Reads the members of an object up to its closing brace, in document order. -/
def readMembers? (fuel depth : Nat) (text : List Char) :
    Option (List (String × Json) × List Char) :=
  match fuel with
  | 0 => none
  | fuel + 1 =>
    match skipBlanks text with
    | '"' :: rest =>
      match readString? rest with
      | none => none
      | some (key, rest) =>
        match skipBlanks rest with
        | ':' :: rest =>
          match readValue? fuel depth rest with
          | none => none
          | some (value, rest) =>
            match skipBlanks rest with
            | '\x7d' :: tail => some ([(String.ofList key, value)], tail)
            | ',' :: tail =>
              (readMembers? fuel depth tail).map fun (members, tail) =>
                ((String.ofList key, value) :: members, tail)
            | _ => none
        | _ => none
    | _ => none

end

/-- Reads a document that fills the whole text. -/
def parseChars? (text : List Char) : Option Json :=
  match readValue? (2 * text.length + 2) maxDepth text with
  | some (document, rest) => if (skipBlanks rest).isEmpty then some document else none
  | none => none

/-- Reads a document that fills the whole text. -/
def parse? (text : String) : Option Json := parseChars? text.toList

/-- The members of the object that a text begins with, in document order and with repeated keys. -/
def rawMembers? (text : String) : Option (List (String × Json)) :=
  match skipBlanks text.toList with
  | '\x7b' :: rest => (readMembers? (2 * text.length + 2) (maxDepth - 1) rest).map Prod.fst
  | _ => none

end Json

end Workflow
