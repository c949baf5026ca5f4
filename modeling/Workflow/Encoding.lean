/-!
# Text encodings of bytes

Lower-case hexadecimal, the UTF-8 form of texts, and Base64 over the standard alphabet. Decoding
Base64 asks for the padding and for unused bits that are zero, so every byte list has exactly one
encoding. Bytes that are no UTF-8 can still be shown as a text: every longest beginning of a
character that is not completed becomes one replacement character.
-/

namespace Workflow.Encoding

/-- The UTF-8 bytes of a text. -/
def utf8 (text : String) : List UInt8 := text.toUTF8.data.toList

/-- The text with given UTF-8 bytes. -/
def ofUtf8? (bytes : List UInt8) : Option String :=
  String.fromUTF8? (ByteArray.mk bytes.toArray)

/-- A list of bytes is read as a text just in case it is the UTF-8 form of the text. -/
theorem ofUtf8?_eq_some_iff {bytes : List UInt8} {text : String} :
    ofUtf8? bytes = some text ↔ utf8 text = bytes := by
  rw [ofUtf8?, String.fromUTF8?]
  constructor
  · intro read
    split at read
    next valid =>
      obtain rfl := Option.some.inj read
      rfl
    next => cases read
  · rintro rfl
    exact dif_pos text.isValidUTF8

/-- Which bytes may follow the first byte of a character, and how many more come after that one. -/
def follower? (first : UInt8) : Option (UInt8 × UInt8 × Nat) :=
  if 0xC2 ≤ first && first ≤ 0xDF then some (0x80, 0xBF, 0)
  else if first = 0xE0 then some (0xA0, 0xBF, 1)
  else if first = 0xED then some (0x80, 0x9F, 1)
  else if 0xE1 ≤ first && first ≤ 0xEF then some (0x80, 0xBF, 1)
  else if first = 0xF0 then some (0x90, 0xBF, 2)
  else if 0xF1 ≤ first && first ≤ 0xF3 then some (0x80, 0xBF, 2)
  else if first = 0xF4 then some (0x80, 0x8F, 2)
  else none

/-- The longest beginning of one character at the front of bytes. -/
def firstUnit (first : UInt8) (rest : List UInt8) : List UInt8 :=
  match follower? first, rest with
  | some (low, high, more), second :: rest =>
    if low ≤ second && second ≤ high then
      first :: second :: (rest.take more).takeWhile fun byte => 0x80 ≤ byte && byte ≤ 0xBF
    else [first]
  | _, _ => [first]

/-- Shows bytes unit by unit, behind what was shown before in reverse. -/
def shownFrom (shown : List Char) : (fuel : Nat) → List UInt8 → List Char
  | fuel + 1, first :: rest =>
    let unit := firstUnit first rest
    let chars := ((ofUtf8? unit).map String.toList).getD ['\ufffd']
    shownFrom (chars.reverse ++ shown) fuel (rest.drop (unit.length - 1))
  | _, _ => shown.reverse

/-- The text that shows bytes. -/
def shown (bytes : List UInt8) : String :=
  match ofUtf8? bytes with
  | some text => text
  | none => String.ofList (shownFrom [] bytes.length bytes)

/-- A hexadecimal digit. -/
def hexChar (value : Nat) : Char :=
  if value < 10 then Char.ofNat ('0'.toNat + value) else Char.ofNat ('a'.toNat + (value - 10))

/-- The hexadecimal digits of bytes. -/
def hex (bytes : List UInt8) : List Char :=
  bytes.flatMap fun byte => [hexChar (byte.toNat / 16), hexChar (byte.toNat % 16)]

namespace Base64

/-- The digit of a value below 64. -/
def digit (value : Nat) : Char :=
  if value < 26 then Char.ofNat ('A'.toNat + value)
  else if value < 52 then Char.ofNat ('a'.toNat + (value - 26))
  else if value < 62 then Char.ofNat ('0'.toNat + (value - 52))
  else if value = 62 then '+'
  else '/'

/-- The value of a digit. -/
def value? (c : Char) : Option Nat :=
  if 'A' ≤ c ∧ c ≤ 'Z' then some (c.toNat - 'A'.toNat)
  else if 'a' ≤ c ∧ c ≤ 'z' then some (c.toNat - 'a'.toNat + 26)
  else if '0' ≤ c ∧ c ≤ '9' then some (c.toNat - '0'.toNat + 52)
  else if c = '+' then some 62
  else if c = '/' then some 63
  else none

/-- Encodes bytes, three at a time. -/
def encode : List UInt8 → List Char
  | [] => []
  | [a] => [digit (a.toNat / 4), digit (a.toNat % 4 * 16), '=', '=']
  | [a, b] =>
    [digit (a.toNat / 4), digit (a.toNat % 4 * 16 + b.toNat / 16), digit (b.toNat % 16 * 4), '=']
  | a :: b :: c :: rest =>
    digit (a.toNat / 4) :: digit (a.toNat % 4 * 16 + b.toNat / 16) ::
      digit (b.toNat % 16 * 4 + c.toNat / 64) :: digit (c.toNat % 64) :: encode rest

/-- Decodes digits, four at a time. -/
def decode? : List Char → Option (List UInt8)
  | [] => some []
  | [w, x, '=', '='] => do
    let w ← value? w
    let x ← value? x
    if x % 16 = 0 then some [(w * 4 + x / 16).toUInt8] else none
  | [w, x, y, '='] => do
    let w ← value? w
    let x ← value? x
    let y ← value? y
    if y % 4 = 0 then some [(w * 4 + x / 16).toUInt8, (x % 16 * 16 + y / 4).toUInt8] else none
  | w :: x :: y :: z :: rest => do
    let w ← value? w
    let x ← value? x
    let y ← value? y
    let z ← value? z
    let bytes ← decode? rest
    some ((w * 4 + x / 16).toUInt8 :: (x % 16 * 16 + y / 4).toUInt8 ::
      (y % 4 * 64 + z).toUInt8 :: bytes)
  | _ => none

end Base64

end Workflow.Encoding
