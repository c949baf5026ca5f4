/-!
# Decimal literals

Reading and writing decimal text. Natural numbers are written without leading zeros and read back
from any run of digits. `Decimal.signed?` reads a signed 64-bit integer and refuses what does not
fit. `Decimal.float?` reads the nearest double of a decimal literal; it also knows the words for
infinity and NaN, a leading plus sign, and a point with digits on only one side.
-/

namespace Workflow.Decimal

/-- Whether a character is an ASCII digit. -/
def isDigit (c : Char) : Bool := '0' ≤ c && c ≤ '9'

/-- The value of an ASCII digit. -/
def digitValue (c : Char) : Nat := c.toNat - '0'.toNat

/-- The digit of a value below ten. -/
def digitChar (value : Nat) : Char := Char.ofNat ('0'.toNat + value)

/-- The decimal digits of a natural number, without leading zeros. -/
def digits (value : Nat) : List Char :=
  if value < 10 then [digitChar value] else digits (value / 10) ++ [digitChar (value % 10)]
termination_by value

/-- The number a run of digits stands for, continuing from digits read before. -/
def natFrom (start : Nat) : List Char → Nat
  | [] => start
  | c :: rest => natFrom (start * 10 + digitValue c) rest

/-- The number a run of digits stands for. -/
def nat (text : List Char) : Nat := natFrom 0 text

/-- The decimal text of an integer. -/
def integer (value : Int) : List Char :=
  if value < 0 then '-' :: digits value.natAbs else digits value.natAbs

/-- The decimal text of a natural number, as a string. -/
def natText (value : Nat) : String := String.ofList (digits value)

def integerText (value : Int) : String := String.ofList (integer value)

/-- A nonempty run of digits with an optional sign. -/
def signedDigits? : List Char → Option Int
  | '-' :: rest => if rest.isEmpty || !rest.all isDigit then none else some (-(nat rest : Int))
  | '+' :: rest => if rest.isEmpty || !rest.all isDigit then none else some (nat rest)
  | text => if text.isEmpty || !text.all isDigit then none else some (nat text)

/-- A signed 64-bit integer: an optional sign and digits, in range. -/
def signed? (text : List Char) : Option Int :=
  match signedDigits? text with
  | some value =>
    if -9223372036854775808 ≤ value ∧ value ≤ 9223372036854775807 then some value else none
  | none => none

/-- The double nearest to `mantissa * 10 ^ exponent`; far exponents give infinity or zero. -/
def scaled (mantissa : Nat) (exponent : Int) : Float :=
  let magnitude : Int := (digits mantissa).length + exponent
  if mantissa = 0 then 0.0
  else if magnitude > 400 then Float.ofScientific 1 false 999
  else if magnitude < -400 then 0.0
  else if exponent < 0 then Float.ofScientific mantissa true exponent.natAbs
  else Float.ofScientific mantissa false exponent.natAbs

/-- The exponent part of a literal: nothing, or `e` with an optional sign and digits. -/
def exponent? : List Char → Option Int
  | [] => some 0
  | c :: rest => if c == 'e' || c == 'E' then signedDigits? rest else none

/-- The magnitude of an unsigned decimal literal with optional fraction and exponent. -/
def unsignedFloat? (text : List Char) : Option Float :=
  let whole := text.takeWhile isDigit
  let afterWhole := text.dropWhile isDigit
  let (fraction, tail) :=
    match afterWhole with
    | '.' :: rest => (rest.takeWhile isDigit, rest.dropWhile isDigit)
    | _ => ([], afterWhole)
  if whole.isEmpty && fraction.isEmpty then none
  else
    (exponent? tail).map fun exponent =>
      scaled (nat (whole ++ fraction)) (exponent - fraction.length)

/-- A magnitude in digits or in words, whatever the case of the words. -/
def magnitude? (text : List Char) : Option Float :=
  match String.ofList (text.map Char.toLower) with
  | "inf" | "infinity" => some (1.0 / 0.0)
  | "nan" => some (0.0 / 0.0)
  | _ => unsignedFloat? text

/-- The double nearest to a decimal literal with an optional sign. -/
def float? : List Char → Option Float
  | '-' :: rest => (magnitude? rest).map fun value => -value
  | '+' :: rest => magnitude? rest
  | text => magnitude? text

end Workflow.Decimal
