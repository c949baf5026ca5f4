import Workflow.Decimal.Binary
import Workflow.Decimal.Literal

/-!
# Shortest decimal text of a double

A finite double is `m * 2 ^ q`. The reals that round to it form an interval around it, closed when
`m` is even. Among the decimal grids `10 ^ k`, from coarse to fine, the first one with a point in
that interval gives the fewest digits; of two points in the interval the nearer one is taken, and
the even one when both are equally near. All arithmetic is exact, on natural numbers.

The text of the digits is a format decision: positional notation with at least one decimal when
the decimal exponent lies in `-5 … 15`, otherwise scientific notation with a signed exponent.
-/

namespace Workflow.Decimal

/-- `base ^ exponent` when the exponent is positive, else one. -/
def positivePower (base : Nat) (exponent : Int) : Nat := Nat.pow base exponent.toNat

/-- The reals that round to a double, as multiples of a quarter of its last place. -/
structure Interval where
  lower : Nat
  center : Nat
  upper : Nat
  closed : Bool

/-- The rounding interval of a double, in quarters of `2 ^ exponent`. -/
def Binary.interval (value : Binary) : Interval where
  lower := 4 * value.significand - (if value.narrowBelow then 1 else 2)
  center := 4 * value.significand
  upper := 4 * value.significand + 2
  closed := value.significand % 2 = 0

/-- Whether the point `point`, measured in the same unit, rounds to the double. -/
def Interval.contains (interval : Interval) (unit point : Nat) : Bool :=
  if interval.closed then interval.lower * unit ≤ point && point ≤ interval.upper * unit
  else interval.lower * unit < point && point < interval.upper * unit

/-- The point of the grid `10 ^ place` that is nearest to the double and rounds to it. -/
def Binary.onGrid? (value : Binary) (place : Int) : Option Nat :=
  let interval := value.interval
  let step := positivePower 10 place * positivePower 2 (2 - value.exponent)
  let unit := positivePower 10 (-place) * positivePower 2 (value.exponent - 2)
  let center := interval.center * unit
  let below := center / step
  let lowFits := 0 < below && interval.contains unit (below * step)
  let highFits := interval.contains unit ((below + 1) * step)
  let lowGap := center - below * step
  let highGap := (below + 1) * step - center
  if lowFits && highFits then
    if lowGap < highGap then some below
    else if highGap < lowGap then some (below + 1)
    else if below % 2 = 0 then some below else some (below + 1)
  else if lowFits then some below
  else if highFits then some (below + 1)
  else none

/-- The first grid with a fitting point, from `place` downwards. -/
def Binary.search (value : Binary) : (fuel : Nat) → (place : Int) → Nat × Int
  | 0, place => (value.significand, place)
  | fuel + 1, place =>
    match value.onGrid? place with
    | some point => (point, place)
    | none => value.search fuel (place - 1)

/-- Digits and the power of ten of the last one, with trailing zeros moved into the power. -/
def dropZeros : (fuel : Nat) → Nat × Int → Nat × Int
  | 0, decimal => decimal
  | fuel + 1, (point, place) =>
    if point ≠ 0 ∧ point % 10 = 0 then dropZeros fuel (point / 10, place + 1) else (point, place)

/-- The shortest decimal `point * 10 ^ place` that rounds to a positive double. -/
def Binary.shortest (value : Binary) : Nat × Int :=
  let bitLength : Int := Nat.log2 value.significand + 1
  let estimate := (bitLength + value.exponent) * 30103 / 100000 + 2
  dropZeros 20 (value.search 24 estimate)

def zeros (count : Nat) : List Char := List.replicate count '0'

/-- The text of `point * 10 ^ place` in the format described above. -/
def layout (point : Nat) (place : Int) : List Char :=
  let text := digits point
  let exponent : Int := text.length - 1 + place
  if -5 ≤ exponent ∧ exponent ≤ 15 then
    if 0 ≤ place then text ++ zeros place.toNat ++ ['.', '0']
    else if exponent < 0 then ['0', '.'] ++ zeros (-exponent - 1).toNat ++ text
    else text.take (exponent + 1).toNat ++ ['.'] ++ text.drop (exponent + 1).toNat
  else
    let fraction := match text.drop 1 with
      | [] => []
      | rest => '.' :: rest
    let sign := if exponent < 0 then '-' else '+'
    text.take 1 ++ fraction ++ ['e', sign] ++ digits exponent.natAbs

/-- The text of a finite double. -/
def floatChars (value : Float) : List Char :=
  let bits := value.toBits
  let sign := if bits >>> 63 = 1 then ['-'] else []
  let magnitude := Binary.ofBits (bits &&& 0x7FFFFFFFFFFFFFFF)
  if magnitude.significand = 0 then sign ++ ['0', '.', '0']
  else
    let (point, place) := magnitude.shortest
    sign ++ layout point place

/-- The text of a finite double, as a string. -/
def floatText (value : Float) : String := String.ofList (floatChars value)

/-- The text of a finite double without any exponent, and without a fraction if it is whole. -/
def plainText (value : Float) : String :=
  let sign := if isNegative value then ['-'] else []
  let magnitude := magnitudeOf value
  String.ofList <| sign ++
    if magnitude.significand = 0 then ['0']
    else
      let (point, place) := magnitude.shortest
      let text := digits point
      let whole : Int := text.length + place
      if 0 ≤ place then text ++ zeros place.toNat
      else if whole ≤ 0 then ['0', '.'] ++ zeros (-whole).toNat ++ text
      else text.take whole.toNat ++ ['.'] ++ text.drop whole.toNat

end Workflow.Decimal
