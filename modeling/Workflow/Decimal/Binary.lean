/-!
# The binary form of a double

A finite double is a sign and `significand * 2 ^ exponent`. From this form its integral part and
its floor are computed exactly, on integers.
-/

namespace Workflow.Decimal

/-- The magnitude of a finite double as `significand * 2 ^ exponent`, with the gap below it. -/
structure Binary where
  significand : Nat
  exponent : Int
  /-- Whether the gap to the next smaller double is half the gap to the next larger one. -/
  narrowBelow : Bool

/-- Decodes the magnitude of a finite double from its bits. -/
def Binary.ofBits (bits : UInt64) : Binary :=
  let fraction := (bits &&& 0xFFFFFFFFFFFFF).toNat
  let field := ((bits >>> 52) &&& 0x7FF).toNat
  if field = 0 then ⟨fraction, -1074, false⟩
  else ⟨fraction + 4503599627370496, (field : Int) - 1075, fraction = 0 && field > 1⟩

/-- Whether a double has its sign bit set. -/
def isNegative (value : Float) : Bool := value.toBits >>> 63 = 1

def magnitudeOf (value : Float) : Binary := .ofBits (value.toBits &&& 0x7FFFFFFFFFFFFFFF)

/-- The integer a finite double is equal to, if there is one. -/
def integral? (value : Float) : Option Int :=
  if !value.isFinite then none
  else
    let magnitude := magnitudeOf value
    let whole : Option Nat :=
      if 0 ≤ magnitude.exponent then some (magnitude.significand <<< magnitude.exponent.toNat)
      else
        let unit := 1 <<< magnitude.exponent.natAbs
        if magnitude.significand % unit = 0 then some (magnitude.significand / unit) else none
    whole.map fun size => if isNegative value then -(size : Int) else size

/-- The greatest integer that is not above a finite double. -/
def floor? (value : Float) : Option Int :=
  if !value.isFinite then none
  else
    let magnitude := magnitudeOf value
    let signed : Int :=
      if isNegative value then -(magnitude.significand : Int) else magnitude.significand
    if 0 ≤ magnitude.exponent then some (signed * (1 <<< magnitude.exponent.toNat : Nat))
    else some (signed / (1 <<< magnitude.exponent.natAbs : Nat))

end Workflow.Decimal
