import Workflow.Decimal.Binary
import Workflow.Failure
import Workflow.Random
import Workflow.Time

/-!
# Retrying and catching

A retrier claims failures by name and says how often and after what delay to try again. Delays grow
by a factor with every retry, may be capped, and may be shortened by a random fraction. A catcher
claims failures and names the state to go on with. Retriers and catchers are looked at in order,
and how often each retrier has fired is counted by whoever runs the state.
-/

namespace Workflow

/-- One entry of a Retry list. -/
structure Retrier where
  errorEquals : List String
  intervalSeconds : Option Nat := none
  maxAttempts : Option Nat := none
  backoffRate : Option Float := none
  maxDelaySeconds : Option Nat := none
  /-- Whether delays are shortened by a random fraction, if the entry says. -/
  fullJitter : Option Bool := none
  comment : Option String := none
deriving Inhabited

/-- One entry of a Catch list. -/
structure Catcher where
  errorEquals : List String
  next : String
  /-- Where the failure is placed in the input; an explicit `null` is kept. -/
  resultPath : Option (Option String) := none
  output : Option Json := none
  assign : Option Json := none
  comment : Option String := none
deriving Inhabited

/-- Whether a list of names claims a failure. Besides names, an entry may give the text of a
cause. -/
def Failure.isClaimedBy (failure : Failure) (names : List String) : Bool :=
  names.any fun entry =>
    entry == Reserved.all.name ||
    (entry == Reserved.taskFailed.name && !failure.has .timeout) ||
    entry == failure.name || failure.cause == some entry

/-! ## Powers and spans -/

/-- Repeated squaring: multiplies in the powers for the set bits of an exponent. -/
def powerFrom : (fuel : Nat) → (result base : Float) → (exponent : Nat) → Float
  | 0, result, _, _ => result
  | fuel + 1, result, base, exponent =>
    let result := if exponent % 2 = 1 then result * base else result
    if exponent / 2 = 0 then result else powerFrom fuel result (base * base) (exponent / 2)

def power (base : Float) (exponent : Nat) : Float := powerFrom 64 1.0 base exponent

/-- The integer nearest to a quotient, and the even one of two. -/
def roundedQuotient (dividend divisor : Nat) : Nat :=
  let whole := dividend / divisor
  let twice := 2 * (dividend % divisor)
  if twice < divisor then whole
  else if divisor < twice then whole + 1
  else whole + whole % 2

/-- A number of seconds as a span, to the nearest nanosecond. Below zero and from `2 ^ 64` on there
is no span. -/
def Span.ofSeconds? (seconds : Float) : Option Span :=
  if !seconds.isFinite || seconds < 0.0 || 18446744073709551616.0 ≤ seconds then none
  else
    let size := Decimal.magnitudeOf seconds
    let scaled := size.significand * 1000000000
    some <| .ofNanos <|
      if 0 ≤ size.exponent then scaled <<< size.exponent.toNat
      else roundedQuotient scaled (1 <<< size.exponent.natAbs)

/-! ## Retriers -/

namespace Retrier

/-- How many retries a retrier allows. -/
def attempts (retrier : Retrier) : Nat := retrier.maxAttempts.getD 3

/-- The first delay in seconds. -/
def interval (retrier : Retrier) : Nat := retrier.intervalSeconds.getD 1

/-- The factor between one delay and the next. -/
def rate (retrier : Retrier) : Float := retrier.backoffRate.getD 2.0

/-- Whether delays are shortened by a random fraction. -/
def jitters (retrier : Retrier) : Bool := retrier.fullJitter.getD false

/-- The greatest exponent that a delay is computed with. -/
def maxExponent : Nat := 2147483647

/-- The smaller of two floats; the second one when the first is no number. -/
def atMost (value cap : Float) : Float := if value.isNaN || cap < value then cap else value

/-- The delay in seconds after a number of retries, before any jitter. -/
def baseDelay (retrier : Retrier) (used : Nat) : Float :=
  let delay := Float.ofNat retrier.interval * power retrier.rate (min used maxExponent)
  match retrier.maxDelaySeconds with
  | some cap => atMost delay (Float.ofNat cap)
  | none => delay

/-- A number of seconds as a delay; what is no span is no delay. -/
def spanOf (seconds : Float) : Span := (Span.ofSeconds? seconds).getD .zero

/-- The delay after a number of retries. -/
def delay (retrier : Retrier) (used : Nat) : StateM Random.Source Span := fun source =>
  if retrier.jitters then
    let (fraction, source) := source.fraction
    (spanOf (retrier.baseDelay used * fraction), source)
  else (spanOf (retrier.baseDelay used), source)

end Retrier

/-! ## Plans -/

/-- What the retriers of a state would do with a failure. -/
structure RetryPlan where
  /-- The place of the retrier that claims the failure. -/
  retrier : Option Nat
  /-- The number of the retry that would come next, from one on. -/
  attempt : Nat
  delay : Span
  /-- Whether the retrier has retries left. -/
  wouldRetry : Bool
deriving DecidableEq, Inhabited

/-- The first retrier that claims a failure, with its place. -/
def claimant? (failure : Failure) (place : Nat) : List Retrier → Option (Nat × Retrier)
  | [] => none
  | retrier :: rest =>
    if failure.isClaimedBy retrier.errorEquals then some (place, retrier)
    else claimant? failure (place + 1) rest

/-- Plans a retry, given how often each retrier has fired. The delay is drawn even when the retrier
has no retries left. -/
def planRetry (retriers : List Retrier) (counts : List Nat) (failure : Failure) :
    StateM Random.Source RetryPlan := fun source =>
  match claimant? failure 0 retriers with
  | none => (⟨none, 1, .zero, false⟩, source)
  | some (place, retrier) =>
    let used := counts.getD place 0
    let (delay, source) := retrier.delay used source
    (⟨some place, used + 1, delay, decide (used < retrier.attempts)⟩, source)

/-- The first catcher that claims a failure. -/
def findCatcher (catchers : List Catcher) (failure : Failure) : Option Catcher :=
  catchers.find? fun catcher => failure.isClaimedBy catcher.errorEquals

end Workflow
