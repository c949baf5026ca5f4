import Workflow.Decimal.Literal

/-!
# Instants and timestamps

An instant counts seconds since the start of 1970 in UTC and nanoseconds within its second. A leap
second is the second before it with a billion or more nanoseconds, so it sorts between its
neighbours. Timestamps are read in the RFC 3339 profile: a full date and time, an optional
fraction, and an offset from UTC.
-/

namespace Workflow

/-- A point in time. -/
structure Instant where
  /-- Whole seconds since the start of 1970 in UTC. -/
  seconds : Int
  /-- Nanoseconds within the second; from a billion on they belong to a leap second. -/
  nanos : Nat
deriving DecidableEq, Inhabited

namespace Instant

/-! ## The calendar -/

/-- Whether a year has a leap day. -/
def isLeapYear (year : Int) : Bool := year % 4 = 0 && (year % 100 ≠ 0 || year % 400 = 0)

/-- The number of days in a month. -/
def daysInMonth (year : Int) (month : Nat) : Nat :=
  if month = 2 then if isLeapYear year then 29 else 28
  else if month = 4 ∨ month = 6 ∨ month = 9 ∨ month = 11 then 30
  else 31

/-- Days from the start of 1970 to a date; years are counted from March here. -/
def daysFromDate (year : Int) (month day : Nat) : Int :=
  let shifted : Int := if month ≤ 2 then year - 1 else year
  let era := shifted / 400
  let yearOfEra := shifted % 400
  let dayOfYear : Int := (153 * (((month + 9) % 12 : Nat) : Int) + 2) / 5 + day - 1
  let dayOfEra := yearOfEra * 365 + yearOfEra / 4 - yearOfEra / 100 + dayOfYear
  era * 146097 + dayOfEra - 719468

/-- The date of a number of days from the start of 1970: year, month and day. -/
def dateOfDays (days : Int) : Int × Nat × Nat :=
  let shifted := days + 719468
  let era := shifted / 146097
  let dayOfEra := shifted % 146097
  let yearOfEra := (dayOfEra - dayOfEra / 1460 + dayOfEra / 36524 - dayOfEra / 146096) / 365
  let dayOfYear := dayOfEra - (365 * yearOfEra + yearOfEra / 4 - yearOfEra / 100)
  let shiftedMonth := (5 * dayOfYear + 2) / 153
  let day := dayOfYear - (153 * shiftedMonth + 2) / 5 + 1
  let month := if shiftedMonth < 10 then shiftedMonth + 3 else shiftedMonth - 9
  let year := yearOfEra + era * 400
  (if month ≤ 2 then year + 1 else year, month.toNat, day.toNat)

/-- The greatest year that an instant can lie in. -/
def maxYear : Int := 262142

/-- The last second of the greatest year. -/
def maxSeconds : Int := (daysFromDate maxYear 12 31) * 86400 + 86399

/-- The seconds since midnight. -/
def secondOfDay (instant : Instant) : Int := instant.seconds % 86400

def before (left right : Instant) : Bool :=
  left.seconds < right.seconds || (left.seconds = right.seconds && left.nanos < right.nanos)

/-- A later instant, by a number of nanoseconds. -/
def addNanos (instant : Instant) (nanos : Nat) : Instant :=
  let total := instant.nanos + nanos
  ⟨instant.seconds + (total / 1000000000 : Nat), total % 1000000000⟩

/-- A later instant, by a number of seconds, unless it lies beyond the greatest year. -/
def addSeconds? (instant : Instant) (seconds : Nat) : Option Instant :=
  if seconds ≤ 9223372036854775 ∧ instant.seconds + seconds ≤ maxSeconds then
    some { instant with seconds := instant.seconds + seconds }
  else none

/-- The nanoseconds from one instant to a later one, zero if it is not later. A leap second counts
for the times of day after it. -/
def nanosUntil (start stop : Instant) : Nat :=
  let correction : Int :=
    if start.secondOfDay < stop.secondOfDay ∧ 1000000000 ≤ start.nanos then 1
    else if stop.secondOfDay < start.secondOfDay ∧ 1000000000 ≤ stop.nanos then -1
    else 0
  ((stop.seconds - start.seconds + correction) * 1000000000 + stop.nanos - start.nanos).toNat

/-! ## Text -/

/-- Digits of a number, filled up with zeros in front. -/
def padded (width value : Nat) : List Char :=
  let text := Decimal.digits value
  List.replicate (width - text.length) '0' ++ text

/-- The text of a year; beyond four digits it has a sign. -/
def yearChars (year : Int) : List Char :=
  if 0 ≤ year ∧ year ≤ 9999 then padded 4 year.toNat
  else (if year < 0 then '-' else '+') :: padded 4 year.natAbs

/-- The timestamp of an instant in UTC with a number of fraction digits, cut off after them. -/
def timestamp (instant : Instant) (digits : Nat) : String :=
  let (year, month, day) := dateOfDays (instant.seconds / 86400)
  let second := instant.secondOfDay.toNat
  let (seconds, nanos) :=
    if 1000000000 ≤ instant.nanos then (second % 60 + 1, instant.nanos - 1000000000)
    else (second % 60, instant.nanos)
  String.ofList <|
    yearChars year ++ '-' :: padded 2 month ++ '-' :: padded 2 day ++
    'T' :: padded 2 (second / 3600) ++ ':' :: padded 2 (second / 60 % 60) ++
    ':' :: padded 2 seconds ++ '.' :: (padded 9 nanos).take digits ++ ['Z']

/-- A number of exactly two digits. -/
def twoDigits? (a b : Char) : Option Nat :=
  if Decimal.isDigit a && Decimal.isDigit b then some (Decimal.nat [a, b]) else none

/-- The offset at the end of a timestamp, in seconds. -/
def offset? : List Char → Option Int
  | ['Z'] => some 0
  | ['z'] => some 0
  | [sign, h, h', ':', m, m'] => do
    let hours ← twoDigits? h h'
    let minutes ← twoDigits? m m'
    if 24 ≤ hours ∨ 60 ≤ minutes then none
    else
      let size : Int := hours * 3600 + minutes * 60
      if sign = '+' then some size
      else if sign = '-' ∨ sign = '−' then some (-size)
      else none
  | _ => none

/-- The nanoseconds of a fraction, if there is one, and what follows it. -/
def fraction? : List Char → Option (Nat × List Char)
  | '.' :: rest =>
    let run := rest.takeWhile Decimal.isDigit
    if run.isEmpty then none
    else
      let digits := run.take 9
      some (Decimal.nat (digits ++ List.replicate (9 - digits.length) '0'),
        rest.dropWhile Decimal.isDigit)
  | rest => some (0, rest)

/-- Reads a timestamp: the instant and the offset in seconds. -/
def parse? (text : String) : Option (Instant × Int) :=
  match text.toList with
  | y :: y' :: y'' :: y''' :: '-' :: mo :: mo' :: '-' :: d :: d' :: separator :: h :: h' :: ':' ::
      mi :: mi' :: ':' :: s :: s' :: rest => do
    let century ← twoDigits? y y'
    let yearOfCentury ← twoDigits? y'' y'''
    let year := century * 100 + yearOfCentury
    let month ← twoDigits? mo mo'
    let day ← twoDigits? d d'
    let hour ← twoDigits? h h'
    let minute ← twoDigits? mi mi'
    let second ← twoDigits? s s'
    let (nanos, rest) ← fraction? rest
    let offset ← offset? rest
    if !(separator = 'T' ∨ separator = 't' ∨ separator = ' ') then none
    else if month < 1 ∨ 12 < month ∨ day < 1 ∨ daysInMonth year month < day then none
    else if 23 < hour ∨ 59 < minute ∨ 60 < second then none
    else
      let (second, nanos) := if second = 60 then (59, nanos + 1000000000) else (second, nanos)
      let local' : Int :=
        daysFromDate year month day * 86400 + hour * 3600 + minute * 60 + second
      some (⟨local' - offset, nanos⟩, offset)
  | _ => none

end Instant

/-- A length of time in seconds and nanoseconds below a second. -/
structure Span where
  seconds : Nat
  nanos : Nat
deriving DecidableEq, Inhabited

namespace Span

def zero : Span := ⟨0, 0⟩

def ofNanos (nanos : Nat) : Span := ⟨nanos / 1000000000, nanos % 1000000000⟩

def toNanos (span : Span) : Nat := span.seconds * 1000000000 + span.nanos

/-- Whole milliseconds that cover a span. -/
def milliseconds (span : Span) : Nat := (span.toNanos + 999999) / 1000000

end Span

end Workflow
