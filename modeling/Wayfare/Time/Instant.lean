import Wayfare.Time.Calendar

/-!
Instants: a place on the time line in whole nanoseconds, seen at an offset from universal time. The
local date of an instant lies in the years -9999 to 9999.
-/
namespace Wayfare

/-- Nanoseconds; a length of time may be negative. -/
abbrev Nanoseconds := Int

/-- The nanoseconds of a second. -/
def perSecond : Nat := 1000000000

/-- The greatest distance from universal time: a second less than twenty-six hours. -/
def maxOffset : Int := 93599

/-- The first second of year -9999. -/
def firstSecond : Int := -377705116800

/-- The last second of year 9999. -/
def lastSecond : Int := 253402300799

/-- An instant, as seconds from the begin of 1970 and nanoseconds behind them. -/
structure Instant where
  seconds : Int
  nanos : Nat
  /-- Seconds by which local clocks are ahead of universal time. -/
  offset : Int := 0
  nanos_lt : nanos < perSecond
  offset_le : offset.natAbs ≤ maxOffset.natAbs
  shown : firstSecond ≤ seconds + offset ∧ seconds + offset ≤ lastSecond
  deriving DecidableEq

namespace Instant

/-- An instant at an offset, if all its parts are in range. -/
def make? (seconds : Int) (nanos : Nat) (offset : Int) : Option Instant :=
  if h : nanos < perSecond ∧ offset.natAbs ≤ maxOffset.natAbs ∧
      firstSecond ≤ seconds + offset ∧ seconds + offset ≤ lastSecond then
    some ⟨seconds, nanos, offset, h.1, h.2.1, h.2.2⟩
  else none

/-- The instant of a clock's reading in universal time, seen at an offset; the date must be in
range there and in universal time. -/
def ofUnix? (seconds : Int) (nanos : Nat) (offset : Int) : Option Instant :=
  if firstSecond ≤ seconds ∧ seconds ≤ lastSecond then make? seconds nanos offset else none

/-- The same instant in universal time, if its date is in range there. -/
def inUtc? (t : Instant) : Option Instant :=
  make? t.seconds t.nanos 0

/-- The place on the time line. -/
def line (t : Instant) : Nanoseconds :=
  t.seconds * perSecond + t.nanos

/-- The instant some time later, at the same offset. -/
def later? (t : Instant) (time : Nanoseconds) : Option Instant :=
  let place := t.line + time
  make? (place / perSecond) (place % perSecond).toNat t.offset

/-- Before another instant, whatever the offsets. -/
def before (t u : Instant) : Bool :=
  t.line < u.line

/-- Hour, minute and second of a day. -/
def clock (seconds : Int) : Nat × Nat × Nat :=
  let inDay := (seconds % 86400).toNat
  (inDay / 3600, inDay / 60 % 60, inDay % 60)

/-- The fraction of a second: no zeros at its end, but at least one digit. -/
def fraction (nanos : Nat) : String :=
  let digits := Text.dropEndZeros (Text.padded 9 nanos)
  if digits.isEmpty then "0" else digits

/-- An offset with its sign, in hours, minutes and seconds. -/
def offsetText (offset : Int) : String :=
  let n := offset.natAbs
  (if offset < 0 then "-" else "+") ++ Text.padded 2 (n / 3600) ++ ":" ++
    Text.padded 2 (n / 60 % 60) ++ ":" ++ Text.padded 2 (n % 60)

/-- The full text: local date and time, and the offset. -/
def debugText (t : Instant) : String :=
  let seen := t.seconds + t.offset
  let (hour, minute, second) := clock seen
  (Date.ofDays (seen / 86400)).text ++ " " ++ toString hour ++ ":" ++ Text.padded 2 minute ++ ":" ++
    Text.padded 2 second ++ "." ++ fraction t.nanos ++ " " ++ offsetText t.offset

/-- Date and time of the whole second, in universal time. -/
def stamp (t : Instant) : String :=
  let (hour, minute, second) := clock t.seconds
  (Date.ofDays (t.seconds / 86400)).text ++ "T" ++ Text.padded 2 hour ++ ":" ++
    Text.padded 2 minute ++ ":" ++ Text.padded 2 second ++ "+00:00"

end Instant

end Wayfare
