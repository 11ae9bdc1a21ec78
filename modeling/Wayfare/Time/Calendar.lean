import Wayfare.Text.Digits

/-!
The Gregorian calendar, extended to all years. Dates are counted in days from 1 January 1970.
-/
namespace Wayfare

/-- A day of the calendar; the year before year one is year zero. -/
structure Date where
  year : Int
  month : Nat
  day : Nat
  deriving DecidableEq, Repr

namespace Date

/-- The days in four hundred years. -/
def cycleDays : Nat := 146097

/-- The days from 1 March of year zero to 1 January 1970. -/
def epochShift : Int := 719468

/-- The year within a cycle of four hundred, counted from March, that holds a day of the cycle. -/
def yearOfCycle (day : Nat) : Nat :=
  (day - day / 1460 + day / 36524 - day / 146096) / 365

/-- The days of a cycle before one of its years. -/
def daysBeforeYear (year : Nat) : Nat :=
  365 * year + year / 4 - year / 100

/-- The days of a year, counted from March, before its `m`-th month. -/
def daysBeforeMonth (m : Nat) : Nat :=
  (153 * m + 2) / 5

/-- The date of a day. -/
def ofDays (days : Int) : Date :=
  let shifted := days + epochShift
  let cycle := shifted / (cycleDays : Int)
  let inCycle := (shifted % (cycleDays : Int)).toNat
  let year := yearOfCycle inCycle
  let inYear := inCycle - daysBeforeYear year
  let m := (5 * inYear + 2) / 153
  let month := if m < 10 then m + 3 else m - 9
  ⟨400 * cycle + year + (if month ≤ 2 then 1 else 0), month, inYear - daysBeforeMonth m + 1⟩

/-- The day of a date. -/
def toDays (d : Date) : Int :=
  let year := if d.month ≤ 2 then d.year - 1 else d.year
  let m := if 2 < d.month then d.month - 3 else d.month + 9
  year / 400 * cycleDays + daysBeforeYear (year % 400).toNat + daysBeforeMonth m + d.day - 1 -
    epochShift

/-- Year, month and day, between hyphens; the year has four digits, behind a sign if it is
negative. -/
def text (d : Date) : String :=
  (if d.year < 0 then "-" else "") ++ Text.padded 4 d.year.natAbs ++ "-" ++ Text.padded 2 d.month ++ "-" ++
    Text.padded 2 d.day

end Date

end Wayfare
