/-!
# Calendar Dates

Dates of the Gregorian calendar, extended to all years, with a year zero before the
year one. A date steps to the next one or back to the one before it, and is found from
the number of days since the first day of 1970.

## Main definitions

* `Date`: Year, month and day.
* `Date.IsValid`: The day exists.
* `Date.next`, `Date.previous`: The neighbours of a date.
* `Date.ofDays`: The date so many days after the first of January 1970.
-/

namespace Replatform

/-- A day of the calendar. -/
structure Date where
  year : Int
  month : Nat
  day : Nat
deriving DecidableEq, Repr, Inhabited

namespace Date

/-- The year has a 29th of February. -/
def isLeapYear (year : Int) : Bool :=
  year % 4 == 0 && (year % 100 != 0 || year % 400 == 0)

/-- The number of days of a month. -/
def daysInMonth (year : Int) (month : Nat) : Nat :=
  if month = 2 then (if isLeapYear year then 29 else 28)
  else if month = 4 ∨ month = 6 ∨ month = 9 ∨ month = 11 then 30
  else 31

/-- The first year that dates are kept for. -/
def firstYear : Int := -262143

/-- The last year that dates are kept for. -/
def lastYear : Int := 262142

/-- The day exists, and lies in the years that dates are kept for. -/
def IsValid (d : Date) : Prop :=
  firstYear ≤ d.year ∧ d.year ≤ lastYear ∧ 1 ≤ d.month ∧ d.month ≤ 12 ∧ 1 ≤ d.day ∧
    d.day ≤ daysInMonth d.year d.month

instance (d : Date) : Decidable d.IsValid :=
  inferInstanceAs (Decidable (_ ∧ _))

/-- The day after a date. -/
def next (d : Date) : Date :=
  if d.day < daysInMonth d.year d.month then { d with day := d.day + 1 }
  else if d.month < 12 then { d with month := d.month + 1, day := 1 }
  else { year := d.year + 1, month := 1, day := 1 }

/-- The day before a date. -/
def previous (d : Date) : Date :=
  if 1 < d.day then { d with day := d.day - 1 }
  else if 1 < d.month then
    { d with month := d.month - 1, day := daysInMonth d.year (d.month - 1) }
  else { year := d.year - 1, month := 12, day := 31 }

/-- The month and day of the day number `rest` of a year that begins in March. -/
def inMarchYear (rest : Nat) : Nat × Nat :=
  let m := (5 * rest + 2) / 153
  (if m < 10 then m + 3 else m - 9, rest - (153 * m + 2) / 5 + 1)

/-- The date `days` days after the first of January 1970. Days are counted in spans of 400
    years, which all have the same length, and years from March on, so that the day that
    a leap year adds is their last. -/
def ofDays (days : Int) : Date :=
  let shifted := days + 719468
  let span := shifted / 146097
  let inSpan := (shifted % 146097).toNat
  let year := (inSpan - inSpan / 1460 + inSpan / 36524 - inSpan / 146096) / 365
  let (month, day) := inMarchYear (inSpan - (365 * year + year / 4 - year / 100))
  { year := span * 400 + year + (if month ≤ 2 then 1 else 0), month, day }

end Date

end Replatform
