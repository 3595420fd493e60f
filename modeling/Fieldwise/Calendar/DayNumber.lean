import Fieldwise.Calendar.Date

/-!
Counting days. `Date.dayNumber` numbers the days of the calendar without gaps, the first day of the
year one being day 1, and `Date.ofDayNumber?` finds the day that has a given number.
-/

namespace Fieldwise

/-- The number of days from the first day of the year one to the first day of `year`, negative for
    the years before it. -/
def daysBeforeYear (year : Int) : Int :=
  365 * (year - 1) + (year - 1) / 4 - (year - 1) / 100 + (year - 1) / 400

/-- The number of days of the year that lie before a month. -/
def daysBeforeMonth (year : Int) : (month : Nat) → Nat
  | 0 => 0
  | month + 1 => daysBeforeMonth year month + monthLength year month

/-- The year in which a day number falls: whole cycles of 400 years first, then centuries, then
    groups of four years, then years; the last day of a cycle and of a group belongs to its last
    century and its last year. -/
def yearOfDayNumber (n : Int) : Int :=
  let cycle := (n - 1) / 146097
  let inCycle := (n - 1) % 146097
  let century := min (inCycle / 36524) 3
  let inCentury := inCycle - 36524 * century
  let group := inCentury / 1461
  let inGroup := inCentury % 1461
  let year := min (inGroup / 365) 3
  400 * cycle + 100 * century + 4 * group + year + 1

/-- The month and day of the day with number `ordinal` in its year, looked for from `month` on when
    `ordinal` counts from the start of that month; `count` months are left to look at. -/
def monthAndDay (year : Int) : (count month ordinal : Nat) → Nat × Nat
  | 0, month, ordinal => (month, ordinal)
  | count + 1, month, ordinal =>
    if ordinal ≤ monthLength year month then (month, ordinal)
    else monthAndDay year count (month + 1) (ordinal - monthLength year month)

namespace Date

/-- The number of the day, counted from the first day of the year one, which is day 1. -/
def dayNumber (d : Date) : Int :=
  daysBeforeYear d.year + daysBeforeMonth d.year d.month + d.day

/-- The date with a given day number, if its year can be represented. -/
def ofDayNumber? (n : Int) : Option Date :=
  let year := yearOfDayNumber n
  let (month, day) := monthAndDay year 11 1 (n - daysBeforeYear year).toNat
  ofParts? year month day

/-- The date a number of days later, or earlier when the number is negative. -/
def addDays? (d : Date) (days : Int) : Option Date := ofDayNumber? (d.dayNumber + days)

end Date

example : (Date.ofParts? 1970 1 1).map Date.dayNumber = some 719163 := by decide

end Fieldwise
