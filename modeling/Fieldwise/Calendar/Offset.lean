import Fieldwise.Calendar.DayNumber
import Fieldwise.Decimal.Numeral

/-!
Shifting dates by a number of days, months or years. Days are counted one by one. A shift by months
keeps the day of the month, or takes the last day of the month when the month is too short; a year
is twelve months. A shift that leaves the years that can be represented gives no date.
-/

namespace Fieldwise

/-- A unit in which dates are shifted. -/
inductive OffsetUnit where
  | days
  | months
  | years
  deriving DecidableEq, Repr

namespace OffsetUnit

/-- The unit as it is written: its plural. -/
def name : OffsetUnit → String
  | days => "days"
  | months => "months"
  | years => "years"

/-- The unit that a word stands for, in the singular or the plural. -/
def ofName? (word : String) : Option OffsetUnit :=
  if word = "days" ∨ word = "day" then some days
  else if word = "months" ∨ word = "month" then some months
  else if word = "years" ∨ word = "year" then some years
  else none

/-- What is said of a word that is no unit. -/
def unknownMessage (word : String) : String := "unknown offset unit: '" ++ word ++ "'"

theorem ofName?_name (u : OffsetUnit) : ofName? u.name = some u := by cases u <;> rfl

end OffsetUnit

namespace Date

/-- The date a number of months later, or earlier when the number is negative, with the day of the
    month cut down to the length of the month. -/
def addMonths? (d : Date) (months : Int) : Option Date :=
  let index := 12 * d.year + (d.month - 1 : Nat) + months
  let year := index / 12
  let month := (index % 12).toNat + 1
  ofParts? year month (min d.day (monthLength year month))

end Date

/-- A shift of a date by a signed amount of a unit. -/
structure Offset where
  amount : Int
  unit : OffsetUnit
  deriving DecidableEq, Repr

namespace Offset

def isZero (o : Offset) : Bool := o.amount = 0

/-- Shifts a date, if the result can be represented. -/
def shift? (o : Offset) (d : Date) : Option Date :=
  match o.unit with
  | .days => d.addDays? o.amount
  | .months => d.addMonths? o.amount
  | .years => d.addMonths? (12 * o.amount)

/-- The shift in words after an anchor: nothing when it changes nothing, else `plus` or `minus`, the
    amount without its sign, and the unit. -/
def words (o : Offset) : String :=
  if o.isZero then ""
  else (if o.amount < 0 then " minus " else " plus ") ++
    String.ofList (Numeral.natural o.amount.natAbs) ++ " " ++ o.unit.name

end Offset

end Fieldwise
