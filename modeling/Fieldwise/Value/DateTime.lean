import Fieldwise.Calendar.Date
import Fieldwise.Decimal.Numeral

/-!
Dates and times of day as text. A year between 0 and 9999 takes four digits; any other year has a
sign and at least four digits.
-/

namespace Fieldwise

/-- A time of day to the nanosecond. From a thousand million nanoseconds on, the time lies in a leap
    second. -/
structure TimeOfDay where
  hour : Fin 24
  minute : Fin 60
  second : Fin 60
  nanosecond : Fin 2000000000
  deriving DecidableEq

/-- A date and a time of day. -/
structure DateTime where
  date : Date
  time : TimeOfDay
  deriving DecidableEq

/-- The year as dates are written. -/
def yearText (year : Int) : List Char :=
  if 0 ≤ year ∧ year ≤ 9999 then Numeral.padded 4 year.toNat
  else (if year < 0 then '-' else '+') :: Numeral.padded 4 year.natAbs

namespace Date

def text (d : Date) : List Char :=
  yearText d.year ++ '-' :: Numeral.padded 2 d.month ++ '-' :: Numeral.padded 2 d.day

end Date

namespace TimeOfDay

def fraction (t : TimeOfDay) : Nat := t.nanosecond % 1000000000

/-- Hour, minute and second; a leap second is the second 60. -/
def text (t : TimeOfDay) : List Char :=
  Numeral.padded 2 t.hour ++ ':' :: Numeral.padded 2 t.minute ++
    ':' :: Numeral.padded 2 (t.second + t.nanosecond / 1000000000)

/-- The fraction of the second: nothing when there is none, else a point and as many groups of three
    digits as it takes. -/
def fractionText (t : TimeOfDay) : List Char :=
  if t.fraction = 0 then []
  else if t.fraction % 1000000 = 0 then '.' :: Numeral.padded 3 (t.fraction / 1000000)
  else if t.fraction % 1000 = 0 then '.' :: Numeral.padded 6 (t.fraction / 1000)
  else '.' :: Numeral.padded 9 t.fraction

end TimeOfDay

namespace DateTime

def text (t : DateTime) : List Char := t.date.text ++ 'T' :: t.time.text

def exactText (t : DateTime) : List Char := t.text ++ t.time.fractionText

end DateTime

end Fieldwise
