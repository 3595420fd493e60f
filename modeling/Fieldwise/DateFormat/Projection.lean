import Fieldwise.Calendar.PartialDate
import Fieldwise.DateFormat.Basic

/-!
Dates seen through a format. A date that is already known is put in the terms of a format: what the
format does not write is forgotten and filled in again as if the date had been read from a text.
-/

namespace Fieldwise.DateFormat

/-- The components of a date that the format writes. -/
def componentsOf (f : DateFormat) (d : Date) : PartialDate where
  year := if f.has .year then some d.year else none
  month := if f.has .month then some d.month else none
  day := if f.has .day then some d.day else none

/-- The last of February in a leap year is moved one day back when the year is not written and
    `referenceYear` has no such day. -/
def moveLeapDay (referenceYear : Int) (p : PartialDate) : PartialDate :=
  if p.year = none ∧ p.month = some 2 ∧ p.day = some 29 ∧
      Date.ofParts? referenceYear 2 29 = none then
    { p with day := some 28 }
  else p

/-- The period of the format in which a date lies, as far as the format can tell. -/
def project (f : DateFormat) (d : Date) (referenceYear : Int) : Except DateError Period := do
  let d ← (moveLeapDay referenceYear (f.componentsOf d)).toDate referenceYear
  return .containing d f.granularity

end Fieldwise.DateFormat
