import Fieldwise.Calendar.Date
import Fieldwise.Calendar.Error

/-!
Dates of which only some components are known, and how they are filled up.
-/

namespace Fieldwise

/-- The components of a date as far as they are known; they need not name a day of the calendar. -/
structure PartialDate where
  year : Option Int
  month : Option Nat
  day : Option Nat
  deriving DecidableEq, Repr

namespace PartialDate

def unknown : PartialDate := ⟨none, none, none⟩

/-- Fills an unknown year with `referenceYear` and an unknown month and day with the first one. -/
def toDate (p : PartialDate) (referenceYear : Int) : Except DateError Date :=
  let year := p.year.getD referenceYear
  let month := p.month.getD 1
  let day := p.day.getD 1
  match Date.ofParts? year month day with
  | some d => .ok d
  | none => .error (.notACalendarDate year month day)

def set (p : PartialDate) (c : Component) (n : Nat) : PartialDate :=
  match c with
  | .day => { p with day := some n }
  | .month => { p with month := some n }
  | .year => { p with year := some n }

end PartialDate

end Fieldwise
