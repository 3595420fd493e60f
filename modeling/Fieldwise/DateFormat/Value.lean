import Fieldwise.DateFormat.Projection
import Fieldwise.DateFormat.Text
import Fieldwise.Value.Basic

/-!
Field values as dates. A date is seen through the format; a text or a number is read in it.
-/

namespace Fieldwise.DateFormat

/-- The period that a value names in the format. -/
def periodOf (f : DateFormat) (value : FieldValue) (referenceYear : Int) :
    Except DateError Period :=
  match value with
  | .date d => f.project d referenceYear
  | .dateTime t => f.project t.date referenceYear
  | .text s => f.readPeriod s.toList referenceYear
  | .integer n => f.readPeriod (Numeral.integer n.toInt) referenceYear
  | .float x => f.readPeriod (FieldValue.floatText x) referenceYear
  | .boolean _ => .error (.notDateLike .boolean)
  | .null => .error (.notDateLike .null)

end Fieldwise.DateFormat
