import Fieldwise.Table
import Fieldwise.Value.Basic

/-!
Records: the fields of one input with their values.
-/

namespace Fieldwise

abbrev Record := Table FieldValue

/-- The value of a field; a field that is not there has none. -/
def Record.value (r : Record) (field : String) : FieldValue := (r.get? field).getD .null

end Fieldwise
