/-!
The kinds of value that a field can hold.
-/

namespace Fieldwise

/-- What sort of value a field holds. -/
inductive ValueKind where
  | null
  | boolean
  | integer
  | float
  | text
  | date
  | dateTime
  deriving DecidableEq, Repr

def ValueKind.name : ValueKind → String
  | null => "null"
  | boolean => "boolean"
  | integer => "integer"
  | float => "float"
  | text => "text"
  | date => "date"
  | dateTime => "datetime"

end Fieldwise
