import Fieldwise.Decimal.Layout
import Fieldwise.Value.DateTime
import Fieldwise.Value.Kind

/-!
The values that a field can hold, and the text in which a rule sees each of them.
-/

namespace Fieldwise

/-- The value of a field. -/
inductive FieldValue where
  | null
  | boolean (b : Bool)
  | integer (n : Int64)
  | float (x : Float)
  | text (s : String)
  | date (d : Date)
  | dateTime (t : DateTime)

namespace FieldValue

def kind : FieldValue → ValueKind
  | null => .null
  | boolean _ => .boolean
  | integer _ => .integer
  | float _ => .float
  | text _ => .text
  | date _ => .date
  | dateTime _ => .dateTime

/-- There is no value. An empty text is a value. -/
def isNull : FieldValue → Bool
  | null => true
  | _ => false

def text? : FieldValue → Option String
  | text s => some s
  | _ => none

/-- Rules see a number with the fewest digits that identify it, positionally from a millionth up to
    10^21, a whole number without a point. -/
def numberLayout : Layout := ⟨-6, 20, false, .up⟩

/-- The text in which a rule sees a floating point number. -/
def floatText (x : Float) : List Char :=
  match FloatValue.ofFloat x with
  | .notANumber => "NaN".toList
  | .infinite negative => if negative then "-inf".toList else "inf".toList
  | .finite negative m => numberLayout.signed negative m

/-- The text in which a rule sees the value, unless there is none. -/
def lexical? : FieldValue → Option String
  | null => none
  | boolean b => some (if b then "true" else "false")
  | integer n => some (String.ofList (Numeral.integer n.toInt))
  | float x => some (String.ofList (floatText x))
  | text s => some s
  | date d => some (String.ofList d.text)
  | dateTime t => some (String.ofList t.text)

end FieldValue

example : FieldValue.floatText 123.40 = "123.4".toList := by decide +kernel

example : FieldValue.floatText 1e21 = "1e+21".toList := by decide +kernel

end Fieldwise
