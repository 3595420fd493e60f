import Fieldwise.Calendar.Component
import Fieldwise.Decimal.Numeral
import Fieldwise.Value.Kind

/-!
Why a value gives no date that can be compared. Each constructor is one cause, and
`DateError.message` puts it into words.
-/

namespace Fieldwise

/-- Why no date can be had. Positions count the bytes of the text in UTF-8. -/
inductive DateError where
  /-- The format has a literal text at this position, and the input does not. -/
  | literalExpected (literal : List Char) (position : Nat)
  /-- The format has a component at this position, and the input lacks its digits. -/
  | digitsExpected (component : Component) (position : Nat)
  | trailingText (rest : List Char)
  | notACalendarDate (year : Int) (month day : Nat)
  /-- Values of this kind are never read as dates. -/
  | notDateLike (kind : ValueKind)
  /-- Shifting a date left the years that can be represented. -/
  | outOfRange
  deriving DecidableEq, Repr

def DateError.message : DateError → String
  | literalExpected literal position =>
    "expected '" ++ String.ofList literal ++ "' at position " ++
      String.ofList (Numeral.natural position)
  | digitsExpected component position =>
    "expected " ++ String.ofList (Numeral.natural component.width) ++ " digits for " ++
      String.ofList component.symbol ++ " at position " ++ String.ofList (Numeral.natural position)
  | trailingText rest => "unexpected trailing input '" ++ String.ofList rest ++ "'"
  | notACalendarDate year month day =>
    String.ofList (Numeral.paddedInteger 4 year ++ '-' :: Numeral.padded 2 month ++
      '-' :: Numeral.padded 2 day) ++ " is not a calendar date"
  | notDateLike kind => "value of type " ++ kind.name ++ " cannot be read as a date"
  | outOfRange => "date arithmetic left the representable range"

end Fieldwise
