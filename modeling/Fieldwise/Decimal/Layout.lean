import Fieldwise.Decimal.Numeral
import Fieldwise.Decimal.Shortest

/-!
How a floating point number is laid out as text. A `Layout` says for which sizes the digits are
written positionally, and whether a whole number keeps a point; everything else is written with an
exponent that always has a sign.
-/

namespace Fieldwise

/-- The decisions of a number format. -/
structure Layout where
  /-- The least exponent of the leading digit for which a number is written positionally. -/
  leastPlain : Int
  /-- The greatest exponent of the leading digit for which a number is written positionally. -/
  greatestPlain : Int
  /-- A whole number that is written positionally ends in a point and a zero. -/
  pointZero : Bool
  tie : Tie

namespace Layout

/-- Digits times a power of ten, written positionally. -/
def plain (l : Layout) (digits : List Char) (exponent : Int) : List Char :=
  let whole := exponent + digits.length
  if 0 ≤ exponent then
    digits ++ List.replicate exponent.toNat '0' ++ (if l.pointZero then ['.', '0'] else [])
  else if 0 < whole then digits.take whole.toNat ++ '.' :: digits.drop whole.toNat
  else '0' :: '.' :: List.replicate (-whole).toNat '0' ++ digits

/-- Digits written with a point after the first one and the exponent of the first one. -/
def scientific (digits : List Char) (exponent : Int) : List Char :=
  digits.take 1 ++ (if digits.length ≤ 1 then [] else '.' :: digits.drop 1) ++
    'e' :: (if exponent < 0 then '-' else '+') :: Numeral.natural exponent.natAbs

def decimal (l : Layout) (d : Decimal) : List Char :=
  let digits := Numeral.natural d.digits
  let leading := d.exponent + digits.length - 1
  if l.leastPlain ≤ leading ∧ leading ≤ l.greatestPlain then l.plain digits d.exponent
  else scientific digits leading

/-- A magnitude, which is written with its shortest decimal. -/
def magnitude (l : Layout) (m : Magnitude) : List Char :=
  if m.mantissa = 0 then l.plain ['0'] 0 else l.decimal (m.shortest l.tie)

/-- A magnitude with a sign; zero has one too. -/
def signed (l : Layout) (negative : Bool) (m : Magnitude) : List Char :=
  if negative then '-' :: l.magnitude m else l.magnitude m

end Layout

end Fieldwise
