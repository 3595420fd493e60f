import Fieldwise.Json.Token

/-!
The values of JSON numbers. A number without point and exponent is an integer if it fits 64 bits,
with or without a sign. Any other number is a floating point number: its leading digits make up a
significand of 64 bits, the digits that do not fit are dropped, and the significand is scaled by a
power of ten. A number too large to be represented has no value.
-/

namespace Fieldwise.Json

inductive Number where
  | integer (n : Int)
  | float (x : Float)

/-- Appends digits to a significand as long as it fits 64 bits, and gives the digits left over. -/
def absorbDigits (significand : Nat) : List Char → Nat × List Char
  | [] => (significand, [])
  | d :: digits =>
    let next := 10 * significand + (d.toNat - '0'.toNat)
    if next < 0x10000000000000000 then absorbDigits next digits else (significand, d :: digits)

def powerOfTen (n : Nat) : Float := Float.ofScientific 1 false n

/-- Scales a number by a power of ten, in steps of at most `10 ^ 308`. -/
def scale? (x : Float) (exponent : Int) : Option Float :=
  if exponent.natAbs ≤ 308 then
    if 0 ≤ exponent then
      let y := x * powerOfTen exponent.natAbs
      if y.isInf then none else some y
    else some (x / powerOfTen exponent.natAbs)
  else if x == 0 then some x
  else if 0 ≤ exponent then none
  else scale? (x / powerOfTen 308) (exponent + 308)
termination_by exponent.natAbs

/-- The greatest exponent that is counted; beyond it a number is zero or has no value. -/
def maxExponent : Nat := 2147483647

namespace NumberLiteral

def wholeNumber (n : NumberLiteral) : Nat := Nat.ofDigitChars 10 n.whole 0

/-- The magnitude of the number as a floating point number. -/
def magnitude? (n : NumberLiteral) : Option Float :=
  let (head, dropped) := absorbDigits 0 n.whole
  let (significand, unused) := absorbDigits head n.fraction
  let shift : Int := dropped.length - (n.fraction.length - unused.length : Nat)
  let x := Float.ofScientific significand false 0
  match n.exponent with
  | none => scale? x shift
  | some (negative, digits) =>
    let e := Nat.ofDigitChars 10 digits 0
    if maxExponent < e then if significand = 0 ∨ negative then some 0 else none
    else scale? x (if negative then shift - e else shift + e)

/-- The number is an integer that fits 64 bits: with a sign if it is negative, else without one. A zero
    with a minus sign is not among them. -/
def IsInteger (n : NumberLiteral) : Prop :=
  n.fraction = [] ∧ n.exponent = none ∧
    if n.negative then 0 < n.wholeNumber ∧ n.wholeNumber ≤ 0x8000000000000000
    else n.wholeNumber < 0x10000000000000000

instance (n : NumberLiteral) : Decidable n.IsInteger := inferInstanceAs (Decidable (_ ∧ _))

/-- The value of the number. -/
def value? (n : NumberLiteral) : Option Number :=
  if n.IsInteger then
    some (.integer (if n.negative then -(n.wholeNumber : Int) else n.wholeNumber))
  else n.magnitude?.map fun x => .float (if n.negative then -x else x)

end NumberLiteral

end Fieldwise.Json
