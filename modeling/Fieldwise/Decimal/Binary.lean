/-!
Floating point numbers by their bits. A number of 64 bits has a bit for the sign, eleven for the
exponent and 52 for the fraction. A finite number is a whole mantissa times a power of two.
-/

namespace Fieldwise

/-- A number `mantissa * 2 ^ exponent` with its place among the floating point numbers. -/
structure Magnitude where
  mantissa : Nat
  exponent : Int
  /-- The neighbour below is only half as far away as the neighbour above. -/
  narrowBelow : Bool
  deriving DecidableEq, Repr

/-- The magnitude of a finite number, from its exponent bits and its fraction bits. -/
def Magnitude.ofFields (exponentField fraction : Nat) : Magnitude :=
  if exponentField = 0 then ⟨fraction, -1074, false⟩
  else ⟨0x10000000000000 + fraction, (exponentField : Int) - 1075,
    fraction = 0 && decide (1 < exponentField)⟩

inductive FloatValue where
  | notANumber
  | infinite (negative : Bool)
  | finite (negative : Bool) (magnitude : Magnitude)
  deriving DecidableEq, Repr

namespace FloatValue

/-- What 64 bits say. The greatest exponent is kept for what is not finite. -/
def ofBits (bits : Nat) : FloatValue :=
  let negative := decide (0x8000000000000000 ≤ bits)
  let exponentField := bits / 0x10000000000000 % 0x800
  let fraction := bits % 0x10000000000000
  if exponentField = 2047 then if fraction = 0 then infinite negative else notANumber
  else finite negative (.ofFields exponentField fraction)

def ofFloat (x : Float) : FloatValue := ofBits x.toBits.toNat

example : ofBits 0x3FF0000000000000 = finite false ⟨0x10000000000000, -52, true⟩ := by decide

end FloatValue

end Fieldwise
