/-!
Whole numbers in decimal digits: how they are written, plain or padded, and how they are read. Only
the ASCII digits count as digits.
-/

namespace Fieldwise.Numeral

/-- The digits of a natural number, without leading zeros. -/
def natural (n : Nat) : List Char := Nat.toDigits 10 n

/-- The digits of a natural number with as many zeros in front as make at least `width` digits. -/
def padded (width n : Nat) : List Char := List.leftpad width '0' (natural n)

/-- An integer: its digits, after a minus sign if it is negative. -/
def integer (n : Int) : List Char :=
  if n < 0 then '-' :: natural n.natAbs else natural n.natAbs

/-- An integer with zeros in front, so that digits and minus sign take at least `width` places. -/
def paddedInteger (width : Nat) (n : Int) : List Char :=
  if n < 0 then '-' :: padded (width - 1) n.natAbs else padded width n.natAbs

/-- The number that one or more digits stand for; nothing else is a number. -/
def natural? (text : List Char) : Option Nat :=
  if text ≠ [] ∧ text.all Char.isDigit then some (Nat.ofDigitChars 10 text 0) else none

/-- The integer that digits stand for, after at most one sign. -/
def integer? : List Char → Option Int
  | '-' :: digits => (natural? digits).map fun n : Nat => -(n : Int)
  | '+' :: digits => (natural? digits).map fun n : Nat => (n : Int)
  | digits => (natural? digits).map fun n : Nat => (n : Int)

/-- The integer fits 32 bits with sign. -/
def FitsInt32 (n : Int) : Prop := -2147483648 ≤ n ∧ n ≤ 2147483647

instance (n : Int) : Decidable (FitsInt32 n) := inferInstanceAs (Decidable (_ ∧ _))

/-- The integer that digits stand for, after at most one sign, if it fits 32 bits. -/
def int32? (text : List Char) : Option Int :=
  (integer? text).filter fun n => decide (FitsInt32 n)

theorem natural_ne_nil (n : Nat) : natural n ≠ [] := Nat.toDigits_ne_nil

theorem isDigit_of_mem_natural {n : Nat} {c : Char} (h : c ∈ natural n) : c.isDigit = true :=
  Nat.isDigit_of_mem_toDigits (by decide) (by decide) h

/-- A number is read back from its digits. -/
theorem natural?_natural (n : Nat) : natural? (natural n) = some n := by
  have hall : (natural n).all Char.isDigit = true :=
    List.all_eq_true.mpr fun _ h => isDigit_of_mem_natural h
  rw [natural?, if_pos ⟨natural_ne_nil n, hall⟩, natural, Nat.ofDigitChars_ten_toDigits]

example : padded 4 7 = "0007".toList ∧ paddedInteger 4 (-5) = "-005".toList := by decide

end Fieldwise.Numeral
