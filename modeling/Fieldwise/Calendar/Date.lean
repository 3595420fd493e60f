/-!
Calendar dates. A `Date` is a day of the proleptic Gregorian calendar whose year lies in the range
that this library represents; the year zero exists and is a leap year. Dates are ordered by year,
month and day.
-/

namespace Fieldwise

def minYear : Int := -262143

def maxYear : Int := 262142

/-- Every fourth year is a leap year, except the centuries that 400 does not divide. -/
def isLeapYear (year : Int) : Bool :=
  year % 4 = 0 && (year % 100 ≠ 0 || year % 400 = 0)

/-- The number of days of a month, the months being counted from 1; zero if there is no such
    month. -/
def monthLength (year : Int) (month : Nat) : Nat :=
  if month = 2 then if isLeapYear year then 29 else 28
  else if month = 4 ∨ month = 6 ∨ month = 9 ∨ month = 11 then 30
  else if 1 ≤ month ∧ month ≤ 12 then 31
  else 0

def YearInRange (year : Int) : Prop := minYear ≤ year ∧ year ≤ maxYear

instance (year : Int) : Decidable (YearInRange year) := inferInstanceAs (Decidable (_ ∧ _))

/-- The three numbers name a day of the calendar, in a year that can be represented. -/
def IsCalendarDate (year : Int) (month day : Nat) : Prop :=
  YearInRange year ∧ (1 ≤ month ∧ month ≤ 12) ∧ 1 ≤ day ∧ day ≤ monthLength year month

instance (year : Int) (month day : Nat) : Decidable (IsCalendarDate year month day) :=
  inferInstanceAs (Decidable (_ ∧ _))

/-- A day of the calendar. -/
@[ext]
structure Date where
  year : Int
  month : Nat
  day : Nat
  valid : IsCalendarDate year month day
  deriving DecidableEq

namespace Date

/-- The date with this year, month and day, if the calendar has it. -/
def ofParts? (year : Int) (month day : Nat) : Option Date :=
  if h : IsCalendarDate year month day then some ⟨year, month, day, h⟩ else none

theorem ofParts?_eq_some_iff {year : Int} {month day : Nat} {d : Date} :
    ofParts? year month day = some d ↔ d.year = year ∧ d.month = month ∧ d.day = day := by
  obtain ⟨y, m, k, h⟩ := d
  unfold ofParts?
  split
  · next hv => simp [eq_comm]
  · next hv =>
    simp only [reduceCtorEq, false_iff]
    rintro ⟨rfl, rfl, rfl⟩
    exact hv h

theorem ofParts?_eq_none_iff {year : Int} {month day : Nat} :
    ofParts? year month day = none ↔ ¬ IsCalendarDate year month day := by
  unfold ofParts?
  split <;> simp_all

protected def lt (a b : Date) : Prop :=
  a.year < b.year ∨ a.year = b.year ∧ (a.month < b.month ∨ a.month = b.month ∧ a.day < b.day)

instance : LT Date := ⟨Date.lt⟩

instance (a b : Date) : Decidable (a < b) := inferInstanceAs (Decidable (_ ∨ _))

instance : LE Date := ⟨fun a b => ¬ b < a⟩

instance (a b : Date) : Decidable (a ≤ b) := inferInstanceAs (Decidable (¬ _))

theorem lt_def {a b : Date} : a < b ↔
    a.year < b.year ∨ a.year = b.year ∧ (a.month < b.month ∨ a.month = b.month ∧ a.day < b.day) :=
  Iff.rfl

theorem le_def {a b : Date} : a ≤ b ↔ ¬ b < a := Iff.rfl

instance : Ord Date := ⟨fun a b => if a < b then .lt else if b < a then .gt else .eq⟩

theorem month_pos (d : Date) : 1 ≤ d.month := d.valid.2.1.1

theorem month_le (d : Date) : d.month ≤ 12 := d.valid.2.1.2

theorem day_pos (d : Date) : 1 ≤ d.day := d.valid.2.2.1

theorem day_le (d : Date) : d.day ≤ monthLength d.year d.month := d.valid.2.2.2

def firstOfMonth (d : Date) : Date :=
  ⟨d.year, d.month, 1, d.valid.1, d.valid.2.1, Nat.le_refl 1, Nat.le_trans d.day_pos d.day_le⟩

def firstOfYear (d : Date) : Date :=
  ⟨d.year, 1, 1, d.valid.1, by decide, Nat.le_refl 1, by simp [monthLength]⟩

end Date

theorem le_monthLength {year : Int} {month : Nat} (hpos : 1 ≤ month) (hle : month ≤ 12) :
    28 ≤ monthLength year month := by
  unfold monthLength
  repeat' split
  all_goals omega

theorem monthLength_le (year : Int) (month : Nat) : monthLength year month ≤ 31 := by
  unfold monthLength
  repeat' split
  all_goals decide

end Fieldwise
