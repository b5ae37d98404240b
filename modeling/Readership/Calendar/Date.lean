/-!
# Readership.Calendar.Date

Days of the proleptic Gregorian calendar.

A `Date` is a day number: the days that passed since Monday, 1 January of year 1.  Years, months
and weekdays are views of that number, so moving by days is addition and only moving by months
goes through the calendar.

* `daysBeforeYear` counts the days before a year; its steps are the lengths of the years
  (`daysBeforeYear_succ`).
* `yearOf` inverts it: a day lies between the first days of its year and of the next
  (`daysBeforeYear_yearOf_le`, `lt_daysBeforeYear_yearOf`).
* `daysBeforeMonth` and `monthOf` do the same within a year.
* A `Date` stays between 1 January of year -262143 and 31 December of year 262142; whatever would
  leave that range is no date.
-/

namespace Readership.Calendar

/-! ## years -/

/-- Days before 1 January of year `y`, counted from 1 January of year 1.  Every fourth year is a
day longer, of the hundredth years only the four-hundredth. -/
def daysBeforeYear (y : Int) : Int :=
  365 * (y - 1) + (y - 1) / 4 - (y - 1) / 100 + (y - 1) / 400

/-- Whether February of year `y` has 29 days. -/
def isLeap (y : Int) : Bool :=
  y % 4 == 0 && (y % 100 != 0 || y % 400 == 0)

def yearLength (leap : Bool) : Nat := if leap then 366 else 365

theorem daysBeforeYear_succ (y : Int) :
    daysBeforeYear (y + 1) = daysBeforeYear y + yearLength (isLeap y) := by
  by_cases h4 : y % 4 = 0 <;> by_cases h100 : y % 100 = 0 <;> by_cases h400 : y % 400 = 0 <;>
    simp [daysBeforeYear, yearLength, isLeap, h4, h100, h400] <;> omega

/-- The year of the day with number `n`: 400 years have 146097 days, and the quotient that this
mean length gives is the year or the one before it. -/
def yearOf (n : Int) : Int :=
  let y := 400 * n / 146097 + 1
  if daysBeforeYear (y + 1) ≤ n then y + 1 else y

theorem daysBeforeYear_yearOf_le (n : Int) : daysBeforeYear (yearOf n) ≤ n := by
  simp only [yearOf]
  split
  · assumption
  · simp only [daysBeforeYear]; omega

theorem lt_daysBeforeYear_yearOf (n : Int) : n < daysBeforeYear (yearOf n + 1) := by
  simp only [yearOf]
  split
  · simp only [daysBeforeYear]; omega
  · omega

/-! ## months -/

/-- Days of a year before month `m`; month 13 stands for the end of the year. -/
def daysBeforeMonth (leap : Bool) : Nat → Nat
  | 0 | 1 => 0
  | 2 => 31
  | 3 => 59 + leap.toNat
  | 4 => 90 + leap.toNat
  | 5 => 120 + leap.toNat
  | 6 => 151 + leap.toNat
  | 7 => 181 + leap.toNat
  | 8 => 212 + leap.toNat
  | 9 => 243 + leap.toNat
  | 10 => 273 + leap.toNat
  | 11 => 304 + leap.toNat
  | 12 => 334 + leap.toNat
  | _ => 365 + leap.toNat

def monthLength (leap : Bool) (m : Nat) : Nat :=
  daysBeforeMonth leap (m + 1) - daysBeforeMonth leap m

/-- The month of the day `d` days after 1 January: the months that have begun by then. -/
def monthOf (leap : Bool) (d : Nat) : Nat :=
  (List.range 12).countP fun m => daysBeforeMonth leap (m + 1) ≤ d

structure Civil where
  year : Int
  /-- From 1 to 12. -/
  month : Nat
  /-- From 1 to the length of the month. -/
  day : Nat
deriving DecidableEq, Repr

def Civil.isValid (c : Civil) : Bool :=
  1 ≤ c.month && c.month ≤ 12 && 1 ≤ c.day && c.day ≤ monthLength (isLeap c.year) c.month

def Civil.toNumber (c : Civil) : Int :=
  daysBeforeYear c.year + daysBeforeMonth (isLeap c.year) c.month + (c.day - 1 : Nat)

def Civil.ofNumber (n : Int) : Civil :=
  let year := yearOf n
  let leap := isLeap year
  let d := (n - daysBeforeYear year).toNat
  let month := monthOf leap d
  ⟨year, month, d - daysBeforeMonth leap month + 1⟩

/-! ## dates -/

/-- The number of the earliest date, 1 January of year -262143. -/
def firstNumber : Int := daysBeforeYear (-262143)

/-- The number of the latest date, 31 December of year 262142. -/
def lastNumber : Int := daysBeforeYear 262143 - 1

/-- A day within the range of dates. -/
@[ext] structure Date where
  /-- Days since 1 January of year 1. -/
  number : Int
  first_le : firstNumber ≤ number
  le_last : number ≤ lastNumber
deriving DecidableEq

namespace Date

instance : Repr Date := ⟨fun d => reprPrec d.number⟩

/-- Dates are ordered as their numbers. -/
instance : Ord Date := ⟨fun a b => compare a.number b.number⟩

instance : LE Date := ⟨fun a b => a.number ≤ b.number⟩

instance : LT Date := ⟨fun a b => a.number < b.number⟩

instance (a b : Date) : Decidable (a ≤ b) := inferInstanceAs (Decidable (a.number ≤ b.number))

instance (a b : Date) : Decidable (a < b) := inferInstanceAs (Decidable (a.number < b.number))

theorem compare_eq (a b : Date) : compare a b = compare a.number b.number := rfl

theorem compare_eq_lt {a b : Date} : compare a b = .lt ↔ a < b := by
  rw [compare_eq]
  exact Std.compare_eq_lt

instance : Std.TransOrd Date where
  eq_swap {a b} := by
    rw [compare_eq, compare_eq]
    exact Std.OrientedCmp.eq_swap
  isLE_trans {a b c} hab hbc := by
    rw [compare_eq] at hab hbc ⊢
    exact Std.TransCmp.isLE_trans hab hbc

instance : Std.LawfulEqOrd Date where
  compare_self {a} := by
    rw [compare_eq]
    exact Std.ReflCmp.compare_self
  eq_of_compare {a b} h := by
    rw [compare_eq] at h
    exact Date.ext (Std.LawfulEqCmp.eq_of_compare h)

/-- The date with a number, when it is in range. -/
def ofNumber? (n : Int) : Option Date :=
  if h : firstNumber ≤ n ∧ n ≤ lastNumber then some ⟨n, h.1, h.2⟩ else none

@[simp] theorem ofNumber?_number (d : Date) : ofNumber? d.number = some d := by
  simp [ofNumber?, d.first_le, d.le_last]

theorem number_of_ofNumber? {n : Int} {d : Date} (h : ofNumber? n = some d) : d.number = n := by
  unfold ofNumber? at h
  split at h
  · cases h; rfl
  · cases h

def first : Date := ⟨firstNumber, by decide, by decide⟩

instance : Inhabited Date := ⟨first⟩

/-- The date written as year, month and day, when there is one. -/
def ofCivil? (c : Civil) : Option Date :=
  if c.isValid then ofNumber? c.toNumber else none

def civil (d : Date) : Civil := Civil.ofNumber d.number

def year (d : Date) : Int := yearOf d.number

/-- Days since Monday. -/
def weekday (d : Date) : Nat := (d.number % 7).toNat

/-- The date `n` days later, or earlier for a negative `n`. -/
def addDays? (d : Date) (n : Int) : Option Date := ofNumber? (d.number + n)

/-- The same day of the month `n` months earlier, or the last day of that month where it is
shorter. -/
def subMonths? (d : Date) (n : Nat) : Option Date :=
  let c := d.civil
  let months := 12 * c.year + (c.month - 1 : Nat) - n
  let year := months / 12
  let month := (months % 12).toNat + 1
  ofCivil? ⟨year, month, min c.day (monthLength (isLeap year) month)⟩

end Date

/-! ## weeks -/

/-- A week with the year it belongs to, the one that holds its Thursday. -/
structure Week where
  year : Int
  /-- From 1 to 53. -/
  week : Nat
deriving DecidableEq, Repr

/-- The week of a date.  Weeks begin on Monday, and the first week of a year is the one that holds
its first Thursday. -/
def Date.week (d : Date) : Week :=
  let thursday := d.number - d.weekday + 3
  let year := yearOf thursday
  ⟨year, ((thursday - daysBeforeYear year) / 7).toNat + 1⟩

end Readership.Calendar
