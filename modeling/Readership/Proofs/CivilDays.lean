import Mathlib.Order.Monotone.Basic
import Readership.Calendar.Date

/-!
# Readership.Proofs.CivilDays

Years and months as runs of days.

Every day lies in one year and in one month of it, and its number is told by
year, month and day:

* `yearOf_eq_iff` -- the year of a day is the one whose first day is not after
  it and whose successor begins after it;
* `monthOf_eq`, `monthOf_spec` -- so is the month, within the days of a year;
* `Civil.toNumber_ofNumber`, `Civil.isValid_ofNumber` -- so year, month and day
  of a number are those of a day of the calendar, the one with that number, and
  no other day has it (`Civil.ofNumber_toNumber`);
* `Date.ofCivil?_civil` -- and a date is found again by them.

Dates are linearly ordered by their numbers.
-/

namespace Readership.Calendar

/-! ## years -/

theorem daysBeforeYear_mono {y y' : Int} (h : y ≤ y') : daysBeforeYear y ≤ daysBeforeYear y' := by
  simp only [daysBeforeYear]
  omega

/-- Years follow each other without a gap, so a day lies in one only. -/
theorem yearOf_eq_iff {n y : Int} :
    yearOf n = y ↔ daysBeforeYear y ≤ n ∧ n < daysBeforeYear (y + 1) := by
  constructor
  · rintro rfl
    exact ⟨daysBeforeYear_yearOf_le n, lt_daysBeforeYear_yearOf n⟩
  · rintro ⟨hle, hlt⟩
    have hle' := daysBeforeYear_yearOf_le n
    have hlt' := lt_daysBeforeYear_yearOf n
    have hnot_later : ¬ yearOf n + 1 ≤ y := fun h => by
      have hfirst := daysBeforeYear_mono h
      omega
    have hnot_earlier : ¬ y + 1 ≤ yearOf n := fun h => by
      have hfirst := daysBeforeYear_mono h
      omega
    omega

theorem yearOf_mono {m n : Int} (h : m ≤ n) : yearOf m ≤ yearOf n := by
  have hle := daysBeforeYear_yearOf_le m
  have hlt := lt_daysBeforeYear_yearOf n
  by_contra hnot
  have hfirst := daysBeforeYear_mono (show yearOf n + 1 ≤ yearOf m by omega)
  omega

/-- The last day of a year is of the year. -/
theorem yearOf_daysBeforeYear_sub_one (y : Int) : yearOf (daysBeforeYear y - 1) = y - 1 := by
  have hlength : 1 ≤ yearLength (isLeap (y - 1)) := by
    unfold yearLength
    split <;> decide
  have hturn := daysBeforeYear_succ (y - 1)
  rw [Int.sub_add_cancel] at hturn
  rw [yearOf_eq_iff, Int.sub_add_cancel]
  omega

/-- How many days of its year have passed before a day. -/
def dayOfYear (n : Int) : Nat := (n - daysBeforeYear (yearOf n)).toNat

theorem daysBeforeYear_add_dayOfYear (n : Int) :
    daysBeforeYear (yearOf n) + dayOfYear n = n := by
  have hle := daysBeforeYear_yearOf_le n
  simp only [dayOfYear]
  omega

theorem dayOfYear_lt (n : Int) : dayOfYear n < yearLength (isLeap (yearOf n)) := by
  have hday := daysBeforeYear_add_dayOfYear n
  have hlt := lt_daysBeforeYear_yearOf n
  rw [daysBeforeYear_succ] at hlt
  omega

/-! ## months -/

section
variable {leap : Bool} {m d : Nat}

theorem monotone_daysBeforeMonth (leap : Bool) : Monotone (daysBeforeMonth leap) := by
  have hyear : ∀ m < 13, daysBeforeMonth leap m ≤ daysBeforeMonth leap (m + 1) := by
    cases leap <;> decide
  apply monotone_nat_of_le_succ
  intro m
  by_cases hm : m < 13
  · exact hyear m hm
  · obtain ⟨k, rfl⟩ := Nat.exists_eq_add_of_le' (Nat.le_of_not_lt hm)
    exact Nat.le_of_eq rfl

/-- Every month has days. -/
theorem one_le_monthLength (hone : 1 ≤ m) (htwelve : m ≤ 12) : 1 ≤ monthLength leap m := by
  have hyear : ∀ m < 13, 1 ≤ m → 1 ≤ monthLength leap m := by
    cases leap <;> decide
  exact hyear m (by omega) hone

theorem daysBeforeMonth_thirteen (leap : Bool) : daysBeforeMonth leap 13 = yearLength leap := by
  cases leap <;> rfl

/-- A month is told by its first day and the first day after it: it has as
many months before it as begin no later. -/
theorem monthOf_eq (hm : m ≤ 12) (hle : daysBeforeMonth leap m ≤ d)
    (hlt : d < daysBeforeMonth leap (m + 1)) : monthOf leap d = m := by
  have hbegun : ∀ k ∈ List.range 12,
      decide (daysBeforeMonth leap (k + 1) ≤ d) = decide (k < m) := by
    intro k _
    rw [decide_eq_decide]
    constructor
    · intro hk
      by_contra hnot
      have hmono := monotone_daysBeforeMonth leap (show m + 1 ≤ k + 1 by omega)
      omega
    · intro hk
      exact (monotone_daysBeforeMonth leap hk).trans hle
  have hcount : ∀ m < 13, (List.range 12).countP (fun k => decide (k < m)) = m := by decide
  rw [monthOf, List.countP_congr fun k hk => by rw [hbegun k hk], hcount m (by omega)]

theorem monthOf_mono {d' : Nat} (h : d ≤ d') : monthOf leap d ≤ monthOf leap d' :=
  List.countP_mono_left fun k _ hk => by
    rw [decide_eq_true_eq] at hk ⊢
    exact hk.trans h

/-- A day lies in one of the months that begin before a later day.  The
induction goes back from the month of that day. -/
theorem exists_month (hlt : d < daysBeforeMonth leap (m + 1)) :
    ∃ k, 1 ≤ k ∧ k ≤ m ∧ daysBeforeMonth leap k ≤ d ∧ d < daysBeforeMonth leap (k + 1) := by
  induction m with
  | zero => simp [daysBeforeMonth] at hlt
  | succ m ih =>
      by_cases hd : d < daysBeforeMonth leap (m + 1)
      · obtain ⟨k, hone, hk, hspan⟩ := ih hd
        exact ⟨k, hone, by omega, hspan⟩
      · exact ⟨m + 1, by omega, le_rfl, by omega, hlt⟩

/-- The month of a day of the year holds it. -/
theorem monthOf_spec (h : d < yearLength leap) :
    1 ≤ monthOf leap d ∧ monthOf leap d ≤ 12 ∧ daysBeforeMonth leap (monthOf leap d) ≤ d ∧
      d < daysBeforeMonth leap (monthOf leap d + 1) := by
  rw [← daysBeforeMonth_thirteen] at h
  obtain ⟨m, hone, hm, hle, hlt⟩ := exists_month h
  rw [monthOf_eq hm hle hlt]
  exact ⟨hone, hm, hle, hlt⟩

end

/-! ## year, month and day -/

namespace Civil

theorem isValid_iff {c : Civil} :
    c.isValid = true ↔ 1 ≤ c.month ∧ c.month ≤ 12 ∧ 1 ≤ c.day ∧
      c.day ≤ monthLength (isLeap c.year) c.month := by
  simp [isValid, and_assoc]

theorem ofNumber_eq (n : Int) :
    ofNumber n = ⟨yearOf n, monthOf (isLeap (yearOf n)) (dayOfYear n),
      dayOfYear n - daysBeforeMonth (isLeap (yearOf n))
        (monthOf (isLeap (yearOf n)) (dayOfYear n)) + 1⟩ := rfl

/-- The number of the first day of the month of a day. -/
theorem daysBefore_ofNumber (n : Int) :
    daysBeforeYear (yearOf n) + daysBeforeMonth (isLeap (yearOf n)) (ofNumber n).month =
      n - ((ofNumber n).day - 1 : Nat) := by
  obtain ⟨-, -, hle, -⟩ := monthOf_spec (dayOfYear_lt n)
  have hday := daysBeforeYear_add_dayOfYear n
  simp only [ofNumber_eq]
  omega

theorem toNumber_ofNumber (n : Int) : (ofNumber n).toNumber = n := by
  have hfirst := daysBefore_ofNumber n
  have hyear : (ofNumber n).year = yearOf n := rfl
  rw [toNumber, hyear, hfirst]
  omega

theorem isValid_ofNumber (n : Int) : (ofNumber n).isValid = true := by
  obtain ⟨hone, htwelve, hle, hlt⟩ := monthOf_spec (dayOfYear_lt n)
  rw [isValid_iff, monthLength, ofNumber_eq]
  dsimp only
  omega

theorem one_le_day_ofNumber (n : Int) : 1 ≤ (ofNumber n).day := by
  rw [ofNumber_eq]
  exact Nat.succ_pos _

/-- Later days are of a later year, in a later month of the year or later in the
month. -/
theorem lt_of_number_lt {m n : Int} (h : m < n) :
    (ofNumber m).year < (ofNumber n).year ∨ (ofNumber m).year = (ofNumber n).year ∧
      ((ofNumber m).month < (ofNumber n).month ∨ (ofNumber m).month = (ofNumber n).month ∧
        (ofNumber m).day < (ofNumber n).day) := by
  have hyear : yearOf m ≤ yearOf n := yearOf_mono h.le
  rcases hyear.lt_or_eq with hlt | heq
  · exact .inl hlt
  refine .inr ⟨heq, ?_⟩
  have hwithin : dayOfYear m ≤ dayOfYear n := by
    simp only [dayOfYear, heq]
    omega
  have hmonth : (ofNumber m).month ≤ (ofNumber n).month := by
    rw [ofNumber_eq, ofNumber_eq, heq]
    exact monthOf_mono hwithin
  rcases hmonth.lt_or_eq with hlt | hsame
  · exact .inl hlt
  refine .inr ⟨hsame, ?_⟩
  have hm := daysBefore_ofNumber m
  have hn := daysBefore_ofNumber n
  have hday := one_le_day_ofNumber n
  rw [heq, hsame, hn] at hm
  omega

/-- The days of the calendar have different numbers. -/
theorem ofNumber_toNumber {c : Civil} (h : c.isValid = true) : ofNumber c.toNumber = c := by
  obtain ⟨year, month, day⟩ := c
  obtain ⟨-, htwelve, hday, hlast⟩ := isValid_iff.1 h
  dsimp only [monthLength] at htwelve hday hlast
  have hnumber : toNumber ⟨year, month, day⟩ =
      daysBeforeYear year + daysBeforeMonth (isLeap year) month + (day - 1 : Nat) := rfl
  have hend := monotone_daysBeforeMonth (isLeap year) (show month + 1 ≤ 13 by omega)
  rw [daysBeforeMonth_thirteen] at hend
  have hyear : yearOf (toNumber ⟨year, month, day⟩) = year := by
    rw [yearOf_eq_iff, daysBeforeYear_succ]
    omega
  have hwithin : dayOfYear (toNumber ⟨year, month, day⟩) =
      daysBeforeMonth (isLeap year) month + (day - 1) := by
    rw [dayOfYear, hyear]
    omega
  have hmonth : monthOf (isLeap year) (daysBeforeMonth (isLeap year) month + (day - 1)) = month :=
    monthOf_eq htwelve (by omega) (by omega)
  rw [ofNumber_eq, hyear, hwithin, hmonth, Nat.add_sub_cancel_left, Nat.sub_add_cancel hday]

/-- Month and day have two digits. -/
theorem month_day_lt (n : Int) : (ofNumber n).month < 100 ∧ (ofNumber n).day < 100 := by
  have hlength : ∀ leap, ∀ m < 13, monthLength leap m ≤ 31 := by decide
  obtain ⟨-, hmonth, -, hday⟩ := isValid_iff.1 (isValid_ofNumber n)
  have hlast := hlength (isLeap (ofNumber n).year) (ofNumber n).month (by omega)
  omega

end Civil

/-! ## dates -/

instance : Min Date := minOfLe

instance : Max Date := maxOfLe

/-- Dates are ordered as their numbers, which is a linear order. -/
instance : LinearOrder Date :=
  Function.Injective.linearOrder Date.number (fun _ _ => Date.ext) Iff.rfl Iff.rfl
    (fun a b => (apply_ite Date.number (a ≤ b) a b).trans (min_def _ _).symm)
    (fun a b => (apply_ite Date.number (a ≤ b) b a).trans (max_def _ _).symm) fun _ _ => rfl

theorem Date.ofNumber?_eq_some_iff {n : Int} {d : Date} : ofNumber? n = some d ↔ d.number = n := by
  constructor
  · exact number_of_ofNumber?
  · rintro rfl
    exact d.ofNumber?_number

/-- Only the first bound matters to numbers that are not after a date. -/
theorem Date.exists_ofNumber?_iff {n : Int} (h : n ≤ lastNumber) :
    (∃ d, ofNumber? n = some d) ↔ firstNumber ≤ n := by
  simp only [ofNumber?_eq_some_iff]
  constructor
  · rintro ⟨d, rfl⟩
    exact d.first_le
  · exact fun hfirst => ⟨⟨n, hfirst, h⟩, rfl⟩

/-- A date is found again by its year, month and day. -/
theorem Date.ofCivil?_civil (d : Date) : ofCivil? d.civil = some d := by
  rw [ofCivil?, civil, if_pos (Civil.isValid_ofNumber d.number), Civil.toNumber_ofNumber,
    ofNumber?_number]

end Readership.Calendar
