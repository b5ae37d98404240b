import Readership.Proofs.PeriodStarts

/-!
# Readership.Proofs.PrecedingPeriods

The period before a period, and where there is none.

`Period.previous` takes whole days or months off the first day of a period.
What it finds is the period of the day before (`previous?_eq`), the last period
to begin before the given one (`previous_eq_ok_iff`).

Both truncation and the step to the period before fail where the period would
begin before the earliest date (`exists_truncate_iff`, `exists_previous_iff`).
Dates start with 1 January, which begins a day, a month and a year, so only weeks
are cut (`exists_truncate_of_ne_week`).
-/

namespace Readership

open Calendar

/-! ## months back from a first of the month -/

/-- Months before a first of the month there is another one. -/
theorem Calendar.Date.subMonths?_eq {d : Date} {n : Nat} {year : Int} {month : Nat}
    (hday : d.civil.day = 1) (hone : 1 ≤ month) (htwelve : month ≤ 12)
    (h : 12 * year + (month - 1 : Nat) = 12 * d.civil.year + (d.civil.month - 1 : Nat) - n) :
    d.subMonths? n = ofNumber? (daysBeforeYear year + daysBeforeMonth (isLeap year) month) := by
  have hyear : (12 * d.civil.year + (d.civil.month - 1 : Nat) - n) / 12 = year := by omega
  have hmonth : ((12 * d.civil.year + (d.civil.month - 1 : Nat) - n) % 12).toNat + 1 = month := by
    omega
  have hlength : 1 ≤ monthLength (isLeap year) month := one_le_monthLength hone htwelve
  have hvalid : Civil.isValid ⟨year, month, 1⟩ = true :=
    Civil.isValid_iff.2 ⟨hone, htwelve, le_rfl, hlength⟩
  simp only [subMonths?, hyear, hmonth, hday, min_eq_left hlength]
  rw [ofCivil?, if_pos hvalid, Civil.toNumber]
  simp

namespace Period

/-- The last day of a month is of the month. -/
theorem startNumber_month_last {year : Int} {month : Nat} (hone : 1 ≤ month)
    (htwelve : month ≤ 12) :
    startNumber .month (daysBeforeYear year + daysBeforeMonth (isLeap year) (month + 1) - 1) =
      daysBeforeYear year + daysBeforeMonth (isLeap year) month := by
  have hlength : 1 ≤ monthLength (isLeap year) month := one_le_monthLength hone htwelve
  have hlast : Civil.toNumber ⟨year, month, monthLength (isLeap year) month⟩ =
      daysBeforeYear year + daysBeforeMonth (isLeap year) (month + 1) - 1 := by
    simp only [Civil.toNumber, monthLength] at hlength ⊢
    omega
  have hcivil := Civil.ofNumber_toNumber (c := ⟨year, month, monthLength (isLeap year) month⟩)
    (Civil.isValid_iff.2 ⟨hone, htwelve, hlength, le_rfl⟩)
  rw [hlast] at hcivil
  simp only [startNumber, hcivil, monthLength] at hlength ⊢
  omega

/-- A first of the month comes right after another month. -/
theorem exists_month_before {p : Date} (h : IsStart .month p) :
    ∃ (year : Int) (month : Nat), 1 ≤ month ∧ month ≤ 12 ∧
      12 * year + (month - 1 : Nat) = 12 * p.civil.year + (p.civil.month - 1 : Nat) - 1 ∧
      p.number = daysBeforeYear year + daysBeforeMonth (isLeap year) (month + 1) := by
  obtain ⟨hone, htwelve, -, -⟩ := Civil.isValid_iff.1 (Civil.isValid_ofNumber p.number)
  have hyear : p.civil.year = yearOf p.number := rfl
  have hday : (Civil.ofNumber p.number).day = 1 := h
  have hfirst := Civil.daysBefore_ofNumber p.number
  rw [hday, Nat.sub_self, Int.natCast_zero, Int.sub_zero] at hfirst
  rw [hyear, Date.civil]
  by_cases hjanuary : (Civil.ofNumber p.number).month = 1
  · -- the month before January is that of the year before
    have hturn := daysBeforeYear_succ (yearOf p.number - 1)
    rw [← daysBeforeMonth_thirteen, Int.sub_add_cancel] at hturn
    rw [hjanuary, daysBeforeMonth, Int.natCast_zero, Int.add_zero, hturn] at hfirst
    exact ⟨yearOf p.number - 1, 12, by decide, le_rfl, by omega, hfirst.symm⟩
  · refine ⟨yearOf p.number, (Civil.ofNumber p.number).month - 1, by omega, by omega, by omega, ?_⟩
    rw [Nat.sub_add_cancel hone, hfirst]

/-! ## the period before -/

section
variable {g : Granularity} {p q : Date} {t : Instant}

/-- What is found as the period before is that of the day before. -/
theorem previous?_eq (h : IsStart g p) :
    previous? g p = Date.ofNumber? (startNumber g (p.number - 1)) := by
  cases g with
  | day => rfl
  | week =>
      have hweek : p.number + -7 = p.number - 1 - (p.number - 1) % 7 := by
        simp only [IsStart, Date.weekday] at h
        omega
      rw [previous?, Date.addDays?, hweek, startNumber]
  | month =>
      obtain ⟨year, month, hone, htwelve, hmonths, hnumber⟩ := exists_month_before h
      rw [previous?, Date.subMonths?_eq h hone htwelve hmonths, hnumber,
        startNumber_month_last hone htwelve]
  | year =>
      obtain ⟨hjanuary, hday⟩ := id h
      have hyear : p.civil.year = yearOf p.number := rfl
      have hnumber : daysBeforeYear (yearOf p.number) = p.number := isStart_iff.1 h
      have hlast : yearOf (p.number - 1) = yearOf p.number - 1 := by
        conv_lhs => rw [← hnumber]
        exact yearOf_daysBeforeYear_sub_one _
      have hmonths : 12 * (yearOf p.number - 1) + (1 - 1 : Nat) =
          12 * p.civil.year + (p.civil.month - 1 : Nat) - (12 : Nat) := by
        rw [hyear, hjanuary]
        omega
      rw [previous?, Date.subMonths?_eq hday le_rfl (by decide) hmonths, startNumber, hlast]
      simp [daysBeforeMonth]

theorem previous_eq_ok : previous p g = .ok q ↔ previous? g p = some q := by
  rw [previous]
  cases previous? g p <;> simp

/-- The period before is the one that the given period follows. -/
theorem previous_eq_ok_iff (h : IsStart g p) : previous p g = .ok q ↔ Adjacent g q p := by
  have hle := startNumber_le g (p.number - 1)
  rw [previous_eq_ok, previous?_eq h, Date.ofNumber?_eq_some_iff, adjacent_iff, Date.lt_iff]
  constructor
  · intro hq
    exact ⟨h, by omega, hq.symm⟩
  · exact fun hq => hq.2.2.symm

/-! ## the edge of the dates -/

/-- What it means that the day with number `m`, a date or not, begins the period
before another one: it is the last to begin a period before it. -/
structure Precedes (g : Granularity) (m : Int) (p : Date) : Prop where
  begins : BeginsPeriod g m
  lt : m < p.number
  le_of_lt : ∀ k, BeginsPeriod g k → k < p.number → k ≤ m

theorem precedes_iff {m : Int} : Precedes g m p ↔ m = startNumber g (p.number - 1) := by
  have hle := startNumber_le g (p.number - 1)
  constructor
  · intro h
    have hstart : startNumber g (p.number - 1) ≤ m :=
      h.le_of_lt _ (beginsPeriod_iff.2 (startNumber_startNumber g _)) (by omega)
    have hlt := h.lt
    rw [← beginsPeriod_iff.1 h.begins]
    exact startNumber_eq_of_between hstart (by omega)
  · rintro rfl
    refine ⟨beginsPeriod_iff.2 (startNumber_startNumber g _), by omega, fun k hk hlt => ?_⟩
    rw [← beginsPeriod_iff.1 hk]
    exact startNumber_mono (by omega)

/-- An instant has a period where the period begins with a date. -/
theorem exists_truncate_iff :
    (∃ p, truncate t g = .ok p) ↔ firstNumber ≤ startNumber g t.date.number := by
  simp only [truncate_eq_ok]
  exact Date.exists_ofNumber?_iff ((startNumber_le _ _).trans t.date.le_last)

/-- A period has one before it where that begins with a date. -/
theorem exists_previous_iff (h : IsStart g p) :
    (∃ q, previous p g = .ok q) ↔ firstNumber ≤ startNumber g (p.number - 1) := by
  have hle := startNumber_le g (p.number - 1)
  have hlast := p.le_last
  simp only [previous_eq_ok, previous?_eq h]
  exact Date.exists_ofNumber?_iff (by omega)

/-- A period has none before it where that would begin before the earliest date. -/
theorem not_exists_previous_iff (h : IsStart g p) :
    (¬ ∃ q, previous p g = .ok q) ↔ ∃ m, Precedes g m p ∧ m < firstNumber := by
  simp [exists_previous_iff h, precedes_iff]

/-- The earliest date begins a day, a month and a year; it is a Thursday. -/
theorem exists_truncate_of_ne_week (hg : g ≠ .week) (t : Instant) : ∃ p, truncate t g = .ok p := by
  have hfirst : startNumber g firstNumber = firstNumber := by
    cases g <;> first | contradiction | decide
  rw [exists_truncate_iff, ← hfirst]
  exact startNumber_mono t.date.first_le

end

end Period

end Readership
