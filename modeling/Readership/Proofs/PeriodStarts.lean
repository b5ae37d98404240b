import Readership.Period
import Readership.Proofs.CivilDays

/-!
# Readership.Proofs.PeriodStarts

Periods as intervals of days.

`Period.startNumber` is the number of the first day of a period without the
bounds of dates.  All that is proved of periods rests on two facts about it:
no day comes before the first day of its period (`startNumber_le`), and all
days from there up to it have the same one (`startNumber_eq_of_between`).  So

* an instant is truncated to the latest first day that is not after it
  (`truncate_eq_ok_iff`);
* where `q` begins the period after the one that begins with `p`, the instants
  that are truncated to `p` are those from `p` on and before `q`
  (`Adjacent.truncate_eq_ok_iff`);
* where periods of one length are made of whole periods of another, a period
  is truncated to that of any of its instants (`truncate_midnight_iff`).

Whether a day begins a period is told by the calendar (`Period.IsStart`), not
by truncation.
-/

namespace Readership

open Calendar

/-! ## instants and days -/

namespace Calendar

theorem Date.le_iff {a b : Date} : a ≤ b ↔ a.number ≤ b.number := Iff.rfl

theorem Date.lt_iff {a b : Date} : a < b ↔ a.number < b.number := Iff.rfl

namespace Instant

theorem le_iff {a b : Instant} : a ≤ b ↔ a.rank ≤ b.rank := Iff.rfl

theorem lt_iff {a b : Instant} : a < b ↔ a.rank < b.rank := Iff.rfl

theorem rank_midnight (p : Date) : (midnight p).rank = p.number * 86400 * 2000000000 := by
  simp [rank, midnight]

/-- From midnight on, an instant is of that day or a later one. -/
theorem midnight_le_iff {p : Date} {t : Instant} : midnight p ≤ t ↔ p ≤ t.date := by
  have hsecond := t.second_lt
  have hnano := t.nano_lt
  rw [le_iff, rank_midnight, Date.le_iff, rank]
  omega

/-- Before midnight, an instant is of an earlier day; a leap second at its end
is of that day as well. -/
theorem lt_midnight_iff {q : Date} {t : Instant} : t < midnight q ↔ t.date < q := by
  have hsecond := t.second_lt
  have hnano := t.nano_lt
  rw [lt_iff, rank_midnight, Date.lt_iff, rank]
  omega

end Instant

end Calendar

namespace Period

/-! ## first days -/

/-- The number of the first day of the period that holds the day with number
`n`. -/
def startNumber (g : Granularity) (n : Int) : Int :=
  match g with
  | .day => n
  | .week => n - n % 7
  | .month => n - ((Civil.ofNumber n).day - 1 : Nat)
  | .year => daysBeforeYear (yearOf n)

/-- The first date of a period is its first day, when that is in range. -/
theorem start?_eq (g : Granularity) (d : Date) :
    start? g d = Date.ofNumber? (startNumber g d.number) := by
  cases g with
  | day => exact d.ofNumber?_number.symm
  | week =>
      have hweek : d.number + -(d.weekday : Int) = d.number - d.number % 7 := by
        simp only [Date.weekday]
        omega
      rw [start?, Date.addDays?, hweek, startNumber]
  | month =>
      have hday := Civil.one_le_day_ofNumber d.number
      have hmonth : d.number + (1 - (d.civil.day : Int)) =
          d.number - ((Civil.ofNumber d.number).day - 1 : Nat) := by
        simp only [Date.civil]
        omega
      rw [start?, Date.addDays?, hmonth, startNumber]
  | year => rfl

/-- The first day of a year begins its first month as well. -/
theorem startNumber_year_le_month (n : Int) : startNumber .year n ≤ startNumber .month n := by
  have hmonth := Civil.daysBefore_ofNumber n
  simp only [startNumber]
  omega

theorem startNumber_le (g : Granularity) (n : Int) : startNumber g n ≤ n := by
  cases g with
  | day => exact le_rfl
  | week =>
      simp only [startNumber]
      omega
  | month =>
      simp only [startNumber]
      omega
  | year => exact daysBeforeYear_yearOf_le n

section
variable {g : Granularity} {m n : Int}

theorem yearOf_eq_of_between (hle : startNumber .year n ≤ m) (hmn : m ≤ n) :
    yearOf m = yearOf n := by
  have hlt := lt_daysBeforeYear_yearOf n
  exact yearOf_eq_iff.2 ⟨hle, by omega⟩

/-- All days from the first one of a period on are of the same period. -/
theorem startNumber_eq_of_between (hle : startNumber g n ≤ m) (hmn : m ≤ n) :
    startNumber g m = startNumber g n := by
  cases g with
  | day =>
      obtain rfl : m = n := le_antisymm hmn hle
      rfl
  | week =>
      simp only [startNumber] at hle ⊢
      omega
  | month =>
      -- both days are of one year, in which a month is told by its bounds
      have hyear : yearOf m = yearOf n :=
        yearOf_eq_of_between ((startNumber_year_le_month n).trans hle) hmn
      have hm := daysBeforeYear_add_dayOfYear m
      have hn := daysBeforeYear_add_dayOfYear n
      obtain ⟨-, htwelve, -, hlt⟩ := monthOf_spec (dayOfYear_lt n)
      have hfirst := Civil.daysBefore_ofNumber n
      have hmonth : (Civil.ofNumber m).month = (Civil.ofNumber n).month := by
        simp only [startNumber, Civil.ofNumber_eq] at hle hfirst ⊢
        rw [hyear] at hm ⊢
        exact monthOf_eq htwelve (by omega) (by omega)
      have hfirst' := Civil.daysBefore_ofNumber m
      rw [hyear, hmonth, hfirst] at hfirst'
      exact hfirst'.symm
  | year => rw [startNumber, startNumber, yearOf_eq_of_between hle hmn]

theorem startNumber_startNumber (g : Granularity) (n : Int) :
    startNumber g (startNumber g n) = startNumber g n :=
  startNumber_eq_of_between le_rfl (startNumber_le g n)

theorem startNumber_mono (h : m ≤ n) : startNumber g m ≤ startNumber g n := by
  by_cases hle : startNumber g n ≤ m
  · exact (startNumber_eq_of_between hle h).le
  · exact (startNumber_le g m).trans (not_le.1 hle).le

end

/-! ## the days that begin periods -/

/-- What it means that the day with number `n`, a date or not, begins a period:
any day begins a day, a Monday a week, and the first of a month or of January a
month or a year. -/
def BeginsPeriod (g : Granularity) (n : Int) : Prop :=
  match g with
  | .day => True
  | .week => n % 7 = 0
  | .month => (Civil.ofNumber n).day = 1
  | .year => (Civil.ofNumber n).month = 1 ∧ (Civil.ofNumber n).day = 1

/-- The days that begin periods are the first days of their own periods. -/
theorem beginsPeriod_iff {g : Granularity} {n : Int} : BeginsPeriod g n ↔ startNumber g n = n := by
  cases g with
  | day => exact iff_of_true trivial rfl
  | week =>
      simp only [BeginsPeriod, startNumber]
      omega
  | month =>
      have hday := Civil.one_le_day_ofNumber n
      simp only [BeginsPeriod, startNumber]
      omega
  | year =>
      have hday := Civil.one_le_day_ofNumber n
      have hmonth := Civil.daysBefore_ofNumber n
      simp only [BeginsPeriod, startNumber]
      constructor
      · rintro ⟨hone, hfirst⟩
        rw [hone, hfirst] at hmonth
        simpa [daysBeforeMonth] using hmonth
      · intro hstart
        obtain ⟨hone, -, -, -⟩ := Civil.isValid_iff.1 (Civil.isValid_ofNumber n)
        have hnone : ¬ 2 ≤ (Civil.ofNumber n).month := fun htwo => by
          have hfebruary : 31 ≤ daysBeforeMonth (isLeap (yearOf n)) (Civil.ofNumber n).month :=
            monotone_daysBeforeMonth _ htwo
          omega
        omega

/-- What it means that a date begins a period: any date a day, a Monday a week,
and the first of a month or of January a month or a year. -/
def IsStart (g : Granularity) (d : Date) : Prop :=
  match g with
  | .day => True
  | .week => d.weekday = 0
  | .month => d.civil.day = 1
  | .year => d.civil.month = 1 ∧ d.civil.day = 1

theorem isStart_iff_beginsPeriod {g : Granularity} {d : Date} :
    IsStart g d ↔ BeginsPeriod g d.number := by
  cases g with
  | week =>
      simp only [IsStart, BeginsPeriod, Date.weekday]
      omega
  | _ => rfl

theorem isStart_iff {g : Granularity} {d : Date} :
    IsStart g d ↔ startNumber g d.number = d.number :=
  isStart_iff_beginsPeriod.trans beginsPeriod_iff

instance (g : Granularity) (d : Date) : Decidable (IsStart g d) :=
  decidable_of_iff _ isStart_iff.symm

/-- A first day that is in range begins its period. -/
theorem isStart_of_ofNumber? {g : Granularity} {n : Int} {d : Date}
    (h : Date.ofNumber? (startNumber g n) = some d) : IsStart g d := by
  rw [isStart_iff, Date.number_of_ofNumber? h, startNumber_startNumber]

theorem truncate_eq_ok {t : Instant} {g : Granularity} {p : Date} :
    truncate t g = .ok p ↔ Date.ofNumber? (startNumber g t.date.number) = some p := by
  rw [truncate, start?_eq]
  cases Date.ofNumber? (startNumber g t.date.number) <;> simp

/-- Truncation finds the latest day that begins a period and is not after the
instant. -/
theorem truncate_eq_ok_iff {t : Instant} {g : Granularity} {p : Date} :
    truncate t g = .ok p ↔
      IsStart g p ∧ p ≤ t.date ∧ ∀ r, IsStart g r → r ≤ t.date → r ≤ p := by
  rw [truncate_eq_ok]
  constructor
  · intro h
    have hp := Date.number_of_ofNumber? h
    refine ⟨isStart_of_ofNumber? h, ?_, fun r hr hle => ?_⟩
    · rw [Date.le_iff, hp]
      exact startNumber_le g _
    · rw [Date.le_iff, hp, ← isStart_iff.1 hr]
      exact startNumber_mono hle
  · rintro ⟨hp, hle, hlatest⟩
    have hfrom : p.number ≤ startNumber g t.date.number := by
      rw [← isStart_iff.1 hp]
      exact startNumber_mono hle
    have hto := startNumber_le g t.date.number
    have hfirst := p.first_le
    have hlast := t.date.le_last
    -- the first day of the period lies between two dates, so it is a date
    let s : Date := ⟨startNumber g t.date.number, by omega, by omega⟩
    have hs : Date.ofNumber? (startNumber g t.date.number) = some s := s.ofNumber?_number
    have hsp : s ≤ p := hlatest s (isStart_of_ofNumber? hs) hto
    rw [hs, Option.some.injEq]
    exact Date.ext (le_antisymm hsp hfrom)

/-- What it means that one period follows another: no other one begins in
between. -/
structure Adjacent (g : Granularity) (p q : Date) : Prop where
  isStart_left : IsStart g p
  isStart_right : IsStart g q
  lt : p < q
  le_of_lt : ∀ r, IsStart g r → p < r → q ≤ r

/-- A day that begins a period follows the period of the day before it. -/
theorem adjacent_iff {g : Granularity} {p q : Date} :
    Adjacent g p q ↔ IsStart g q ∧ p < q ∧ startNumber g (q.number - 1) = p.number := by
  have hlast := startNumber_le g (q.number - 1)
  have hfirst := p.first_le
  have hend := q.le_last
  constructor
  · intro h
    have hlt := Date.lt_iff.1 h.lt
    have hfrom : p.number ≤ startNumber g (q.number - 1) := by
      rw [← isStart_iff.1 h.isStart_left]
      exact startNumber_mono (by omega)
    refine ⟨h.isStart_right, h.lt, ?_⟩
    by_contra hne
    -- the day before would be of a period that begins in between
    let s : Date := ⟨startNumber g (q.number - 1), by omega, by omega⟩
    have hnumber : s.number = startNumber g (q.number - 1) := rfl
    have hs : IsStart g s := isStart_of_ofNumber? s.ofNumber?_number
    have hqs := Date.le_iff.1 (h.le_of_lt s hs (Date.lt_iff.2 (by omega)))
    omega
  · rintro ⟨hq, hlt, hp⟩
    have hstart : IsStart g p := by rw [isStart_iff, ← hp, startNumber_startNumber]
    refine ⟨hstart, hq, hlt, fun r hr hpr => ?_⟩
    rw [Date.lt_iff] at hpr
    rw [Date.le_iff]
    by_contra hrq
    have hsame : startNumber g r.number = startNumber g (q.number - 1) :=
      startNumber_eq_of_between (by omega) (by omega)
    rw [isStart_iff.1 hr, hp] at hsame
    omega

instance (g : Granularity) (p q : Date) : Decidable (Adjacent g p q) :=
  decidable_of_iff _ adjacent_iff.symm

/-- The instants of a period are those from its first day on and before the
next period. -/
theorem Adjacent.truncate_eq_ok_iff {g : Granularity} {p q : Date} (h : Adjacent g p q)
    {t : Instant} : truncate t g = .ok p ↔ Instant.midnight p ≤ t ∧ t < Instant.midnight q := by
  rw [Instant.midnight_le_iff, Instant.lt_midnight_iff, Period.truncate_eq_ok_iff, Date.le_iff,
    Date.lt_iff]
  have hlt := Date.lt_iff.1 h.lt
  constructor
  · rintro ⟨-, hle, hlatest⟩
    refine ⟨hle, ?_⟩
    by_contra hnot
    have hqp := Date.le_iff.1 (hlatest q h.isStart_right (Date.le_iff.2 (by omega)))
    omega
  · rintro ⟨hle, hbefore⟩
    refine ⟨h.isStart_left, hle, fun r hr hrt => ?_⟩
    rw [Date.le_iff] at hrt ⊢
    by_contra hnot
    have hqr := Date.le_iff.1 (h.le_of_lt r hr (Date.lt_iff.2 (by omega)))
    omega

/-! ## periods made of periods -/

end Period

/-- Whether periods of the second length are made of whole periods of the
first.  Weeks run across the ends of months and years. -/
def Granularity.Divides : Granularity → Granularity → Prop
  | .day, .week | .day, .month | .day, .year | .month, .year => True
  | _, _ => False

namespace Period

variable {fine coarse : Granularity}

theorem startNumber_le_of_divides (h : fine.Divides coarse) (n : Int) :
    startNumber coarse n ≤ startNumber fine n := by
  cases fine <;> cases coarse <;> try contradiction
  case month.year => exact startNumber_year_le_month n
  all_goals exact startNumber_le _ n

/-- The first day of a short period is of the same long period as its other
days. -/
theorem startNumber_of_divides (h : fine.Divides coarse) (n : Int) :
    startNumber coarse (startNumber fine n) = startNumber coarse n :=
  startNumber_eq_of_between (startNumber_le_of_divides h n) (startNumber_le fine n)

/-- Truncating to a short period first makes no difference. -/
theorem truncate_midnight_iff (h : fine.Divides coarse) {t : Instant} {p c : Date}
    (hp : truncate t fine = .ok p) :
    truncate (.midnight p) coarse = .ok c ↔ truncate t coarse = .ok c := by
  have hnumber := Date.number_of_ofNumber? (truncate_eq_ok.1 hp)
  have hdate : (Instant.midnight p).date = p := rfl
  rw [truncate_eq_ok, truncate_eq_ok, hdate, hnumber, startNumber_of_divides h]

end Period

end Readership
