import Readership.Proofs.Parts
import Readership.Proofs.PrecedingPeriods

/-!
# Readership.Proofs.RangeEdge

When there is no series.

A series takes the period of every selected view and of every blog, and with a
calendar baseline the period before each of these.  Each step fails where it
would go before the earliest date.

`not_inRange_iff` says of one instant when a step fails: the Monday of its week
is no date, or the period before its own would begin before the earliest date.
`series_error_iff` says so of a series.  Hence there always is one by day, month
or year that compares its rows in turn (`exists_series_sequential`), and views
that are not selected cannot be the reason that there is none
(`exists_series_of_subset`).
-/

namespace Readership

open Calendar

/-- The number of the Monday of a date's week, itself a date or not. -/
def Calendar.Date.mondayNumber (d : Date) : Int := d.number - d.weekday

theorem Period.startNumber_week (d : Date) : startNumber .week d.number = d.mondayNumber := by
  simp only [startNumber, Date.mondayNumber, Date.weekday]
  omega

namespace Report

section
variable {g : Granularity} {baseline : Baseline} {t : Instant}

/-- An instant has no period where the Monday of its week is no date. -/
theorem not_exists_truncate_iff :
    (¬ ∃ p, Period.truncate t g = .ok p) ↔ g = .week ∧ t.date.mondayNumber < firstNumber := by
  by_cases hg : g = .week
  · subst hg
    simp [Period.exists_truncate_iff, Period.startNumber_week]
  · simp [hg, Period.exists_truncate_of_ne_week hg t]

/-- The earliest date is a Thursday. -/
example : Date.first.mondayNumber = firstNumber - 3 := by decide

/-- An instant is out of range where its own period or the one before it is. -/
theorem not_inRange_iff :
    ¬ InRange g baseline t ↔
      (g = .week ∧ t.date.mondayNumber < firstNumber) ∨
        (baseline = .calendar ∧ ∃ p, Period.truncate t g = .ok p ∧
          ∃ m, Period.Precedes g m p ∧ m < firstNumber) := by
  rw [← not_exists_truncate_iff]
  cases htruncate : Period.truncate t g with
  | error e => simp [InRange, htruncate]
  | ok p =>
      have hstart := (Period.truncate_eq_ok_iff.1 htruncate).1
      simp [InRange, htruncate, ← Period.not_exists_previous_iff hstart]

/-- Something is out of range where a week of it is, or the period before one of it. -/
theorem exists_not_inRange_iff {α : Type} {time : α → Instant} {items : List α} :
    (∃ a ∈ items, ¬ InRange g baseline (time a)) ↔
      (g = .week ∧ ∃ a ∈ items, (time a).date.mondayNumber < firstNumber) ∨
        (baseline = .calendar ∧ ∃ p, (∃ a ∈ items, Period.truncate (time a) g = .ok p) ∧
          ∃ m, Period.Precedes g m p ∧ m < firstNumber) := by
  simp only [not_inRange_iff]
  constructor
  · rintro ⟨a, ha, ⟨hg, hweek⟩ | ⟨hb, p, hp, hm⟩⟩
    · exact .inl ⟨hg, a, ha, hweek⟩
    · exact .inr ⟨hb, p, ⟨a, ha, hp⟩, hm⟩
  · rintro (⟨hg, a, ha, hweek⟩ | ⟨hb, p, ⟨a, ha, hp⟩, hm⟩)
    · exact ⟨a, ha, .inl ⟨hg, hweek⟩⟩
    · exact ⟨a, ha, .inr ⟨hb, p, hp, hm⟩⟩

end

section
variable {d : Dataset} {q : ViewQuery} {blogs : List Blog} {g : Granularity} {baseline : Baseline}

/-- There is no series where the instant of a view or of a blog is out of range. -/
theorem exists_series_error_iff :
    (∃ e, series d q blogs g baseline = .error e) ↔
      (∃ v ∈ q.rows d, ¬ InRange g baseline v.viewedAt) ∨
        ∃ b ∈ blogs, ¬ InRange g baseline b.createdAt := by
  rw [exists_error_iff, exists_series_iff, not_and_or]
  simp only [not_forall, exists_prop]

/-- Days, months and years that are compared in turn are never out of range. -/
theorem exists_series_sequential (hg : g ≠ .week) :
    ∃ rows, series d q blogs g .sequential = .ok rows := by
  have hrange (t : Instant) : InRange g .sequential t := by
    by_contra hnot
    simp [not_inRange_iff, hg] at hnot
  exact exists_series_iff.2 ⟨fun v _ => hrange v.viewedAt, fun b _ => hrange b.createdAt⟩

/-- Where there is a series there is one of fewer views. -/
theorem exists_series_of_subset {d' : Dataset} {q' : ViewQuery}
    (hrows : ∀ v ∈ q'.rows d', v ∈ q.rows d)
    (h : ∃ rows, series d q blogs g baseline = .ok rows) :
    ∃ rows, series d' q' blogs g baseline = .ok rows := by
  obtain ⟨hviews, hblogs⟩ := exists_series_iff.1 h
  exact exists_series_iff.2 ⟨fun v hv => hviews v (hrows v hv), hblogs⟩

end

/-- **When there is no series**: a selected view or a blog is of a week whose
Monday is before the earliest date, or the calendar baseline asks for a period
that would begin before that date.  So by day, month and year there always is a
series of rows compared in turn, and there is one of fewer selected views
wherever there is one of more. -/
theorem series_error_iff (d : Dataset) (q : ViewQuery) (blogs : List Blog) (g : Granularity)
    (baseline : Baseline) :
    ((∃ e, series d q blogs g baseline = .error e) ↔
      (g = .week ∧ ((∃ v ∈ q.rows d, v.viewedAt.date.mondayNumber < firstNumber) ∨
        ∃ b ∈ blogs, b.createdAt.date.mondayNumber < firstNumber)) ∨
      (baseline = .calendar ∧ ∃ p, ((∃ v ∈ q.rows d, Period.truncate v.viewedAt g = .ok p) ∨
        ∃ b ∈ blogs, Period.truncate b.createdAt g = .ok p) ∧
          ∃ m, Period.Precedes g m p ∧ m < firstNumber)) ∧
    (baseline = .sequential → g ≠ .week → ∃ rows, series d q blogs g baseline = .ok rows) ∧
    ∀ d' q', (∀ v ∈ q'.rows d', v ∈ q.rows d) →
      (∃ rows, series d q blogs g baseline = .ok rows) →
        ∃ rows, series d' q' blogs g baseline = .ok rows := by
  refine ⟨?_, ?_, fun d' q' hrows h => exists_series_of_subset hrows h⟩
  · rw [exists_series_error_iff, exists_not_inRange_iff, exists_not_inRange_iff]
    simp only [or_and_right, exists_or, and_or_left]
    exact or_or_or_comm
  · rintro rfl hg
    exact exists_series_sequential hg

end Report

end Readership
