import Readership.Proofs.PrecedingPeriods
import Readership.Proofs.Reading

/-!
# Readership.Proofs.Flooring

Truncation as flooring by the calendar, and the step to the period before.

`Period.IsFloor` says which period a date is rounded down to: the one that begins
no later than the date, with no other one beginning in between.  Truncation
finds it (`truncate_eq_ok_iff_isFloor`), so everything else about truncation
is told of floors:

* the first date of a period is its own floor (`IsStart.isFloor`);
* later dates have no earlier floors (`IsFloor.le_of_le`);
* dates have the same floor unless a period begins between them
  (`IsFloor.iff_not_separates`).

There is no floor in the cut week before the first Monday only
(`truncate_eq_error_iff`).  The period before another one is the floor of the
day before it (`previous_eq_ok_iff_truncate`), so two periods do not have the
same one before them (`Adjacent.right_unique`).
-/

namespace Readership

open Calendar

namespace Calendar

/-- The earliest Monday.  The earliest date is a Thursday. -/
def Date.firstMonday : Date := ⟨firstNumber + 4, by decide, by decide⟩

/-- An instant is of no later day than the instants after it. -/
theorem Instant.date_le_of_le {t t' : Instant} (h : t ≤ t') : t.date ≤ t'.date := by
  have hstart : midnight t.date ≤ t := midnight_le_iff.2 le_rfl
  exact midnight_le_iff.1 (Int.le_trans hstart h)

end Calendar

namespace Period

variable {g : Granularity} {d d' p p' q r : Date} {t t' : Instant}

/-! ## floors -/

/-- What it means that a date is rounded down to the first date of a period. -/
structure IsFloor (g : Granularity) (d p : Date) : Prop where
  isStart : IsStart g p
  le : p ≤ d
  not_le : ∀ r, IsStart g r → p < r → ¬ r ≤ d

/-- What it means that a date comes between two others, the later of which it
may be. -/
def Separates (r d d' : Date) : Prop := (d < r ∧ r ≤ d') ∨ (d' < r ∧ r ≤ d)

theorem truncate_eq_ok_iff_isFloor : truncate t g = .ok p ↔ IsFloor g t.date p := by
  rw [truncate_eq_ok_iff]
  constructor
  · rintro ⟨hstart, hle, hlatest⟩
    exact ⟨hstart, hle, fun r hr hpr hrt => (hlatest r hr hrt).not_gt hpr⟩
  · intro h
    exact ⟨h.isStart, h.le, fun r hr hrt => not_lt.1 fun hpr => h.not_le r hr hpr hrt⟩

theorem IsStart.isFloor (h : IsStart g p) : IsFloor g p p :=
  ⟨h, le_rfl, fun _ _ => not_le_of_gt⟩

namespace IsFloor

theorem le_of_le (h : IsFloor g d p) (h' : IsFloor g d' p') (hd : d ≤ d') : p ≤ p' :=
  not_lt.1 fun hlt => h'.not_le p h.isStart hlt (h.le.trans hd)

/-- Dates are rounded down alike unless a period begins between them. -/
theorem iff_not_separates (h : IsFloor g d p) :
    IsFloor g d' p ↔ ∀ r, IsStart g r → ¬ Separates r d d' := by
  constructor
  · rintro h' r hr (⟨hdr, hrd'⟩ | ⟨hd'r, hrd⟩)
    · exact h'.not_le r hr (h.le.trans_lt hdr) hrd'
    · exact h.not_le r hr (h'.le.trans_lt hd'r) hrd
  · intro hnone
    refine ⟨h.isStart, ?_, fun r hr hpr hrd' => ?_⟩
    · -- the period itself would begin between the dates
      exact not_lt.1 fun hd'p => hnone p h.isStart (.inr ⟨hd'p, h.le⟩)
    · have hdr : d < r := lt_of_not_ge (h.not_le r hr hpr)
      exact hnone r hr (.inl ⟨hdr, hrd'⟩)

end IsFloor

/-! ## truncation -/

/-- Where an instant has a period, later ones have one. -/
theorem exists_truncate_of_le (ht : t ≤ t') (h : ∃ p, truncate t g = .ok p) :
    ∃ p, truncate t' g = .ok p := by
  have hdate := Date.le_iff.1 (Instant.date_le_of_le ht)
  rw [exists_truncate_iff] at h ⊢
  exact h.trans (startNumber_mono hdate)

/-- The week of a date begins with a date from the first Monday on. -/
theorem first_le_startNumber_week_iff (d : Date) :
    firstNumber ≤ startNumber .week d.number ↔ Date.firstMonday ≤ d := by
  have hthursday : firstNumber % 7 = 3 := by decide
  have hnumber : Date.firstMonday.number = firstNumber + 4 := rfl
  have hfirst := d.first_le
  rw [Date.le_iff, startNumber]
  omega

theorem isStart_firstMonday : IsStart .week Date.firstMonday := by decide

theorem firstMonday_le (h : IsStart .week r) : Date.firstMonday ≤ r := by
  rw [← first_le_startNumber_week_iff, isStart_iff.1 h]
  exact r.first_le

/-- Truncation tells of the date that it cannot truncate. -/
theorem eq_of_truncate_eq_error {e : OutOfRange} (h : truncate t g = .error e) :
    e = ⟨t.date, g⟩ := by
  unfold truncate at h
  split at h
  · contradiction
  · exact (Except.error.inj h).symm

/-- Only the instants before the first Monday have no week. -/
theorem truncate_eq_error_iff {e : OutOfRange} :
    truncate t g = .error e ↔ e = ⟨t.date, g⟩ ∧ g = .week ∧ t.date < Date.firstMonday := by
  rw [eq_error_iff_of_forall fun _ => eq_of_truncate_eq_error]
  by_cases hg : g = .week
  · subst hg
    rw [exists_truncate_iff, first_le_startNumber_week_iff, not_le]
    simp
  · simp [hg, exists_truncate_of_ne_week hg t]

/-- **Truncation is flooring by the calendar**: of the days, Mondays, firsts of a
month or firsts of January, an instant is truncated to the last one that is not
after its date.  So the midnight of a period is truncated to the period, later
instants are not truncated to earlier periods, and two instants share a period
unless one begins between their dates.  There is no truncation to weeks before
the first Monday, and nothing else fails. -/
theorem truncate_isFloor (g : Granularity) :
    (∀ t p, truncate t g = .ok p ↔ IsFloor g t.date p) ∧
    (∀ t p, truncate t g = .ok p → truncate (.midnight p) g = .ok p) ∧
    (∀ t t' p, t ≤ t' → truncate t g = .ok p → ∃ p', truncate t' g = .ok p' ∧ p ≤ p') ∧
    (∀ t t' p, truncate t g = .ok p →
      (truncate t' g = .ok p ↔ ∀ r, IsStart g r → ¬ Separates r t.date t'.date)) ∧
    ∃ monday, IsStart .week monday ∧ (∀ r, IsStart .week r → monday ≤ r) ∧
      ∀ t e, truncate t g = .error e ↔ e = ⟨t.date, g⟩ ∧ g = .week ∧ t.date < monday := by
  refine ⟨fun t p => truncate_eq_ok_iff_isFloor, fun t p h => ?_, fun t t' p hle h => ?_,
    fun t t' p h => ?_, Date.firstMonday, isStart_firstMonday, fun r => firstMonday_le,
    fun t e => truncate_eq_error_iff⟩
  · exact truncate_eq_ok_iff_isFloor.2 (truncate_eq_ok_iff_isFloor.1 h).isStart.isFloor
  · obtain ⟨p', h'⟩ := exists_truncate_of_le hle ⟨p, h⟩
    refine ⟨p', h', ?_⟩
    exact (truncate_eq_ok_iff_isFloor.1 h).le_of_le (truncate_eq_ok_iff_isFloor.1 h')
      (Instant.date_le_of_le hle)
  · rw [truncate_eq_ok_iff_isFloor] at h ⊢
    exact h.iff_not_separates

/-- The leap second at the end of 2016, a Saturday, and the Sunday after it; and
the earliest date. -/
theorem truncate_isFloor_sample :
    let saturday : Date := ⟨736328, by decide, by decide⟩
    let sunday : Date := ⟨736329, by decide, by decide⟩
    let monday : Date := ⟨736323, by decide, by decide⟩
    let leap : Instant := ⟨saturday, 86399, 1500000000, by decide, by decide, by decide⟩
    leap ≤ .midnight sunday ∧ truncate leap .week = .ok monday ∧
      IsFloor .week saturday monday ∧ truncate (.midnight monday) .week = .ok monday ∧
      (∃ p', truncate (.midnight sunday) .week = .ok p' ∧ monday ≤ p') ∧
      truncate (.midnight sunday) .week = .ok monday ∧
      (∀ r, IsStart .week r → ¬ Separates r saturday sunday) ∧
      truncate (.midnight Date.first) .week = .error ⟨Date.first, .week⟩ ∧
      ∃ first, IsStart .week first ∧ (∀ r, IsStart .week r → first ≤ r) ∧ Date.first < first := by
  intro saturday sunday monday leap
  have hle : leap ≤ .midnight sunday := by decide
  have hweek : truncate leap .week = .ok monday := by decide
  have hshares : truncate (.midnight sunday) .week = .ok monday := by decide
  have hcut : truncate (.midnight Date.first) .week = .error ⟨Date.first, .week⟩ := by decide
  obtain ⟨hfloor, hmidnight, hmono, hshared, first, hstart, hfirst, herror⟩ :=
    truncate_isFloor .week
  obtain ⟨-, -, hbefore⟩ := (herror _ _).1 hcut
  exact ⟨hle, hweek, (hfloor leap monday).1 hweek, hmidnight leap monday hweek,
    hmono leap (.midnight sunday) monday hle hweek, hshares,
    (hshared leap (.midnight sunday) monday hweek).1 hshares, hcut, first, hstart, hfirst, hbefore⟩

/-! ## the period before -/

/-- The period before another one is the one that the day before is truncated to. -/
theorem previous_eq_ok_iff_truncate (h : IsStart g p) :
    previous p g = .ok q ↔ ∃ d, p.addDays? (-1) = some d ∧ truncate (.midnight d) g = .ok q := by
  have hle := startNumber_le g (p.number - 1)
  have hlast := p.le_last
  rw [previous_eq_ok, previous?_eq h]
  simp only [Date.addDays?, Date.ofNumber?_eq_some_iff, truncate_eq_ok]
  constructor
  · intro hq
    have hfirst := q.first_le
    exact ⟨⟨p.number - 1, by omega, by omega⟩, rfl, hq⟩
  · rintro ⟨d, hd, hq⟩
    have hbefore : p.number - 1 = d.number := hd.symm
    rwa [hbefore]

/-- The period after another one is told by it. -/
theorem Adjacent.right_unique (h : Adjacent g q p) (h' : Adjacent g q p') : p = p' :=
  le_antisymm (h.le_of_lt p' h'.isStart_right h'.lt) (h'.le_of_lt p h.isStart_right h.lt)

/-- The step back tells of the period that it cannot be taken from. -/
theorem eq_of_previous_eq_error {e : OutOfRange} (h : previous p g = .error e) : e = ⟨p, g⟩ := by
  unfold previous at h
  split at h
  · contradiction
  · exact (Except.error.inj h).symm

theorem previous_eq_error_iff (h : IsStart g p) {e : OutOfRange} :
    previous p g = .error e ↔ e = ⟨p, g⟩ ∧ ∃ m, Precedes g m p ∧ m < firstNumber := by
  rw [eq_error_iff_of_forall fun _ => eq_of_previous_eq_error, not_exists_previous_iff h]

/-- **The step back is to the period just before**: from the first date of a
period it leads to the first date of an earlier one with none in between, the
one that the midnight of the day before is truncated to, and never from two
periods to the same one.  There is no step only where the period just before
would begin before the earliest date. -/
theorem previous_adjacent (h : IsStart g p) :
    (∀ q, previous p g = .ok q →
      IsStart g q ∧ q < p ∧ ∀ r, IsStart g r → ¬ (q < r ∧ r < p)) ∧
    (∀ q, previous p g = .ok q ↔
      ∃ d, p.addDays? (-1) = some d ∧ truncate (.midnight d) g = .ok q) ∧
    (∀ p' q, IsStart g p' → previous p g = .ok q → previous p' g = .ok q → p = p') ∧
    ∀ e, previous p g = .error e ↔ e = ⟨p, g⟩ ∧ ∃ m, Precedes g m p ∧ m < firstNumber := by
  refine ⟨fun q hq => ?_, fun q => previous_eq_ok_iff_truncate h, fun p' q h' hq hq' => ?_,
    fun e => previous_eq_error_iff h⟩
  · have hadjacent := (previous_eq_ok_iff h).1 hq
    refine ⟨hadjacent.isStart_left, hadjacent.lt, fun r hr hbetween => ?_⟩
    exact (hadjacent.le_of_lt r hr hbetween.1).not_gt hbetween.2
  · exact ((previous_eq_ok_iff h).1 hq).right_unique ((previous_eq_ok_iff h').1 hq')

/-- The month before March 2024, by the leap day. -/
theorem previous_adjacent_sample :
    let march : Date := ⟨738945, by decide, by decide⟩
    let february : Date := ⟨738916, by decide, by decide⟩
    march.civil = ⟨2024, 3, 1⟩ ∧ IsStart .month march ∧ previous march .month = .ok february ∧
      (IsStart .month february ∧ february < march ∧
        ∀ r, IsStart .month r → ¬ (february < r ∧ r < march)) ∧
      (∃ d, march.addDays? (-1) = some d ∧ truncate (.midnight d) .month = .ok february) ∧
      (∀ p', IsStart .month p' → previous p' .month = .ok february → march = p') := by
  intro march february
  have hstart : IsStart .month march := by decide
  have hprevious : previous march .month = .ok february := by decide
  obtain ⟨hbefore, htruncate, hunique, -⟩ := previous_adjacent hstart
  exact ⟨by decide, hstart, hprevious, hbefore february hprevious,
    (htruncate february).1 hprevious, fun p' h' hp' => hunique p' february h' hprevious hp'⟩

end Period

end Readership
