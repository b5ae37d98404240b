import Mathlib.Data.List.Sort
import Readership.Proofs.PrecedingPeriods
import Readership.Proofs.Series

/-!
# Readership.Proofs.Baselines

The growth that the two baselines tell.

In turn, a row of a series is compared with the row before it; by the calendar, with
the period just before its own.  The periods of a series ascend, so the period
before one of them either is the one before it in the series or is not there at
all (`IsSeries.exists_position_before`).  In the first case both baselines compare with
the same count (`comparedWith_of_follows`), in the second the calendar finds no
views (`IsSeries.comparedWith_of_not_follows`).
-/

namespace Readership.Report

open Calendar Period

/-- What it means that the period at a position is the one right after the
period at the position before. -/
def Follows (g : Granularity) (ps : List Date) : Nat → Prop
  | 0 => False
  | i + 1 => ∃ q p, ps[i]? = some q ∧ ps[i + 1]? = some p ∧ Period.previous p g = .ok q

/-- Where no period is left out, both baselines compare with the row before. -/
theorem comparedWith_of_follows {views : Date → Nat} {g : Granularity} {before i : Nat}
    {ps : List Date} (h : Follows g ps i) :
    comparedWith views g before ps .calendar i = comparedWith views g before ps .sequential i := by
  cases i with
  | zero => exact h.elim
  | succ i =>
      obtain ⟨q, p, hq, hp, hprevious⟩ := h
      simp [comparedWith, hq, hp, hprevious, Except.toOption]

namespace IsSeries

variable {views : List View} {blogs : List Blog} {g : Granularity} {baseline baseline' : Baseline}
  {ps ps' : List Date} {rows rows' : List Row} {i j : Nat} {p q : Date}

/-- The periods of a series do not depend on what they are compared with. -/
theorem periods_eq (s : IsSeries views blogs g baseline ps rows)
    (s' : IsSeries views blogs g baseline' ps' rows') : ps = ps' :=
  s.ascending.eq_of_mem_iff s'.ascending fun p => (s.mem_iff p).trans (s'.mem_iff p).symm

theorem isStart (s : IsSeries views blogs g baseline ps rows) (hp : p ∈ ps) : IsStart g p := by
  rcases (s.mem_iff p).1 hp with ⟨v, -, hv⟩ | ⟨b, -, hb⟩
  · exact (truncate_eq_ok_iff.1 hv).1
  · exact (truncate_eq_ok_iff.1 hb).1

theorem lt_of_position_lt (s : IsSeries views blogs g baseline ps rows) (hp : ps[i]? = some p)
    (hq : ps[j]? = some q) (h : i < j) : p < q := by
  obtain ⟨hi, rfl⟩ := List.getElem?_eq_some_iff.1 hp
  obtain ⟨hj, rfl⟩ := List.getElem?_eq_some_iff.1 hq
  exact List.pairwise_iff_getElem.1 s.ascending i j hi hj h

/-- Of two adjacent periods in a series the second comes right after the first. -/
theorem exists_position_before (s : IsSeries views blogs g baseline ps rows)
    (hp : ps[i]? = some p) (hq : q ∈ ps) (h : Adjacent g q p) :
    ∃ j, i = j + 1 ∧ ps[j]? = some q := by
  obtain ⟨j, hj⟩ := List.mem_iff_getElem?.1 hq
  refine ⟨j, ?_, hj⟩
  have hqp := Date.lt_iff.1 h.lt
  by_contra hne
  by_cases hij : i ≤ j
  · rcases Nat.eq_or_lt_of_le hij with rfl | hlt
    · obtain rfl : p = q := Option.some.inj (hp.symm.trans hj)
      omega
    · have hpq := Date.lt_iff.1 (s.lt_of_position_lt hp hj hlt)
      omega
  · -- the period after the first one would begin in between
    have hi := (List.getElem?_eq_some_iff.1 hp).1
    have hr : ps[j + 1]? = some ps[j + 1] := List.getElem?_eq_getElem (by omega)
    have hqr := s.lt_of_position_lt hj hr (by omega)
    have hrp := Date.lt_iff.1 (s.lt_of_position_lt hr hp (by omega))
    have hpr := Date.le_iff.1 (h.le_of_lt _ (s.isStart (List.mem_of_getElem? hr)) hqr)
    omega

/-- Past a gap the calendar compares with no views. -/
theorem comparedWith_of_not_follows (s : IsSeries views blogs g .calendar ps rows)
    (h : ¬ Follows g ps i) : comparedWith (viewsIn views g) g 0 ps .calendar i = 0 := by
  rw [comparedWith]
  cases hp : ps[i]? with
  | none => rfl
  | some p =>
      have hmem := List.mem_of_getElem? hp
      obtain ⟨q, hq⟩ := s.previous_ok rfl p hmem
      have hnot : q ∉ ps := by
        intro hqmem
        obtain ⟨j, rfl, hj⟩ := s.exists_position_before hp hqmem
          ((previous_eq_ok_iff (s.isStart hmem)).1 hq)
        exact h ⟨q, p, hj, hp, hq⟩
      rw [Option.bind_some, hq]
      exact s.viewsIn_eq_zero hnot

end IsSeries

/-- **The two baselines agree except across gaps**: the series of the same views
and blogs have the same periods with the same counts, and growth is the same in the
first row and wherever the row before is of the period before.  At any other row
the calendar tells the growth over no views. -/
theorem baselines_agree_except_across_gaps {d : Dataset} {q : ViewQuery} {blogs : List Blog}
    {g : Granularity} {rows rows' : List Row} (hturn : series d q blogs g .sequential = .ok rows)
    (hcalendar : series d q blogs g .calendar = .ok rows') :
    ∃ ps, IsSeries (q.rows d) blogs g .sequential ps rows ∧
      IsSeries (q.rows d) blogs g .calendar ps rows' ∧
      rows.length = rows'.length ∧ rows.map (·.x) = rows'.map (·.x) ∧
      rows.map (·.y) = rows'.map (·.y) ∧
      ∀ (i : Nat) (r r' : Row), rows[i]? = some r → rows'[i]? = some r' →
        (i = 0 ∨ Follows g ps i → r.z = r'.z) ∧
        (¬ (i = 0 ∨ Follows g ps i) →
          ∃ n : Nat, r'.y = .count n ∧ r'.z = .label (Growth.text n 0)) := by
  obtain ⟨ps, s⟩ := exists_isSeries hturn
  obtain ⟨ps', s'⟩ := exists_isSeries hcalendar
  obtain rfl := s.periods_eq s'
  have hx : rows.map (·.x) = rows'.map (·.x) := by
    rw [s.map_rows (·.x) _ fun p n => rfl, s'.map_rows (·.x) _ fun p n => rfl]
  have hy : rows.map (·.y) = rows'.map (·.y) := by
    rw [s.map_rows (·.y) _ fun p n => rfl, s'.map_rows (·.y) _ fun p n => rfl]
  refine ⟨ps, s, s', s.length_rows.trans s'.length_rows.symm, hx, hy, ?_⟩
  intro i r r' hr hr'
  have hi : i < ps.length := by
    rw [← s.length_rows]
    exact (List.getElem?_eq_some_iff.1 hr).1
  have hp : ps[i]? = some ps[i] := List.getElem?_eq_getElem hi
  obtain rfl := Option.some.inj ((s.getElem?_rows hp).symm.trans hr)
  obtain rfl := Option.some.inj ((s'.getElem?_rows hp).symm.trans hr')
  constructor
  · rintro (rfl | hfollows)
    · simp only [rowOf, s'.comparedWith_of_not_follows (i := 0) id]
      rfl
    · simp only [rowOf, comparedWith_of_follows hfollows]
  · intro hnot
    rw [not_or] at hnot
    refine ⟨_, rfl, ?_⟩
    simp only [rowOf, s'.comparedWith_of_not_follows hnot.2]

/-- A view on the last day of a year, and one on the second of the next. -/
theorem baselines_agree_except_across_gaps_sample :
    let blogs := Tables.quietNewYear.blogs.toList
    let rows : List Row := [⟨"2016-12-26 (1 blog)", .count 0, .label "0.0%"⟩,
      ⟨"2016-12-31 (0 blogs)", .count 1, .label "+100.0%"⟩,
      ⟨"2017-01-02 (0 blogs)", .count 1, .label "+0.0%"⟩]
    let rows' : List Row := [⟨"2016-12-26 (1 blog)", .count 0, .label "0.0%"⟩,
      ⟨"2016-12-31 (0 blogs)", .count 1, .label "+100.0%"⟩,
      ⟨"2017-01-02 (0 blogs)", .count 1, .label "+100.0%"⟩]
    ∃ d ps, Dataset.ofTables .quietNewYear = .ok d ∧
      series d .everything blogs .day .sequential = .ok rows ∧
      series d .everything blogs .day .calendar = .ok rows' ∧
      IsSeries (ViewQuery.everything.rows d) blogs .day .sequential ps rows ∧
      IsSeries (ViewQuery.everything.rows d) blogs .day .calendar ps rows' ∧
      rows.length = rows'.length ∧ rows.map (·.x) = rows'.map (·.x) ∧
      rows.map (·.y) = rows'.map (·.y) ∧
      ∀ (i : Nat) (r r' : Row), rows[i]? = some r → rows'[i]? = some r' →
        (i = 0 ∨ Follows .day ps i → r.z = r'.z) ∧
        (¬ (i = 0 ∨ Follows .day ps i) →
          ∃ n : Nat, r'.y = .count n ∧ r'.z = .label (Growth.text n 0)) := by
  intro blogs rows rows'
  obtain ⟨d, hd⟩ := Dataset.exists_ofTables Tables.sound_quietNewYear
  have hviews : ViewQuery.everything.rows d = Tables.quietNewYear.views.toList := by
    rw [ViewQuery.rows_everything, Dataset.tables_of_ofTables hd]
  have hturn : series d .everything blogs .day .sequential = .ok rows := by
    rw [← toOption_eq_some_iff, series, hviews]
    decide +kernel
  have hcalendar : series d .everything blogs .day .calendar = .ok rows' := by
    rw [← toOption_eq_some_iff, series, hviews]
    decide +kernel
  obtain ⟨ps, h⟩ := baselines_agree_except_across_gaps hturn hcalendar
  exact ⟨d, ps, hd, hturn, hcalendar, h⟩

end Readership.Report
