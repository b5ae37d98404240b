import Readership.Proofs.Conjunctions
import Readership.Proofs.PeriodStarts
import Readership.Proofs.Series
import Readership.Proofs.TimeConditions

/-!
# Readership.Proofs.PeriodFilter

A period of a series as a filter.

A series counts a view in the period that its time is truncated to.  The same
views can be asked for by two conditions on their time, that it is not before
the first day of the period (`gte`) and before that of the next (`lt`), each
day written as the label of a daily series.  `daysTree` is that filter tree.

A leap second belongs to the day that it ends, on both sides.
-/

namespace Readership

open Calendar

/-- The tree that asks for the views from one day on and before another. -/
def daysTree (first next : Date) : Json :=
  FilterNode.conjunction [(Condition.onTime .gte (Period.text first .day)).node,
    (Condition.onTime .lt (Period.text next .day)).node]

section
variable {first next : Date} (hfirst : first.HasShortYear) (hnext : next.HasShortYear)
include hfirst hnext

/-- The tree of two days compares times with their midnights. -/
theorem RowFilter.ofTree_daysTree : ofTree (daysTree first next) =
    .ok (.all [.test ViewQuery.viewedAt (.greaterOrEqual (.timestamp (.midnight first))),
      .test ViewQuery.viewedAt (.less (.timestamp (.midnight next)))]) := by
  have hgte := ofTree_onTime .gte (fun _ => rfl) (Instant.ofOperand?_dateText hfirst)
  have hlt := ofTree_onTime .lt (fun _ => rfl) (Instant.ofOperand?_dateText hnext)
  rw [daysTree, ofTree_conjunction_eq_ok_iff (by simp) (by simp [Condition.node])]
  exact ⟨_, by simp [Period.text, hgte, hlt], rfl⟩

namespace ViewQuery

/-- Of a selection, the tree of two days leaves the views in between. -/
theorem exists_narrow_daysTree (q : ViewQuery) (d : Dataset) :
    ∃ q', q.narrow (some (daysTree first next)) = .ok q' ∧
      q'.rows d = (q.rows d).filter fun v =>
        .midnight first ≤ v.viewedAt ∧ v.viewedAt < .midnight next := by
  refine ⟨_, q.narrow_eq_ok (RowFilter.ofTree_daysTree hfirst hnext), rows_filter ?_ q⟩
  intro i v hv
  rw [RowFilter.holds, RowFilter.holdsAll_eq, Bool.decide_and]
  simp [RowFilter.holds_viewedAt hv, Lookup.test_greaterOrEqual_timestamp,
    Lookup.test_less_timestamp]

end ViewQuery

end

namespace Report

/-- **A period is a filter**: let one period of a length follow another, with
years from 0 to 9999.  Any selection that has a series can be narrowed to the
days of the first period by a filter tree, which leaves the views that are
truncated to it, those of its last day among them up to the end of a leap
second.  They are as many as the row of the period counts, and none where there
is no such row. -/
theorem series_period_eq_filter {d : Dataset} {q : ViewQuery} {blogs : List Blog}
    {g : Granularity} {baseline : Baseline} {rows : List Row}
    (hrows : series d q blogs g baseline = .ok rows) {p next : Date}
    (h : Period.Adjacent g p next) (hp : p.HasShortYear) (hnext : next.HasShortYear) :
    ∃ ps q', IsSeries (q.rows d) blogs g baseline ps rows ∧
      q.narrow (some (daysTree p next)) = .ok q' ∧
      q'.rows d = (q.rows d).filter (fun v => (Period.truncate v.viewedAt g).toOption = some p) ∧
      (∀ v ∈ q.rows d, v.viewedAt.date.number + 1 = next.number → v ∈ q'.rows d) ∧
      (∀ i : Nat, ps[i]? = some p → ∃ r : Row, rows[i]? = some r ∧
        r.x = Period.label p g (blogsIn blogs g p) ∧ r.y = .count (q'.count d)) ∧
      (p ∉ ps → q'.rows d = []) := by
  obtain ⟨ps, hs⟩ := exists_isSeries hrows
  obtain ⟨q', hq', hbetween⟩ := ViewQuery.exists_narrow_daysTree hp hnext q d
  have htruncated : q'.rows d =
      (q.rows d).filter fun v => (Period.truncate v.viewedAt g).toOption = some p := by
    rw [hbetween]
    apply List.filter_congr
    intro v _
    simp only [toOption_eq_some_iff, h.truncate_eq_ok_iff]
  have hcount : viewsIn (q.rows d) g p = q'.count d := by
    rw [viewsIn, countIn, List.countP_eq_length_filter, ← htruncated, ViewQuery.count]
  refine ⟨ps, q', hs, hq', htruncated, fun v hv hlast => ?_, fun i hi => ?_, fun hnot => ?_⟩
  · have hlt := Date.lt_iff.1 h.lt
    rw [hbetween, List.mem_filter, decide_eq_true_eq, Instant.midnight_le_iff,
      Instant.lt_midnight_iff, Date.le_iff, Date.lt_iff]
    exact ⟨hv, by omega, by omega⟩
  · exact ⟨_, hs.getElem?_rows hi, rfl, by rw [← hcount]; rfl⟩
  · rw [htruncated, List.filter_eq_nil_iff]
    intro v hv htrunc
    rw [decide_eq_true_eq, toOption_eq_some_iff] at htrunc
    exact hnot ((hs.mem_iff p).2 (.inl ⟨v, hv, htrunc⟩))

/-- The last week of 2016 runs up to a Sunday in the next year.  In it are the
leap second at the end of 2016 and the first instant of 2017. -/
theorem series_period_eq_filter_sample :
    let blogs := Tables.turnOfYear.blogs.toList
    let monday : Date := ⟨736323, by decide, by decide⟩
    let next : Date := ⟨736330, by decide, by decide⟩
    let rows : List Row := [⟨"2016-W52 (1 blog)", .count 2, .label "+100.0%"⟩,
      ⟨"2017-W01 (0 blogs)", .count 1, .label "-50.0%"⟩]
    Period.Adjacent .week monday next ∧ monday.HasShortYear ∧ next.HasShortYear ∧
    Period.text monday .day = "2016-12-26" ∧ Period.text next .day = "2017-01-02" ∧
    ∃ d, Dataset.ofTables .turnOfYear = .ok d ∧
      series d .everything blogs .week .sequential = .ok rows ∧
      ∃ ps q', IsSeries (ViewQuery.everything.rows d) blogs .week .sequential ps rows ∧
        ViewQuery.everything.narrow (some (daysTree monday next)) = .ok q' ∧ q'.ids d = [1, 2] ∧
        ∀ i : Nat, ps[i]? = some monday → ∃ r : Row, rows[i]? = some r ∧ r.y = .count 2 := by
  intro blogs monday next rows
  have hadjacent : Period.Adjacent .week monday next := by decide +kernel
  have hmonday : monday.HasShortYear := by decide +kernel
  have hnext : next.HasShortYear := by decide +kernel
  obtain ⟨d, hd⟩ := Dataset.exists_ofTables Tables.sound_turnOfYear
  have hviews : ViewQuery.everything.rows d = Tables.turnOfYear.views.toList := by
    rw [ViewQuery.rows_everything, Dataset.tables_of_ofTables hd]
  have hrows : series d .everything blogs .week .sequential = .ok rows := by
    rw [← toOption_eq_some_iff, series, hviews]
    decide +kernel
  obtain ⟨ps, q', hs, hq', hfilter, -, hrow, -⟩ :=
    series_period_eq_filter hrows hadjacent hmonday hnext
  have hids : q'.ids d = [1, 2] := by
    rw [ViewQuery.ids, hfilter, hviews]
    decide +kernel
  have hcount : q'.count d = 2 := by
    rw [ViewQuery.count, ← List.length_map (·.id)]
    exact congrArg List.length hids
  refine ⟨hadjacent, hmonday, hnext, by decide +kernel, by decide +kernel, d, hd, hrows, ps, q',
    hs, hq', hids, fun i hi => ?_⟩
  obtain ⟨r, hr, -, hy⟩ := hrow i hi
  exact ⟨r, hr, by rw [hy, hcount]; rfl⟩

end Report

end Readership
