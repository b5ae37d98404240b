import Mathlib.Algebra.BigOperators.Ring.Finset
import Readership.Proofs.PeriodStarts
import Readership.Proofs.Series

/-!
# Readership.Proofs.Coarsening

Series over periods that are made of shorter ones.

Days make up weeks, months and years, and months make up years
(`Granularity.Divides`).  To such a series one may come from the shorter
periods alone:

* the long periods are those that the short ones lie in (`mem_iff_exists_part`);
* what is counted in a long period is what is counted in its parts
  (`countIn_eq_sum_parts`), because truncating to a short period first makes no
  difference.

Weeks run across the ends of months and years, so they are part of neither.
-/

namespace Readership.Report

open Calendar

variable {fine coarse : Granularity}

/-! ## parts of periods -/

/-- The periods of a list that lie in a longer one. -/
def partsOf (coarse : Granularity) (c : Date) (ps : List Date) : List Date :=
  ps.filter fun p => (Period.truncate (.midnight p) coarse).toOption = some c

theorem mem_partsOf {c p : Date} {ps : List Date} :
    p ∈ partsOf coarse c ps ↔ p ∈ ps ∧ Period.truncate (.midnight p) coarse = .ok c := by
  rw [partsOf, List.mem_filter, decide_eq_true_eq, toOption_eq_some_iff]

section
variable {α : Type} {time : α → Instant} {items : List α} {ps : List Date}

/-- Items are counted in a long period as often as in its parts, if each item
is of a listed short period. -/
theorem countIn_eq_sum_parts (h : fine.Divides coarse) (hnodup : ps.Nodup)
    (hps : ∀ a ∈ items, ∃ p ∈ ps, Period.truncate (time a) fine = .ok p) (c : Date) :
    countIn time items coarse c =
      ((partsOf coarse c ps).map (countIn time items fine)).sum := by
  -- the items of the long period, to be counted by their short periods
  let within := items.filter fun a => (Period.truncate (time a) coarse).toOption = some c
  have hpart : ∀ p ∈ partsOf coarse c ps, countIn time items fine p =
      within.countP fun a => (Period.truncate (time a) fine).toOption = some p := by
    intro p hp
    rw [countIn, List.countP_filter]
    apply List.countP_congr
    intro a _
    simp only [Bool.and_eq_true, decide_eq_true_eq, toOption_eq_some_iff]
    constructor
    · exact fun ha => ⟨ha, (Period.truncate_midnight_iff h ha).1 (mem_partsOf.1 hp).2⟩
    · exact And.left
  have hcover : ∀ a ∈ within, ∃ p ∈ partsOf coarse c ps,
      (Period.truncate (time a) fine).toOption = some p := by
    intro a ha
    obtain ⟨hmem, hc⟩ := List.mem_filter.1 ha
    rw [decide_eq_true_eq, toOption_eq_some_iff] at hc
    obtain ⟨p, hp, htrunc⟩ := hps a hmem
    exact ⟨p, mem_partsOf.2 ⟨hp, (Period.truncate_midnight_iff h htrunc).2 hc⟩,
      toOption_eq_some_iff.2 htrunc⟩
  calc countIn time items coarse c = within.length := List.countP_eq_length_filter
    _ = ((partsOf coarse c ps).map fun p =>
          within.countP fun a => (Period.truncate (time a) fine).toOption = some p).sum :=
        (sum_map_countP _ (hnodup.filter _) hcover).symm
    _ = ((partsOf coarse c ps).map (countIn time items fine)).sum := by
        rw [List.map_congr_left hpart]

/-- Some item is of a long period exactly if one is of a part of it. -/
theorem exists_truncate_iff (h : fine.Divides coarse)
    (hok : ∀ a ∈ items, ∃ p, Period.truncate (time a) fine = .ok p) (c : Date) :
    (∃ a ∈ items, Period.truncate (time a) coarse = .ok c) ↔
      ∃ p, (∃ a ∈ items, Period.truncate (time a) fine = .ok p) ∧
        Period.truncate (.midnight p) coarse = .ok c := by
  constructor
  · rintro ⟨a, ha, hc⟩
    obtain ⟨p, hp⟩ := hok a ha
    exact ⟨p, ⟨a, ha, hp⟩, (Period.truncate_midnight_iff h hp).2 hc⟩
  · rintro ⟨p, ⟨a, ha, hp⟩, hc⟩
    exact ⟨a, ha, (Period.truncate_midnight_iff h hp).1 hc⟩

end

/-! ## the rows of a series -/

/-- The rows of a series with their periods, of those periods that lie in a
longer one. -/
def rowsWithin (coarse : Granularity) (c : Date) (ps : List Date) (rows : List Row) :
    List (Date × Row) :=
  (ps.zip rows).filter fun x => (Period.truncate (.midnight x.1) coarse).toOption = some c

namespace IsSeries

variable {views : List View} {blogs : List Blog} {g : Granularity} {baseline : Baseline}
  {ps : List Date} {rows : List Row}

/-- What the row of a period says of its blogs and views. -/
theorem of_mem_zip (s : IsSeries views blogs g baseline ps rows) {x : Date × Row}
    (hx : x ∈ ps.zip rows) :
    x.2.x = Period.label x.1 g (blogsIn blogs g x.1) ∧
      x.2.views? = some (viewsIn views g x.1 : Int) := by
  obtain ⟨p, r⟩ := x
  obtain ⟨reference, rfl⟩ := s.exists_rowOf_of_mem_zip hx
  exact ⟨rfl, rfl⟩

theorem map_fst_rowsWithin (s : IsSeries views blogs g baseline ps rows)
    (coarse : Granularity) (c : Date) :
    (rowsWithin coarse c ps rows).map (·.1) = partsOf coarse c ps := by
  have hfst : (ps.zip rows).map Prod.fst = ps := List.map_fst_zip s.length_rows.ge
  conv_rhs => rw [partsOf, ← hfst, List.filter_map]
  rfl

/-- The counts in the rows of the parts of a period add up to what is counted
in the parts. -/
theorem sum_views?_rowsWithin (s : IsSeries views blogs g baseline ps rows)
    (coarse : Granularity) (c : Date) :
    ((rowsWithin coarse c ps rows).filterMap (·.2.views?)).sum =
      (((partsOf coarse c ps).map (viewsIn views g)).sum : Nat) := by
  have hcells : (rowsWithin coarse c ps rows).filterMap (·.2.views?) =
      ((partsOf coarse c ps).map (viewsIn views g)).map Nat.cast := by
    rw [← s.map_fst_rowsWithin, List.map_map, List.map_map, ← List.filterMap_eq_map']
    apply List.filterMap_congr
    intro x hx
    exact (s.of_mem_zip (List.mem_filter.1 hx).1).2
  rw [hcells, ← Nat.cast_list_sum]

/-- Views are counted in a period as often as in its parts. -/
theorem viewsIn_eq_sum_parts (h : fine.Divides coarse)
    (s : IsSeries views blogs fine baseline ps rows) (c : Date) :
    viewsIn views coarse c = ((partsOf coarse c ps).map (viewsIn views fine)).sum := by
  apply countIn_eq_sum_parts h s.nodup
  intro v hv
  obtain ⟨p, hp⟩ := s.views_ok v hv
  exact ⟨p, (s.mem_iff p).2 (.inl ⟨v, hv, hp⟩), hp⟩

theorem blogsIn_eq_sum_parts (h : fine.Divides coarse)
    (s : IsSeries views blogs fine baseline ps rows) (c : Date) :
    blogsIn blogs coarse c = ((partsOf coarse c ps).map (blogsIn blogs fine)).sum := by
  apply countIn_eq_sum_parts h s.nodup
  intro b hb
  obtain ⟨p, hp⟩ := s.blogs_ok b hb
  exact ⟨p, (s.mem_iff p).2 (.inr ⟨b, hb, hp⟩), hp⟩

section
variable {baseline' : Baseline} {cs : List Date} {rows' : List Row} (h : fine.Divides coarse)
  (s : IsSeries views blogs fine baseline ps rows)
  (s' : IsSeries views blogs coarse baseline' cs rows')
include h s s'

/-- The periods of a series are those that the periods of a finer one lie in. -/
theorem mem_iff_exists_part (c : Date) :
    c ∈ cs ↔ ∃ p ∈ ps, Period.truncate (.midnight p) coarse = .ok c := by
  rw [s'.mem_iff, exists_truncate_iff h s.views_ok, exists_truncate_iff h s.blogs_ok]
  simp only [s.mem_iff, or_and_right, exists_or]

/-- Every period of the finer series lies in one of the coarse series. -/
theorem exists_truncate_of_mem {p : Date} (hp : p ∈ ps) :
    ∃ c ∈ cs, Period.truncate (.midnight p) coarse = .ok c := by
  have hlies : ∃ c, Period.truncate (.midnight p) coarse = .ok c := by
    rcases (s.mem_iff p).1 hp with ⟨v, hv, hvp⟩ | ⟨b, hb, hbp⟩
    · obtain ⟨c, hc⟩ := s'.views_ok v hv
      exact ⟨c, (Period.truncate_midnight_iff h hvp).2 hc⟩
    · obtain ⟨c, hc⟩ := s'.blogs_ok b hb
      exact ⟨c, (Period.truncate_midnight_iff h hbp).2 hc⟩
  obtain ⟨c, hc⟩ := hlies
  exact ⟨c, (mem_iff_exists_part h s s' c).2 ⟨p, hp, hc⟩, hc⟩

end

end IsSeries

/-- **A coarse series sums up a fine one**: where there are series of the same
views and blogs over short periods and over long ones that are made of them,
each short period lies in one long period, these are all long periods, and the
row of each counts the views and names the number of blogs of the rows of its
parts taken together. -/
theorem series_eq_sum_of_finer (h : fine.Divides coarse) {d : Dataset} {q : ViewQuery}
    {blogs : List Blog} {baseline baseline' : Baseline} {rows rows' : List Row}
    (hfine : series d q blogs fine baseline = .ok rows)
    (hcoarse : series d q blogs coarse baseline' = .ok rows') :
    ∃ ps cs, IsSeries (q.rows d) blogs fine baseline ps rows ∧
      IsSeries (q.rows d) blogs coarse baseline' cs rows' ∧
      (∀ p ∈ ps, ∃! c, c ∈ cs ∧ Period.truncate (.midnight p) coarse = .ok c) ∧
      (∀ c, c ∈ cs ↔ ∃ p ∈ ps, Period.truncate (.midnight p) coarse = .ok c) ∧
      (∀ x ∈ ps.zip rows, x.2.x = Period.label x.1 fine (blogsIn blogs fine x.1)) ∧
      ∀ i : Nat, ∀ c, cs[i]? = some c → ∃ r : Row, rows'[i]? = some r ∧
        r.views? = some ((rowsWithin coarse c ps rows).filterMap (·.2.views?)).sum ∧
        r.x = Period.label c coarse
          ((rowsWithin coarse c ps rows).map fun x => blogsIn blogs fine x.1).sum := by
  obtain ⟨ps, s⟩ := exists_isSeries hfine
  obtain ⟨cs, s'⟩ := exists_isSeries hcoarse
  refine ⟨ps, cs, s, s', fun p hp => ?_, IsSeries.mem_iff_exists_part h s s',
    fun x hx => (s.of_mem_zip hx).1, fun i c hc => ⟨_, s'.getElem?_rows hc, ?_, ?_⟩⟩
  · obtain ⟨c, hmem, hc⟩ := IsSeries.exists_truncate_of_mem h s s' hp
    exact ⟨c, ⟨hmem, hc⟩, fun c' hc' => Except.ok.inj (hc'.2.symm.trans hc)⟩
  · rw [s.sum_views?_rowsWithin, ← s.viewsIn_eq_sum_parts h]
    rfl
  · have hblogs : (rowsWithin coarse c ps rows).map (fun x => blogsIn blogs fine x.1) =
        (partsOf coarse c ps).map (blogsIn blogs fine) := by
      rw [← s.map_fst_rowsWithin, List.map_map]
      rfl
    rw [hblogs, ← s.blogsIn_eq_sum_parts h]
    rfl

/-- Days of two years make up one week: its row counts a view of each year, and
the blog of a day without views. -/
theorem series_eq_sum_of_finer_sample :
    let blogs := Tables.turnOfYear.blogs.toList
    let rows : List Row := [⟨"2016-12-26 (1 blog)", .count 0, .label "0.0%"⟩,
      ⟨"2016-12-31 (0 blogs)", .count 1, .label "+100.0%"⟩,
      ⟨"2017-01-01 (0 blogs)", .count 1, .label "+0.0%"⟩,
      ⟨"2017-01-02 (0 blogs)", .count 1, .label "+0.0%"⟩]
    let rows' : List Row := [⟨"2016-W52 (1 blog)", .count 2, .label "+100.0%"⟩,
      ⟨"2017-W01 (0 blogs)", .count 1, .label "-50.0%"⟩]
    Granularity.day.Divides .week ∧ ∃ d ps cs, Dataset.ofTables .turnOfYear = .ok d ∧
      series d .everything blogs .day .sequential = .ok rows ∧
      series d .everything blogs .week .calendar = .ok rows' ∧
      IsSeries (ViewQuery.everything.rows d) blogs .day .sequential ps rows ∧
      IsSeries (ViewQuery.everything.rows d) blogs .week .calendar cs rows' ∧
      (∀ p ∈ ps, ∃! c, c ∈ cs ∧ Period.truncate (.midnight p) .week = .ok c) ∧
      ∀ i : Nat, ∀ c, cs[i]? = some c → ∃ r : Row, rows'[i]? = some r ∧
        r.views? = some ((rowsWithin .week c ps rows).filterMap (·.2.views?)).sum ∧
        r.x = Period.label c .week
          ((rowsWithin .week c ps rows).map fun x => blogsIn blogs .day x.1).sum := by
  intro blogs rows rows'
  obtain ⟨d, hd⟩ := Dataset.exists_ofTables Tables.sound_turnOfYear
  have hviews : ViewQuery.everything.rows d = Tables.turnOfYear.views.toList := by
    rw [ViewQuery.rows_everything, Dataset.tables_of_ofTables hd]
  have hdays : series d .everything blogs .day .sequential = .ok rows := by
    rw [← toOption_eq_some_iff, series, hviews]
    decide +kernel
  have hweeks : series d .everything blogs .week .calendar = .ok rows' := by
    rw [← toOption_eq_some_iff, series, hviews]
    decide +kernel
  obtain ⟨ps, cs, s, s', hlies, -, -, hrow⟩ :=
    series_eq_sum_of_finer (show Granularity.day.Divides .week from trivial) hdays hweeks
  exact ⟨trivial, d, ps, cs, hd, hdays, hweeks, s, s', hlies, hrow⟩

end Readership.Report
