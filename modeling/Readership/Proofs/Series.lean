import Mathlib.Algebra.Ring.Int.Defs
import Readership.Proofs.CivilDays
import Readership.Proofs.Grouping
import Readership.Proofs.Reading
import Readership.Proofs.Selection
import Readership.Report.Series

/-!
# Readership.Proofs.Series

What a series of views and new blogs holds.

Views and blogs are sorted into two groupings by period, and the rows go
through the periods of both while the count of the row before is carried
along.  `IsSeries` says what comes out of that without groups and without a
running count:

1. the periods are those of the views and of the blogs, in ascending order;
2. there is a row for each of them, with its name and its number of blogs, its
   number of views, and their growth;
3. growth is over the row before, or over the period just before it in the
   calendar, whatever its number of views is (`comparedWith`).

The counts of such rows account for every view and every blog (`sum_views?`,
`sum_blogs`).
-/

namespace Readership.Report

open Calendar

/-! ## counts -/

/-- The number of items whose time lies in the period that begins with a
date. -/
def countIn {α : Type} (time : α → Instant) (items : List α) (g : Granularity) (p : Date) : Nat :=
  items.countP fun a => (Period.truncate (time a) g).toOption = some p

/-- The number of views in a period. -/
def viewsIn (views : List View) (g : Granularity) (p : Date) : Nat := countIn (·.viewedAt) views g p

/-- The number of blogs created in a period. -/
def blogsIn (blogs : List Blog) (g : Granularity) (p : Date) : Nat := countIn (·.createdAt) blogs g p

/-- The count that the row at a position is compared with: that of the row
before it, `before` for the first row, or that of the period just before its
own in the calendar. -/
def comparedWith (views : Date → Nat) (g : Granularity) (before : Nat) (ps : List Date) :
    Baseline → Nat → Nat
  | .sequential, 0 => before
  | .sequential, i + 1 => ps[i]?.elim 0 views
  | .calendar, i => (ps[i]?.bind fun p => (Period.previous p g).toOption).elim 0 views

/-- The row of a period. -/
def rowOf (views blogs : Date → Nat) (g : Granularity) (p : Date) (reference : Nat) : Row where
  x := Period.label p g (blogs p)
  y := .count (views p)
  z := .label (Growth.text (views p) reference)

/-- What it means that rows are the series of some views and blogs, the `i`-th
row that of the `i`-th period. -/
structure IsSeries (views : List View) (blogs : List Blog) (g : Granularity)
    (baseline : Baseline) (ps : List Date) (rows : List Row) : Prop where
  ascending : ps.Pairwise (· < ·)
  mem_iff : ∀ p, p ∈ ps ↔ (∃ v ∈ views, Period.truncate v.viewedAt g = .ok p) ∨
    ∃ b ∈ blogs, Period.truncate b.createdAt g = .ok p
  views_ok : ∀ v ∈ views, ∃ p, Period.truncate v.viewedAt g = .ok p
  blogs_ok : ∀ b ∈ blogs, ∃ p, Period.truncate b.createdAt g = .ok p
  previous_ok : baseline = .calendar → ∀ p ∈ ps, ∃ p', Period.previous p g = .ok p'
  rows_eq : rows = ps.mapIdx fun i p => rowOf (viewsIn views g) (blogsIn blogs g) g p
    (comparedWith (viewsIn views g) g 0 ps baseline i)

/-! ## periods -/

theorem periodsOf_eq_ok_iff {g : Granularity} {ts : List Instant} {ps : List Date} :
    periodsOf g ts = .ok ps ↔ ts.map (Period.truncate · g) = ps.map .ok :=
  list_eq_ok_iff (Period.truncate · g) (periodsOf g) rfl fun t ts => by
    rw [periodsOf]
    cases Period.truncate t g <;> rfl

section
variable {α : Type} {g : Granularity} {time : α → Instant} {items : List α} {ps : List Date}

/-- Periods can be told only where every item has one. -/
theorem exists_of_periodsOf (h : periodsOf g (items.map time) = .ok ps) :
    ∀ a ∈ items, ∃ p, Period.truncate (time a) g = .ok p := by
  rw [periodsOf_eq_ok_iff, List.map_map] at h
  intro a ha
  have hmem : Period.truncate (time a) g ∈ ps.map .ok := by
    rw [← h]
    exact List.mem_map.2 ⟨a, ha, rfl⟩
  obtain ⟨p, -, hp⟩ := List.mem_map.1 hmem
  exact ⟨p, hp.symm⟩

theorem mem_of_periodsOf (h : periodsOf g (items.map time) = .ok ps) (p : Date) :
    p ∈ ps ↔ ∃ a ∈ items, Period.truncate (time a) g = .ok p := by
  rw [periodsOf_eq_ok_iff, List.map_map] at h
  calc p ∈ ps ↔ (.ok p : Except Period.OutOfRange Date) ∈ ps.map .ok := by simp
    _ ↔ ∃ a ∈ items, Period.truncate (time a) g = .ok p := by
        rw [← h, List.mem_map]
        rfl

/-- The size of the group of a period is the number of items in it. -/
theorem countOf_periodsOf (h : periodsOf g (items.map time) = .ok ps) (p : Date) :
    countOf (groupBy some ps) p = countIn time items g p := by
  rw [periodsOf_eq_ok_iff, List.map_map] at h
  have hperiods : items.map (fun a => (Period.truncate (time a) g).toOption) = ps.map some := by
    have hread := congrArg (List.map Except.toOption) h
    rwa [List.map_map, List.map_map] at hread
  rw [countOf, length_members_groupBy]
  calc ps.countP (some · = some p) = (ps.map some).countP (· = some p) := by
        rw [List.countP_map]
        rfl
    _ = countIn time items g p := by
        rw [← hperiods, List.countP_map]
        rfl

theorem countIn_pos_iff {p : Date} :
    0 < countIn time items g p ↔ ∃ a ∈ items, Period.truncate (time a) g = .ok p := by
  rw [countIn, List.countP_pos_iff]
  simp only [decide_eq_true_eq, toOption_eq_some_iff]

/-- Items are counted once each by periods that differ, if these are all their
periods. -/
theorem sum_countIn (hnodup : ps.Nodup)
    (hok : ∀ a ∈ items, ∃ p, Period.truncate (time a) g = .ok p)
    (hps : ∀ p, (∃ a ∈ items, Period.truncate (time a) g = .ok p) → p ∈ ps) :
    (ps.map (countIn time items g)).sum = items.length := by
  apply sum_map_countP _ hnodup
  intro a ha
  obtain ⟨p, hp⟩ := hok a ha
  exact ⟨p, hps p ⟨a, ha, hp⟩, toOption_eq_some_iff.2 hp⟩

end

/-! ## rows -/

/-- Past the first row, what a row is compared with does not depend on what
came before the series, but for the count of the first row. -/
theorem comparedWith_succ {views : Date → Nat} {g : Granularity} {before : Nat} {p : Date}
    {ps : List Date} (baseline : Baseline) (i : Nat) :
    comparedWith views g before (p :: ps) baseline (i + 1) =
      comparedWith views g (views p) ps baseline i := by
  cases baseline with
  | sequential => cases i <;> rfl
  | calendar => rfl

theorem reference_eq {views : Groups Date Date} {g : Granularity} {baseline : Baseline}
    {before n : Nat} {p : Date} (h : reference views g baseline before p = .ok n)
    (ps : List Date) : comparedWith (countOf views) g before (p :: ps) baseline 0 = n := by
  cases baseline with
  | sequential => exact Except.ok.inj h
  | calendar =>
      obtain ⟨p', hp', rfl⟩ := map_eq_ok_iff.1 h
      simp [comparedWith, hp', Except.toOption]

/-- The rows of some periods after a row with `before` views. -/
theorem seriesRows_eq {views blogs : Groups Date Date} {g : Granularity} {baseline : Baseline}
    {before : Nat} {ps : List Date} {rows : List Row}
    (h : seriesRows views blogs g baseline before ps = .ok rows) :
    rows = ps.mapIdx fun i p => rowOf (countOf views) (countOf blogs) g p
      (comparedWith (countOf views) g before ps baseline i) := by
  induction ps generalizing before rows with
  | nil =>
      obtain rfl : [] = rows := Except.ok.inj h
      rfl
  | cons p ps ih =>
      rw [seriesRows] at h
      split at h <;> try contradiction
      next n hn =>
      obtain ⟨rest, hrest, rfl⟩ := map_eq_ok_iff.1 h
      rw [List.mapIdx_cons, reference_eq hn ps, ih hrest]
      simp only [comparedWith_succ]
      rfl

/-- Rows that are compared by the calendar take each period to have one before
it. -/
theorem previous_of_seriesRows {views blogs : Groups Date Date} {g : Granularity}
    {before : Nat} {ps : List Date} {rows : List Row}
    (h : seriesRows views blogs g .calendar before ps = .ok rows) :
    ∀ p ∈ ps, ∃ p', Period.previous p g = .ok p' := by
  induction ps generalizing before rows with
  | nil => simp
  | cons p ps ih =>
      rw [seriesRows] at h
      split at h <;> try contradiction
      next n hn =>
      obtain ⟨rest, hrest, -⟩ := map_eq_ok_iff.1 h
      obtain ⟨p', hp', -⟩ := map_eq_ok_iff.1 hn
      exact List.forall_mem_cons.2 ⟨⟨p', hp'⟩, ih hrest⟩

theorem exists_isSeries {d : Dataset} {q : ViewQuery} {blogs : List Blog} {g : Granularity}
    {baseline : Baseline} {rows : List Row} (h : series d q blogs g baseline = .ok rows) :
    ∃ ps, IsSeries (q.rows d) blogs g baseline ps rows := by
  unfold series at h
  split at h <;> try contradiction
  next vps hvps =>
  split at h <;> try contradiction
  next bps hbps =>
  have hviews : countOf (groupBy some vps) = viewsIn (q.rows d) g :=
    funext (countOf_periodsOf hvps)
  have hblogs : countOf (groupBy some bps) = blogsIn blogs g :=
    funext (countOf_periodsOf hbps)
  refine ⟨(groupBy some (vps ++ bps)).keys, ?_, ?_, exists_of_periodsOf hvps,
    exists_of_periodsOf hbps, ?_, ?_⟩
  · exact Std.TreeMap.ordered_keys.imp Date.compare_eq_lt.1
  · intro p
    rw [mem_keys_groupBy, ← mem_of_periodsOf hvps, ← mem_of_periodsOf hbps]
    simp
  · rintro rfl
    exact previous_of_seriesRows h
  · rw [← hviews, ← hblogs]
    exact seriesRows_eq h

/-! ## what the counts of a series add up to -/

namespace IsSeries

variable {views : List View} {blogs : List Blog} {g : Granularity} {baseline : Baseline}
  {ps : List Date} {rows : List Row}

theorem nodup (s : IsSeries views blogs g baseline ps rows) : ps.Nodup := by
  exact s.ascending.imp ne_of_lt

theorem viewsIn_eq_zero (s : IsSeries views blogs g baseline ps rows) {p : Date} (hp : p ∉ ps) :
    viewsIn views g p = 0 := by
  by_contra hne
  exact hp ((s.mem_iff p).2 (.inl (countIn_pos_iff.1 (Nat.pos_of_ne_zero hne))))

theorem blogsIn_eq_zero (s : IsSeries views blogs g baseline ps rows) {p : Date} (hp : p ∉ ps) :
    blogsIn blogs g p = 0 := by
  by_contra hne
  exact hp ((s.mem_iff p).2 (.inr (countIn_pos_iff.1 (Nat.pos_of_ne_zero hne))))

theorem length_rows (s : IsSeries views blogs g baseline ps rows) : rows.length = ps.length := by
  rw [s.rows_eq, List.length_mapIdx]

/-- The row at the position of a period is the row of the period. -/
theorem getElem?_rows (s : IsSeries views blogs g baseline ps rows) {i : Nat} {p : Date}
    (hp : ps[i]? = some p) :
    rows[i]? = some (rowOf (viewsIn views g) (blogsIn blogs g) g p
      (comparedWith (viewsIn views g) g 0 ps baseline i)) := by
  rw [s.rows_eq, List.getElem?_mapIdx, hp]
  rfl

/-- A row beside a period is the row of the period, whatever it is compared with. -/
theorem exists_rowOf_of_mem_zip (s : IsSeries views blogs g baseline ps rows) {p : Date} {r : Row}
    (h : (p, r) ∈ ps.zip rows) :
    ∃ reference, r = rowOf (viewsIn views g) (blogsIn blogs g) g p reference := by
  obtain ⟨i, hi⟩ := List.mem_iff_getElem?.1 h
  obtain ⟨hp, hr⟩ := List.getElem?_zip_eq_some.1 hi
  rw [s.getElem?_rows hp, Option.some.injEq] at hr
  exact ⟨_, hr.symm⟩

theorem sum_viewsIn (s : IsSeries views blogs g baseline ps rows) :
    (ps.map (viewsIn views g)).sum = views.length :=
  sum_countIn s.nodup s.views_ok fun p hp => (s.mem_iff p).2 (.inl hp)

/-- Every blog is counted in one row. -/
theorem sum_blogs (s : IsSeries views blogs g baseline ps rows) :
    (ps.map (blogsIn blogs g)).sum = blogs.length :=
  sum_countIn s.nodup s.blogs_ok fun p hp => (s.mem_iff p).2 (.inr hp)

/-- What a row tells whatever it is compared with, told from the first period to
the last. -/
theorem map_rows {α : Type} (s : IsSeries views blogs g baseline ps rows) (f : Row → α)
    (f' : Date → α)
    (h : ∀ p reference, f (rowOf (viewsIn views g) (blogsIn blogs g) g p reference) = f' p) :
    rows.map f = ps.map f' := by
  have hzip : rows.map f = ps.zipIdx.map (f' ∘ Prod.fst) := by
    rw [s.rows_eq, List.mapIdx_eq_zipIdx_map, List.map_map]
    exact List.map_congr_left fun x _ => h x.1 _
  rw [hzip, ← List.map_map, List.zipIdx_map_fst]

/-- The counts in the cells of the rows, from the first period to the last. -/
theorem filterMap_views? (s : IsSeries views blogs g baseline ps rows) :
    rows.filterMap (·.views?) = ps.map fun p => (viewsIn views g p : Int) := by
  have hmap : rows.map (·.views?) = ps.map fun p => some (viewsIn views g p : Int) :=
    s.map_rows _ _ fun p reference => rfl
  calc rows.filterMap (·.views?) = (rows.map (·.views?)).filterMap id := by
        rw [List.filterMap_map]
        rfl
    _ = ps.map fun p => (viewsIn views g p : Int) := by
        rw [hmap, List.filterMap_map, ← List.filterMap_eq_map']
        rfl

/-- Every view is counted in one row. -/
theorem sum_views? (s : IsSeries views blogs g baseline ps rows) :
    (rows.filterMap (·.views?)).sum = views.length := by
  have hcast (l : List Date) : (l.map fun p => (viewsIn views g p : Int)).sum =
      ((l.map (viewsIn views g)).sum : Nat) := by
    induction l with
    | nil => rfl
    | cons p l ih =>
        rw [List.map_cons, List.sum_cons, ih, List.map_cons, List.sum_cons, Int.natCast_add]
  rw [s.filterMap_views?, hcast, s.sum_viewsIn]

/-- No period is listed for nothing. -/
theorem pos (s : IsSeries views blogs g baseline ps rows) {p : Date} (hp : p ∈ ps) :
    0 < viewsIn views g p ∨ 0 < blogsIn blogs g p := by
  rw [viewsIn, blogsIn, countIn_pos_iff, countIn_pos_iff]
  exact (s.mem_iff p).1 hp

end IsSeries

/-- **The rows of a series**: they are those of the periods of the selected
views and of the blogs, and so account for every view and every blog, in no
row for neither. -/
theorem series_isSeries {d : Dataset} {q : ViewQuery} {blogs : List Blog} {g : Granularity}
    {baseline : Baseline} {rows : List Row} (h : series d q blogs g baseline = .ok rows) :
    ∃ ps, IsSeries (q.rows d) blogs g baseline ps rows ∧
      (rows.filterMap (·.views?)).sum = q.count d ∧
      (ps.map (blogsIn blogs g)).sum = blogs.length ∧
      ∀ p ∈ ps, 0 < viewsIn (q.rows d) g p ∨ 0 < blogsIn blogs g p := by
  obtain ⟨ps, hs⟩ := exists_isSeries h
  exact ⟨ps, hs, hs.sum_views?, hs.sum_blogs, fun p hp => hs.pos hp⟩

/-- A month with a blog and no views, and then one with views and no blog. -/
theorem series_isSeries_sample :
    let blogs := Tables.sample.blogs.toList
    let rows : List Row := [⟨"2024-01 (1 blog)", .count 0, .label "0.0%"⟩,
      ⟨"2024-02 (0 blogs)", .count 2, .label "+100.0%"⟩]
    ∃ d, Dataset.ofTables .sample = .ok d ∧
      series d .everything blogs .month .sequential = .ok rows ∧
      ∃ ps, IsSeries (ViewQuery.everything.rows d) blogs .month .sequential ps rows ∧
        (rows.filterMap (·.views?)).sum = ViewQuery.everything.count d ∧
        (ps.map (blogsIn blogs .month)).sum = blogs.length ∧
        ∀ p ∈ ps, 0 < viewsIn (ViewQuery.everything.rows d) .month p ∨
          0 < blogsIn blogs .month p := by
  intro blogs rows
  obtain ⟨d, hd⟩ := Dataset.exists_ofTables Tables.sound_sample
  have hviews : ViewQuery.everything.rows d = Tables.sample.views.toList := by
    have hkept : ViewQuery.everything.kept d =
        d.tables.views.toList.zipIdx.filter fun _ => true := rfl
    rw [ViewQuery.rows_eq_filter, hkept, Dataset.tables_of_ofTables hd, List.filter_true,
      List.zipIdx_map_fst]
  have hrows : series d .everything blogs .month .sequential = .ok rows := by
    rw [← toOption_eq_some_iff, series, hviews]
    decide +kernel
  exact ⟨d, hd, hrows, series_isSeries hrows⟩

end Readership.Report
