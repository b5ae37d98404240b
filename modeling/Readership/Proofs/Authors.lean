import Readership.Proofs.FilterMeaning
import Readership.Proofs.Narrowing
import Readership.Proofs.Parts
import Readership.Proofs.Validation

/-!
# Readership.Proofs.Authors

The series of one author and the series of all.

Of an author's series the views are selected along the path to the author, and
the blogs by their own column.  Both find the same author: a view is of one blog,
which is by one user (`Dataset.exists_authorOf?`).  So views and blogs are
shared out among the users (`viewsIn_eq_sum`, `blogsIn_eq_sum`), whatever the
filter, and no one else has any (`rows_selected_eq_nil`).
-/

namespace Readership

open Calendar Report

/-- A view of a dataset is of a blog by some user. -/
theorem Dataset.exists_authorOf? {d : Dataset} {v : View} (hv : v ∈ d.tables.views.toList) :
    ∃ a ∈ d.tables.ids .user, d.tables.authorOf? v = some a := by
  obtain ⟨b, hb, hid⟩ := List.mem_map.1 (Dataset.mem_ids_of_view hv).1
  have hsome : (d.tables.blogs.toList.find? (·.id = v.blog)).isSome := by
    rw [List.find?_isSome]
    exact ⟨b, hb, by simpa using hid⟩
  obtain ⟨found, hfound⟩ := Option.isSome_iff_exists.1 hsome
  exact ⟨found.author, Dataset.mem_ids_of_blog (List.mem_of_find?_eq_some hfound),
    by rw [Tables.authorOf?, hfound, Option.map_some]⟩

/-- Of no views and no blogs there are no rows. -/
theorem Report.IsSeries.rows_eq_nil {g : Granularity} {baseline : Baseline} {ps : List Date}
    {rows : List Row} (s : IsSeries [] [] g baseline ps rows) : rows = [] := by
  have hps : ps = [] := List.eq_nil_iff_forall_not_mem.2 fun p hp => by
    simpa using (s.mem_iff p).1 hp
  rw [s.rows_eq, hps, List.mapIdx_nil]

namespace Analytics

/-- The views that a series is of, if the filter of its tree is known. -/
def selected (f : Option RowFilter) (author : Option Int) : ViewQuery :=
  f.elim (authored author) (authored author).filter

/-- The blogs that a series is of. -/
def blogsBy (d : Dataset) (author : Option Int) : List Blog :=
  d.tables.blogs.toList.filter fun b => author.all (b.author == ·)

/-- What it means that a series is answered with some rows, the `i`-th that of
the `i`-th period. -/
structure Answers (d : Dataset) (g : Granularity) (author : Option Int) (tree : Option Json)
    (baseline : Baseline) (ps : List Date) (rows : List Row) : Prop where
  answer : performanceSeries d g author tree baseline = .ok rows
  isSeries : ∃ q, narrowed (authored author) tree = .ok q ∧
    IsSeries (q.rows d) (blogsBy d author) g baseline ps rows

/-- A series is answered where its filter can be used and there is one. -/
theorem performanceSeries_eq_ok_iff {d : Dataset} {g : Granularity} {author : Option Int}
    {tree : Option Json} {baseline : Baseline} {rows : List Row} :
    performanceSeries d g author tree baseline = .ok rows ↔
      ∃ f, filterOfTree tree = .ok f ∧
        series d (selected f author) (blogsBy d author) g baseline = .ok rows := by
  rw [performanceSeries_eq_bind, narrowed_eq]
  cases filterOfTree tree with
  | error e => simp [Except.map, Except.bind]
  | ok f =>
      simp only [Except.map, Except.bind, Except.ok.injEq, exists_eq_left']
      rw [← toOption_eq_some_iff, toOption_mapError, toOption_eq_some_iff]
      rfl

section
variable (d : Dataset) (f : Option RowFilter)

/-! ## the share of an author -/

/-- An author's views are those of the author's blogs among all that pass the
filter. -/
theorem rows_selected (a : Int) :
    (selected f (some a)).rows d =
      ((selected f none).rows d).filter (d.tables.authorOf? · = some a) := by
  cases f with
  | none => exact ViewQuery.everything.rows_authoredBy a d
  | some f =>
      -- the author is asked for before the filter, which makes no difference
      have hswap : (ViewQuery.everything.narrowedBy [.authoredBy a, .filter f]).rows d =
          (ViewQuery.everything.narrowedBy [.filter f, .authoredBy a]).rows d :=
        ViewQuery.rows_narrowedBy_of_mem_iff (by simp [or_comm]) .everything d
      exact hswap.trans ((ViewQuery.everything.filter f).rows_authoredBy a d)

theorem blogsBy_some (a : Int) :
    blogsBy d (some a) = (blogsBy d none).filter (some ·.author = some a) := by
  rw [blogsBy, blogsBy, List.filter_filter]
  apply List.filter_congr
  intro b _
  rw [Bool.eq_iff_iff]
  simp

/-- Who is no user has no views. -/
theorem rows_selected_eq_nil {a : Int} (ha : a ∉ d.tables.ids .user) :
    (selected f (some a)).rows d = [] := by
  rw [rows_selected, List.filter_eq_nil_iff]
  intro v hv
  obtain ⟨author, hauthor, hof⟩ :=
    Dataset.exists_authorOf? (ViewQuery.mem_views_of_mem_rows hv)
  rw [hof, decide_eq_true_eq, Option.some.injEq]
  rintro rfl
  exact ha hauthor

/-- Nor any blogs. -/
theorem blogsBy_eq_nil {a : Int} (ha : a ∉ d.tables.ids .user) : blogsBy d (some a) = [] := by
  rw [blogsBy, List.filter_eq_nil_iff]
  intro b hb
  simp only [Option.all_some, beq_iff_eq]
  rintro rfl
  exact ha (Dataset.mem_ids_of_blog hb)

variable {g : Granularity}

/-- Every view is counted for one user. -/
theorem viewsIn_eq_sum (p : Date) :
    viewsIn ((selected f none).rows d) g p =
      ((d.tables.ids .user).map fun a => viewsIn ((selected f (some a)).rows d) g p).sum := by
  simp only [viewsIn, rows_selected d f]
  exact countIn_eq_sum_filter _ (d.sound.nodup_ids .user)
    (fun v hv => Dataset.exists_authorOf? (ViewQuery.mem_views_of_mem_rows hv)) p

/-- Every blog is counted for one user. -/
theorem blogsIn_eq_sum (p : Date) :
    blogsIn (blogsBy d none) g p =
      ((d.tables.ids .user).map fun a => blogsIn (blogsBy d (some a)) g p).sum := by
  simp only [blogsIn, blogsBy_some d]
  refine countIn_eq_sum_filter _ (d.sound.nodup_ids .user) (fun b hb => ?_) p
  exact ⟨b.author, Dataset.mem_ids_of_blog (List.mem_of_mem_filter hb), rfl⟩

variable {baseline : Baseline}

/-! ## the series of an author -/

/-- Where there is a series of all, there is one of each author. -/
theorem exists_series_selected
    (h : ∃ rows, series d (selected f none) (blogsBy d none) g baseline = .ok rows) (a : Int) :
    ∃ rows, series d (selected f (some a)) (blogsBy d (some a)) g baseline = .ok rows := by
  rw [exists_series_iff] at h ⊢
  rw [rows_selected, blogsBy_some]
  exact ⟨fun v hv => h.1 v (List.mem_of_mem_filter hv),
    fun b hb => h.2 b (List.mem_of_mem_filter hb)⟩

/-- Who is no user has an empty series, also where there is none of all. -/
theorem series_selected_eq_nil {a : Int} (ha : a ∉ d.tables.ids .user) :
    series d (selected f (some a)) (blogsBy d (some a)) g baseline = .ok [] := by
  have hex : ∃ rows, series d (selected f (some a)) (blogsBy d (some a)) g baseline = .ok rows := by
    rw [exists_series_iff, rows_selected_eq_nil d f ha, blogsBy_eq_nil d ha]
    simp
  obtain ⟨rows, hrows⟩ := hex
  obtain ⟨ps, s⟩ := exists_isSeries hrows
  rw [rows_selected_eq_nil d f ha, blogsBy_eq_nil d ha] at s
  rw [hrows, s.rows_eq_nil]

/-- A period of the series of all is one of some user's. -/
theorem exists_mem_periods {ps : List Date} {rows : List Row}
    (s : IsSeries ((selected f none).rows d) (blogsBy d none) g baseline ps rows) {p : Date}
    (hp : p ∈ ps) :
    ∃ a ∈ d.tables.ids .user, ∀ ps' rows',
      IsSeries ((selected f (some a)).rows d) (blogsBy d (some a)) g baseline ps' rows' →
        p ∈ ps' := by
  rcases (s.mem_iff p).1 hp with ⟨v, hv, hin⟩ | ⟨b, hb, hin⟩
  · obtain ⟨a, ha, hof⟩ := Dataset.exists_authorOf? (ViewQuery.mem_views_of_mem_rows hv)
    refine ⟨a, ha, fun ps' rows' s' => (s'.mem_iff p).2 (.inl ⟨v, ?_, hin⟩)⟩
    rw [rows_selected]
    exact List.mem_filter.2 ⟨hv, by simpa using hof⟩
  · refine ⟨b.author, Dataset.mem_ids_of_blog (List.mem_of_mem_filter hb),
      fun ps' rows' s' => (s'.mem_iff p).2 (.inr ⟨b, ?_, hin⟩)⟩
    rw [blogsBy_some]
    exact List.mem_filter.2 ⟨hb, by simp⟩

end

/-- **The series of the authors make up the series of all**: where a series is
answered without an author, it is with any.  In each period the views and the
blogs of all are the sums over the users, a period that a series does not have
counting as none, and the period is one of some user's.  For an author who is no
user the series is empty, as long as the filter can be used. -/
theorem performanceSeries_authors (d : Dataset) (g : Granularity) (tree : Option Json)
    (baseline : Baseline) :
    (∀ q, narrowed .everything tree = .ok q → ∀ a ∉ d.tables.ids .user,
      performanceSeries d g (some a) tree baseline = .ok []) ∧
    ∀ rows, performanceSeries d g none tree baseline = .ok rows →
      ∃ ps, ∃ (psOf : Int → List Date) (rowsOf : Int → List Row),
        Answers d g none tree baseline ps rows ∧
        (∀ a, Answers d g (some a) tree baseline (psOf a) (rowsOf a)) ∧
        (∀ p, ∃ views blogs : Int → Nat,
          (∀ a, CountsIn g (psOf a) (rowsOf a) p (views a) (blogs a)) ∧
          CountsIn g ps rows p ((d.tables.ids .user).map views).sum
            ((d.tables.ids .user).map blogs).sum) ∧
        ∀ p ∈ ps, ∃ a ∈ d.tables.ids .user, p ∈ psOf a := by
  constructor
  · intro q hq a ha
    rw [narrowed_eq] at hq
    obtain ⟨f, hf, -⟩ := map_eq_ok_iff.1 hq
    exact performanceSeries_eq_ok_iff.2 ⟨f, hf, series_selected_eq_nil d f ha⟩
  · intro rows hanswer
    obtain ⟨f, hf, hrows⟩ := performanceSeries_eq_ok_iff.1 hanswer
    have hnarrowed (author : Option Int) :
        narrowed (authored author) tree = .ok (selected f author) := by
      rw [narrowed_eq, hf]
      rfl
    obtain ⟨ps, s⟩ := exists_isSeries hrows
    choose rowsOf hrowsOf using exists_series_selected d f ⟨rows, hrows⟩
    choose psOf hpsOf using fun a => exists_isSeries (hrowsOf a)
    refine ⟨ps, psOf, rowsOf, ⟨hanswer, _, hnarrowed none, s⟩, fun a =>
      ⟨performanceSeries_eq_ok_iff.2 ⟨f, hf, hrowsOf a⟩, _, hnarrowed (some a), hpsOf a⟩,
      fun p => ⟨_, _, fun a => (hpsOf a).countsIn p, ?_⟩, fun p hp => ?_⟩
    · have hall := s.countsIn p
      rwa [viewsIn_eq_sum, blogsIn_eq_sum] at hall
    · obtain ⟨a, ha, hmem⟩ := exists_mem_periods d f s hp
      exact ⟨a, ha, hmem _ _ (hpsOf a)⟩

/-- Anonymous views, of a blog by each of two users.  The second user has no row
for January, when the other wrote a blog. -/
theorem performanceSeries_authors_sample :
    let tree := Json.object [("field", .string "viewer"), ("op", .string "eq"), ("value", .null)]
    let rows : List Row := [⟨"2024-01 (1 blog)", .count 0, .label "0.0%"⟩,
      ⟨"2024-02 (1 blog)", .count 2, .label "+100.0%"⟩]
    let rows' : List Row := [⟨"2024-02 (1 blog)", .count 1, .label "+100.0%"⟩]
    ∃ d, Dataset.ofTables .twoAuthors = .ok d ∧
      performanceSeries d .month none (some tree) .sequential = .ok rows ∧
      performanceSeries d .month (some 2) (some tree) .sequential = .ok rows' ∧
      performanceSeries d .month (some 3) (some tree) .sequential = .ok [] ∧
      ∃ ps, ∃ (psOf : Int → List Date) (rowsOf : Int → List Row),
        Answers d .month none (some tree) .sequential ps rows ∧
        (∀ a, Answers d .month (some a) (some tree) .sequential (psOf a) (rowsOf a)) ∧
        ∀ p, ∃ views blogs : Int → Nat,
          (∀ a, CountsIn .month (psOf a) (rowsOf a) p (views a) (blogs a)) ∧
          CountsIn .month ps rows p ([1, 2].map views).sum ([1, 2].map blogs).sum := by
  intro tree rows rows'
  obtain ⟨d, hd⟩ := Dataset.exists_ofTables Tables.sound_twoAuthors
  have htables := Dataset.tables_of_ofTables hd
  have hsome : (RowFilter.ofTree tree).toOption.isSome := by decide +kernel
  obtain ⟨f, hf⟩ := Option.isSome_iff_exists.1 hsome
  rw [toOption_eq_some_iff] at hf
  have hfilter : filterOfTree (some tree) = .ok (some f) := by
    rw [filterOfTree, hf]
    rfl
  have hviews : (selected (some f) none).rows d =
      Tables.twoAuthors.views.toList.filter (·.viewer = none) := by
    have hkept : (selected (some f) none).rows d =
        ((ViewQuery.everything.filter f).kept d).map (·.1) := ViewQuery.rows_eq_filter _ d
    rw [hkept, ViewQuery.kept]
    simp only [ViewQuery.selects_filter, ViewQuery.selects_everything, Bool.true_and,
      RowFilter.holds_ofTree hf, htables]
    decide +kernel
  have hall : performanceSeries d .month none (some tree) .sequential = .ok rows := by
    refine performanceSeries_eq_ok_iff.2 ⟨some f, hfilter, ?_⟩
    rw [← toOption_eq_some_iff, series, hviews, blogsBy, htables]
    decide +kernel
  have htwo : performanceSeries d .month (some 2) (some tree) .sequential = .ok rows' := by
    refine performanceSeries_eq_ok_iff.2 ⟨some f, hfilter, ?_⟩
    rw [← toOption_eq_some_iff, series, rows_selected, hviews, blogsBy, htables]
    decide +kernel
  obtain ⟨hnone, hshare⟩ := performanceSeries_authors d .month (some tree) .sequential
  obtain ⟨ps, psOf, rowsOf, hans, hansOf, hcounts, -⟩ := hshare rows hall
  have hthree : performanceSeries d .month (some 3) (some tree) .sequential = .ok [] := by
    refine hnone (ViewQuery.everything.filter f) ?_ 3 (by rw [htables]; decide)
    rw [narrowed_eq, hfilter]
    rfl
  have hids : d.tables.ids .user = [1, 2] := by
    rw [htables]
    decide
  rw [hids] at hcounts
  exact ⟨d, hd, hall, htwo, hthree, ps, psOf, rowsOf, hans, hansOf, hcounts⟩

end Analytics

end Readership
