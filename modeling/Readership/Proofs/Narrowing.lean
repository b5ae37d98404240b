import Readership.Proofs.Rearrangement
import Readership.Proofs.TimeConditions

/-!
# Readership.Proofs.Narrowing

Selections that are narrowed step by step.

A step keeps the views that pass a filter, those of a window, or those of an
author's blogs.  The last two are filters as well, on paths that start at the
view; `Narrowing.keeps` says what they ask of a stored view, without paths:

* `selects_narrowedBy` -- a view is selected after some steps if it was before
  and each step keeps it;
* `rows_narrowedBy_congr` -- so the order of the steps and their repetition
  make no difference, and neither does how filters are put together;
* `rows_authoredBy` -- an author is asked of the blog that a view is of.
-/

namespace Readership

open Calendar

/-- The author of the blog that a view is of, found by a search of the table. -/
def Tables.authorOf? (t : Tables) (v : View) : Option Int :=
  (t.blogs.toList.find? (·.id = v.blog)).map (·.author)

/-- One step of narrowing a selection. -/
inductive Narrowing where
  /-- To the views that a filter holds of. -/
  | filter (f : RowFilter)
  /-- To the views of a window, both its ends included. -/
  | between (start finish : Instant)
  /-- To the views of blogs by an author. -/
  | authoredBy (author : Int)

namespace Narrowing

/-- The selection that a step leaves of another. -/
def apply (q : ViewQuery) : Narrowing → ViewQuery
  | filter f => q.filter f
  | between start finish => q.between start finish
  | authoredBy author => q.authoredBy author

/-- Whether a step keeps the view that is stored at a position. -/
def keeps (d : Dataset) (v : View) (position : Nat) : Narrowing → Bool
  | filter f => f.holds d ⟨.view, position⟩
  | between start finish => start ≤ v.viewedAt ∧ v.viewedAt ≤ finish
  | authoredBy author => d.tables.authorOf? v = some author

end Narrowing

/-- The selection that is left after some steps, one after the other. -/
def ViewQuery.narrowedBy (q : ViewQuery) (steps : List Narrowing) : ViewQuery :=
  steps.foldl Narrowing.apply q

/-! ## authors -/

namespace Dataset

variable {d : Dataset}

theorem contents_blog (t : Tables) : t.contents .blog = t.blogs.toList.map Blog.read := by
  rw [Tables.contents, Tables.rows, List.map_map]
  exact Tables.map_range_read t.blogs Blog.read

/-- From a view, the path of authors leads to the author of its blog. -/
theorem values_authorId {i : Nat} {v : View} (hv : d.tables.views[i]? = some v) :
    d.values ⟨.view, i⟩ ViewQuery.authorId = (d.tables.authorOf? v).toList.map .integer := by
  have hkey : (d.tables.read ⟨.view, i⟩ .blogId).integer? = some v.blog := by
    simp [Tables.read, hv, View.read]
  have hread : (d.reach ⟨.view, i⟩ [.blog]).map d.tables.read =
      (d.tables.blogs.toList.filter (·.id = v.blog)).map Blog.read := by
    rw [map_read_reach, Tables.contentsReach, Tables.contentsHop]
    have hid : (fun x : Column → Value => decide ((x .id).integer? = some v.blog)) ∘ Blog.read =
        fun b => decide (b.id = v.blog) := by
      funext b
      simp [Blog.read]
    simp only [Entity.join?, hkey, Relation.target, contents_blog, Tables.contentsReach,
      List.flatMap_singleton', List.filter_map, hid]
  have hcolumn := congrArg (List.map (· Column.authorId)) hread
  rw [List.map_map, List.map_map] at hcolumn
  rw [Tables.authorOf?, Option.toList_map, ← d.looksUp_blog.eq_find?, d.looksUp_blog.toList_eq,
    List.map_map]
  exact hcolumn

end Dataset

/-- The test for an author asks for the author of the blog that is viewed. -/
theorem RowFilter.holds_authorId {d : Dataset} {i : Nat} {v : View}
    (hv : d.tables.views[i]? = some v) (author : Int) :
    (test ViewQuery.authorId (.exact (.integer author))).holds d ⟨.view, i⟩ =
      decide (d.tables.authorOf? v = some author) := by
  rw [holds, Dataset.values_authorId hv]
  cases d.tables.authorOf? v with
  | none => rfl
  | some a =>
      have hequal : (compare a author).isEq = decide (a = author) := by
        rw [Bool.eq_iff_iff, Ordering.isEq_iff_eq_eq, Std.compare_eq_iff_eq, decide_eq_true_eq]
      simp [Lookup.testAny, Lookup.test, Lookup.ordered, Value.compare?, hequal]

namespace ViewQuery

/-- Narrowing to an author leaves the views of the author's blogs. -/
theorem rows_authoredBy (q : ViewQuery) (author : Int) (d : Dataset) :
    (q.authoredBy author).rows d = (q.rows d).filter (d.tables.authorOf? · = some author) :=
  rows_filter (fun _ _ hv => RowFilter.holds_authorId hv author) q

/-! ## steps -/

section
variable {d : Dataset} {i : Nat} {v : View} (hv : d.tables.views[i]? = some v)
include hv

/-- One step asks of a stored view what the step keeps. -/
theorem selects_apply (q : ViewQuery) (s : Narrowing) :
    (s.apply q).selects d i = (q.selects d i && s.keeps d v i) := by
  cases s with
  | filter f => exact selects_filter q f d i
  | between start finish =>
      rw [Narrowing.apply, between, selects_filter, selects_filter,
        RowFilter.holds_viewedAt hv (by simp), RowFilter.holds_viewedAt hv (by simp),
        Lookup.test_greaterOrEqual_timestamp, Lookup.test_lessOrEqual_timestamp, Bool.and_assoc,
        Narrowing.keeps, Bool.decide_and]
  | authoredBy author =>
      rw [Narrowing.apply, authoredBy, selects_filter, RowFilter.holds_authorId hv,
        Narrowing.keeps]

/-- Some steps ask of a stored view that each of them keeps it. -/
theorem selects_narrowedBy (q : ViewQuery) (steps : List Narrowing) :
    (q.narrowedBy steps).selects d i = (q.selects d i && steps.all (·.keeps d v i)) := by
  induction steps generalizing q with
  | nil => simp [narrowedBy]
  | cons s steps ih =>
      have hstep : q.narrowedBy (s :: steps) = (s.apply q).narrowedBy steps := rfl
      rw [hstep, ih, selects_apply hv, List.all_cons, Bool.and_assoc]

end

/-- After some steps the positions are kept that all of them keep. -/
theorem kept_narrowedBy (q : ViewQuery) (steps : List Narrowing) (d : Dataset) :
    (q.narrowedBy steps).kept d =
      (q.kept d).filter fun (v, i) => steps.all (·.keeps d v i) := by
  rw [kept, kept, List.filter_filter]
  apply List.filter_congr
  rintro ⟨v, i⟩ hmem
  have hv : d.tables.views[i]? = some v := by
    rw [← Array.getElem?_toList]
    exact List.mk_mem_zipIdx_iff_getElem?.1 hmem
  dsimp only
  rw [selects_narrowedBy hv, Bool.and_comm]

theorem rows_narrowedBy (q : ViewQuery) (steps : List Narrowing) (d : Dataset) :
    (q.narrowedBy steps).rows d =
      ((q.kept d).filter fun (v, i) => steps.all (·.keeps d v i)).map (·.1) := by
  rw [rows_eq_filter, kept_narrowedBy]

/-- Steps that ask for more leave some of the views, in their order. -/
theorem rows_narrowedBy_sublist {steps steps' : List Narrowing} {d : Dataset}
    (h : ∀ v i, steps.all (·.keeps d v i) → steps'.all (·.keeps d v i)) (q : ViewQuery) :
    ((q.narrowedBy steps).rows d).Sublist ((q.narrowedBy steps').rows d) := by
  rw [rows_narrowedBy, rows_narrowedBy]
  exact (List.monotone_filter_right _ fun (v, i) => h v i).map _

/-- Steps that ask the same of every stored view leave the same views. -/
theorem rows_narrowedBy_congr {steps steps' : List Narrowing} {d : Dataset}
    (h : ∀ v i, steps.all (·.keeps d v i) = steps'.all (·.keeps d v i)) (q : ViewQuery) :
    (q.narrowedBy steps).rows d = (q.narrowedBy steps').rows d := by
  rw [rows_narrowedBy, rows_narrowedBy]
  simp only [h]

/-- Neither the order of steps nor their repetition makes a difference. -/
theorem rows_narrowedBy_of_mem_iff {steps steps' : List Narrowing}
    (h : ∀ s, s ∈ steps' ↔ s ∈ steps) (q : ViewQuery) (d : Dataset) :
    (q.narrowedBy steps').rows d = (q.narrowedBy steps).rows d := by
  apply rows_narrowedBy_congr
  intro v i
  rw [Bool.eq_iff_iff, List.all_eq_true, List.all_eq_true]
  simp only [h]

/-- Filters that follow each other ask for what all of them together ask for. -/
theorem rows_narrowedBy_all (before after : List Narrowing) (fs : List RowFilter) (q : ViewQuery)
    (d : Dataset) :
    (q.narrowedBy (before ++ .filter (.all fs) :: after)).rows d =
      (q.narrowedBy (before ++ fs.map .filter ++ after)).rows d := by
  apply rows_narrowedBy_congr
  intro v i
  have hfs : (Narrowing.filter (.all fs)).keeps d v i =
      (fs.map Narrowing.filter).all (·.keeps d v i) := by
    rw [Narrowing.keeps, RowFilter.holds, RowFilter.holdsAll_eq, List.all_map]
    rfl
  rw [List.all_append, List.all_cons, hfs, List.all_append, List.all_append, Bool.and_assoc]

/-- A filter that says nothing can stand anywhere among the steps. -/
theorem rows_narrowedBy_always (before after : List Narrowing) (q : ViewQuery) (d : Dataset) :
    (q.narrowedBy (before ++ .filter .always :: after)).rows d =
      (q.narrowedBy (before ++ after)).rows d := by
  apply rows_narrowedBy_congr
  intro v i
  rw [List.all_append, List.all_cons, List.all_append, Narrowing.keeps, RowFilter.holds,
    Bool.true_and]

/-- **Narrowing is conjunction**: whatever the steps, they leave the stored views
that each of them keeps, in the order of their table and with ids that differ;
no such view is passed over, and none is listed twice because a path reaches
many rows.  So steps may be exchanged and repeated, filters that follow each
other may be put together, and a filter that says nothing may be added
anywhere. -/
theorem rows_narrowedBy_eq_filter (d : Dataset) (steps : List Narrowing) :
    let q := everything.narrowedBy steps
    q.rows d = (d.tables.views.toList.zipIdx.filter fun (v, i) =>
        steps.all (·.keeps d v i)).map (·.1) ∧
      (q.rows d).Sublist d.tables.views.toList ∧
      (q.ids d).Nodup ∧
      (∀ steps' : List Narrowing, (∀ s, s ∈ steps' ↔ s ∈ steps) →
        (everything.narrowedBy steps').rows d = q.rows d) ∧
      (∀ before fs after, steps = before ++ fs.map Narrowing.filter ++ after →
        (everything.narrowedBy (before ++ .filter (.all fs) :: after)).rows d = q.rows d) ∧
      ∀ before after, steps = before ++ after →
        (everything.narrowedBy (before ++ .filter .always :: after)).rows d = q.rows d := by
  intro q
  refine ⟨?_, q.rows_sublist d, ?_, fun steps' h => ?_, ?_, ?_⟩
  · rw [rows_narrowedBy, kept_everything]
  · rw [ids, rows_eq_filter]
    exact q.nodup_ids_kept d
  · exact rows_narrowedBy_of_mem_iff h everything d
  · rintro before fs after rfl
    exact rows_narrowedBy_all before after fs everything d
  · rintro before after rfl
    exact rows_narrowedBy_always before after everything d

/-- A window that leaves out the view in the leap second, the author of all
blogs, and a filter that holds of a view because its blog has that first view. -/
theorem rows_narrowedBy_eq_filter_sample :
    let start := Instant.midnight ⟨736329, by decide, by decide⟩
    let finish := Instant.midnight ⟨736330, by decide, by decide⟩
    let first := RowFilter.test ⟨"blog.views.id", [.blog, .views], .id⟩ (.exact (.integer 1))
    let known := RowFilter.test ⟨"blog.views.viewer", [.blog, .views, .viewer], .id⟩
      (.oneOf [.integer 1, .integer 2])
    let steps := [Narrowing.between start finish, .filter first, .filter known, .authoredBy 1]
    let others := [Narrowing.authoredBy 1, .filter known, .between start finish, .authoredBy 1,
      .filter first]
    let joined := [Narrowing.between start finish, .filter (.all [first, known]), .authoredBy 1]
    ∃ d, Dataset.ofTables .turnOfYear = .ok d ∧
      (everything.narrowedBy steps).ids d = [2, 3] ∧
      (everything.narrowedBy others).rows d = (everything.narrowedBy steps).rows d ∧
      (everything.narrowedBy joined).rows d = (everything.narrowedBy steps).rows d := by
  intro start finish first known steps others joined
  obtain ⟨d, hd⟩ := Dataset.exists_ofTables Tables.sound_turnOfYear
  obtain ⟨hrows, -, -, hsame, hjoined, -⟩ := rows_narrowedBy_eq_filter d steps
  have hids : (everything.narrowedBy steps).ids d = [2, 3] := by
    rw [ids, hrows]
    simp only [steps, List.all_cons, List.all_nil, Narrowing.keeps, first, known, RowFilter.holds,
      Dataset.values_eq_scanValues, Dataset.tables_of_ofTables hd]
    decide +kernel
  refine ⟨d, hd, hids, hsame others fun s => ?_, ?_⟩
  · simp only [others, steps, List.mem_cons, List.not_mem_nil, or_false]
    tauto
  · exact hjoined [.between start finish] [first, known] [.authoredBy 1] rfl

end ViewQuery

end Readership
