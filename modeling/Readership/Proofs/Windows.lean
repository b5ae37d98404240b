import Readership.Proofs.Narrowing
import Readership.Proofs.Parameters
import Readership.Proofs.Parts
import Readership.Proofs.PeriodStarts
import Readership.Proofs.Validation

/-!
# Readership.Proofs.Windows

Longer windows and wider selections.

* A selection that is narrowed counts nothing that it did not count before:
  each of its rows is within one of the rows of the selection (`Covered`,
  `exists_covered_groupedCounts`).
* A shorter window ends with a longer one and starts later, by the days between
  them, also when now is a leap second (`Window.exists_bounds?`).
* So the answer for the shorter one is within that for the longer one, or both
  are the same error of the client (`Analytics.within_blogViews`).
-/

namespace Readership

open Calendar

/-! ## rows within rows -/

/-- What it means that a cell counts no more than another. -/
def Cell.AtMost : Cell → Cell → Prop
  | .count m, .count n => m ≤ n
  | _, _ => False

namespace Report

/-- What it means that each of some rows is among others, with counts that are as
great or greater. -/
def Covered (rows rows' : List Row) : Prop :=
  ∀ r ∈ rows, ∃ r' ∈ rows', r'.x = r.x ∧ r.y.AtMost r'.y ∧ r.z.AtMost r'.z

/-- Counts of some of the views are within those of all of them. -/
theorem IsGrouped.covered {name : View → Option String} {views views' : List View}
    {names names' : List String} {rows rows' : List Row} (g : IsGrouped name views names rows)
    (g' : IsGrouped name views' names' rows') (h : views.Sublist views') : Covered rows rows' := by
  intro r hr
  rw [g.rows_eq] at hr
  obtain ⟨x, hx, rfl⟩ := List.mem_map.1 hr
  have hx' : x ∈ names' := by
    obtain ⟨v, hv, hname⟩ := (g.mem_iff x).1 hx
    exact (g'.mem_iff x).2 ⟨v, h.subset hv, hname⟩
  rw [g'.rows_eq]
  exact ⟨_, List.mem_map_of_mem hx', rfl, Int.ofNat_le.2 (blogsUnder_le_of_sublist h x),
    Int.ofNat_le.2 (viewsUnder_le_of_sublist h x)⟩

/-- There are counts of both selections, the ones within the others. -/
theorem exists_covered_groupedCounts {d : Dataset} {q q' : ViewQuery}
    (h : (q.rows d).Sublist (q'.rows d)) (dimension : GroupDimension) :
    ∃ rows rows', groupedCounts d q dimension = .ok rows ∧
      groupedCounts d q' dimension = .ok rows' ∧ Covered rows rows' := by
  obtain ⟨_, rows, hrows, g⟩ := exists_isGrouped d q dimension
  obtain ⟨_, rows', hrows', g'⟩ := exists_isGrouped d q' dimension
  exact ⟨rows, rows', hrows, hrows', g.covered g' h⟩

end Report

/-! ## counting back -/

namespace Calendar.Instant

theorem ofParts?_eq_some_iff {day : Int} {second nano : Nat} {t : Instant} :
    ofParts? day second nano = some t ↔
      t.date.number = day ∧ t.second = second ∧ t.nano = nano := by
  rw [ofParts?]
  constructor
  · intro h
    split at h
    · obtain ⟨date, hdate, rfl⟩ := Option.map_eq_some_iff.1 h
      exact ⟨Date.number_of_ofNumber? hdate, rfl, rfl⟩
    · contradiction
  · rintro ⟨rfl, rfl, rfl⟩
    rw [dif_pos ⟨t.second_lt, t.nano_lt, t.second_of_leap⟩, Date.ofNumber?_number]
    rfl

/-- The same time some days later is there if the day is. -/
theorem exists_ofParts?_add {day : Int} {second nano : Nat} {t : Instant}
    (h : ofParts? day second nano = some t) {k : Nat} (hk : day + k ≤ lastNumber) :
    ∃ later, ofParts? (day + k) second nano = some later ∧
      later.rank = t.rank + k * 86400 * 2000000000 := by
  obtain ⟨rfl, rfl, rfl⟩ := ofParts?_eq_some_iff.1 h
  have hfirst : firstNumber ≤ t.date.number + k := by
    have hdate := t.date.first_le
    omega
  refine ⟨⟨⟨t.date.number + k, hfirst, hk⟩, t.second, t.nano, t.second_lt, t.nano_lt,
    t.second_of_leap⟩, ofParts?_eq_some_iff.2 ⟨rfl, rfl, rfl⟩, ?_⟩
  simp only [rank]
  omega

/-- Fewer days back there is an instant too, later by the days between. -/
theorem exists_daysBefore? {t earlier : Instant} {n m : Nat} (hm : 0 < m) (hmn : m ≤ n)
    (h : t.daysBefore? n = some earlier) :
    ∃ later, t.daysBefore? m = some later ∧
      later.rank = earlier.rank + (n - m : Nat) * 86400 * 2000000000 := by
  -- the day that is counted from may be the one after the last, but `m` is positive
  have hlast := t.date.le_last
  have hsecond := t.second_lt
  unfold daysBefore? at h ⊢
  split at h
  · next hnano =>
    have hday : t.date.number - m = t.date.number - n + (n - m : Nat) := by omega
    rw [if_pos hnano, hday]
    exact exists_ofParts?_add h (by omega)
  · next hnano =>
    have hday : t.date.number + ((t.second + 1) / 86400 : Nat) - m =
        t.date.number + ((t.second + 1) / 86400 : Nat) - n + (n - m : Nat) := by omega
    rw [if_neg hnano]
    dsimp only at h ⊢
    rw [hday]
    exact exists_ofParts?_add h (by omega)

end Calendar.Instant

/-- A shorter window is there where a longer one is, and starts later by the days
between them. -/
theorem Window.exists_bounds? {w w' : Window} (h : w.days ≤ w'.days) {now start' : Instant}
    (hbounds : w'.bounds? now = some (start', now)) :
    ∃ start, w.bounds? now = some (start, now) ∧
      start.rank = start'.rank + (w'.days - w.days : Nat) * 86400 * 2000000000 := by
  obtain ⟨earlier, hearlier, heq⟩ := Option.map_eq_some_iff.1 hbounds
  obtain rfl : earlier = start' := congrArg Prod.fst heq
  have hpos : 0 < w.days := by cases w <;> decide
  obtain ⟨later, hlater, hrank⟩ := Instant.exists_daysBefore? hpos h hearlier
  exact ⟨later, by rw [bounds?, hlater]; rfl, hrank⟩

theorem Window.exists_of_isSome_bounds? {w : Window} {now : Instant} (h : (w.bounds? now).isSome) :
    ∃ start, w.bounds? now = some (start, now) := by
  obtain ⟨bounds, hbounds⟩ := Option.isSome_iff_exists.1 h
  obtain ⟨start, hstart, rfl⟩ := Option.map_eq_some_iff.1 hbounds
  exact ⟨start, hbounds⟩

/-! ## answers within answers -/

namespace ViewQuery

/-- A later start leaves some of the views, whatever follows. -/
theorem rows_between_sublist {start start' finish : Instant} (h : start' ≤ start)
    (steps : List Narrowing) (q : ViewQuery) (d : Dataset) :
    ((q.narrowedBy (.between start finish :: steps)).rows d).Sublist
      ((q.narrowedBy (.between start' finish :: steps)).rows d) := by
  apply rows_narrowedBy_sublist
  intro v i
  simp only [List.all_cons, Narrowing.keeps, Bool.and_eq_true, decide_eq_true_eq]
  rintro ⟨⟨hstart, hfinish⟩, hsteps⟩
  exact ⟨⟨Int.le_trans h hstart, hfinish⟩, hsteps⟩

theorem rows_between_elim_sublist {start start' : Instant} (h : start' ≤ start) (finish : Instant)
    (f : Option RowFilter) (d : Dataset) :
    ((f.elim (everything.between start finish)
        (everything.between start finish).filter).rows d).Sublist
      ((f.elim (everything.between start' finish)
        (everything.between start' finish).filter).rows d) := by
  cases f with
  | none => exact rows_between_sublist h [] everything d
  | some f => exact rows_between_sublist h [.filter f] everything d

end ViewQuery

namespace Analytics

open Report ViewQuery

/-- What it means that an answer is within another: the rows are, or both are the
same error of the client. -/
inductive Within : Except AnalyticsError (List Row) → Except AnalyticsError (List Row) → Prop where
  | rows {rows rows' : List Row} (h : Covered rows rows') : Within (.ok rows) (.ok rows')
  | error {e : AnalyticsError} (h : e.isClientError = true) : Within (.error e) (.error e)

/-- The filter is the last parameter of a request that is read. -/
theorem blogViews_eq_bind (d : Dataset) {now : Instant} {r : BlogViewsRequest}
    {dimension : GroupDimension} (hdimension : r.dimension = .ok dimension) {w : Window}
    (hw : r.window = .ok w) {start finish : Instant}
    (hbounds : w.bounds? now = some (start, finish)) :
    blogViews d now r = (filterOf r.filters).bind fun f =>
      (Report.groupedCounts d (f.elim (everything.between start finish)
        (everything.between start finish).filter) dimension).mapError .missingRow :=
  (blogViews_eq_answer d r.filters hdimension hw hbounds).trans (answer_eq r.filters _ _)

/-- The answer for a window that starts later is within the answer for the other,
if they differ in nothing else. -/
theorem within_blogViews (d : Dataset) {now : Instant} {r r' : BlogViewsRequest}
    (htype : r'.objectType = r.objectType) (hfilters : r'.filters = r.filters) {w w' : Window}
    (hw : r.window = .ok w) (hw' : r'.window = .ok w') {start start' : Instant}
    (hbounds : w.bounds? now = some (start, now)) (hbounds' : w'.bounds? now = some (start', now))
    (h : start' ≤ start) : Within (blogViews d now r) (blogViews d now r') := by
  have hdimension : r'.dimension = r.dimension := by
    rw [BlogViewsRequest.dimension, BlogViewsRequest.dimension, htype]
  cases hr : r.dimension with
  | error e =>
      have hanswer : blogViews d now r = .error (.parameter e) := by
        rw [blogViews, hr]
        rfl
      have hanswer' : blogViews d now r' = .error (.parameter e) := by
        rw [blogViews, hdimension, hr]
        rfl
      rw [hanswer, hanswer']
      exact .error rfl
  | ok dimension =>
      rw [blogViews_eq_bind d hr hw hbounds, blogViews_eq_bind d (hdimension.trans hr) hw' hbounds',
        hfilters]
      cases hf : filterOf r.filters with
      | error e => exact .error (isClientError_of_filterOf hf)
      | ok f =>
          obtain ⟨rows, rows', hrows, hrows', hcovered⟩ :=
            exists_covered_groupedCounts (rows_between_elim_sublist h now f d) dimension
          simp only [Except.bind, hrows, hrows']
          exact .rows hcovered

/-- **Narrower selections and shorter windows count no more**: however a
selection is narrowed further, each row of its counts is within a row of the
counts before.  The texts week, month and year, with or without blanks around,
ask for the windows that they name.  These, if the last is in range, end now and
start later in turn; for one type of object and one filter, each row of the answer
for a shorter window is within a row of the answer for a longer one, and where a
parameter is wrong both answers say so alike. -/
theorem narrowing_covered (d : Dataset) :
    (∀ q steps dimension, ∃ rows rows',
      Report.groupedCounts d (q.narrowedBy steps) dimension = .ok rows ∧
      Report.groupedCounts d q dimension = .ok rows' ∧ Covered rows rows') ∧
    (∀ (r : BlogViewsRequest) w, r.window = .ok w ↔ r.range.map Text.trim = some w.name) ∧
    ∀ now, (Window.year.bounds? now).isSome →
      (∃ week month year, Window.week.bounds? now = some (week, now) ∧
        Window.month.bounds? now = some (month, now) ∧
        Window.year.bounds? now = some (year, now) ∧ year < month ∧ month < week) ∧
      ∀ r r' : BlogViewsRequest, r'.objectType = r.objectType → r'.filters = r.filters →
        ∀ w w', r.window = .ok w → r'.window = .ok w' → w.days ≤ w'.days →
          Within (blogViews d now r) (blogViews d now r') := by
  refine ⟨fun q steps dimension => ?_, fun r w => BlogViewsRequest.window_eq_ok_iff,
    fun now hsome => ?_⟩
  · have hsub : ((q.narrowedBy steps).rows d).Sublist ((q.narrowedBy []).rows d) :=
      rows_narrowedBy_sublist (by simp) q
    exact exists_covered_groupedCounts hsub dimension
  obtain ⟨year, hyear⟩ := Window.exists_of_isSome_bounds? hsome
  constructor
  · obtain ⟨month, hmonth, hlater⟩ := Window.exists_bounds? (w := .month) (by decide) hyear
    obtain ⟨week, hweek, hlater'⟩ := Window.exists_bounds? (w := .week) (by decide) hmonth
    refine ⟨week, month, year, hweek, hmonth, hyear, ?_, ?_⟩
    · rw [Instant.lt_iff, hlater]
      simp only [Window.days]
      omega
    · rw [Instant.lt_iff, hlater']
      simp only [Window.days]
      omega
  · intro r r' htype hfilters w w' hw hw' hdays
    have hlong : w'.days ≤ Window.year.days := by cases w' <;> decide
    obtain ⟨start', hbounds', -⟩ := Window.exists_bounds? hlong hyear
    obtain ⟨start, hbounds, hlater⟩ := Window.exists_bounds? hdays hbounds'
    refine within_blogViews d htype hfilters hw hw' hbounds hbounds' ?_
    rw [Instant.le_iff, hlater]
    omega

/-- Now is a leap second at the end of 15 February 2024, from where windows are
counted back as from 16 February.  The views of 1 February are within a month,
but not within a week. -/
theorem narrowing_covered_sample :
    let now : Instant := ⟨⟨738930, by decide, by decide⟩, 86399, 1500000000, by decide,
      by decide, by decide⟩
    let week : Instant := ⟨⟨738924, by decide, by decide⟩, 0, 500000000, by decide,
      by decide, by decide⟩
    let month : Instant := ⟨⟨738901, by decide, by decide⟩, 0, 500000000, by decide,
      by decide, by decide⟩
    let r : BlogViewsRequest := { objectType := some "country", range := some "week" }
    let r' : BlogViewsRequest := { objectType := some "country", range := some " month" }
    ∃ d, Dataset.ofTables .sample = .ok d ∧ Window.week.bounds? now = some (week, now) ∧
      Window.month.bounds? now = some (month, now) ∧ month < week ∧
      (everything.narrowedBy [.between week now]).ids d = [] ∧
      (everything.narrowedBy [.between month now]).ids d = [1, 2] ∧
      r.window = .ok .week ∧ r'.window = .ok .month ∧
      Within (blogViews d now r) (blogViews d now r') := by
  intro now week month r r'
  obtain ⟨d, hd⟩ := Dataset.exists_ofTables Tables.sound_sample
  have hids (start : Instant) : (everything.narrowedBy [.between start now]).ids d =
      ((Tables.sample.views.toList.zipIdx.filter fun x =>
        start ≤ x.1.viewedAt ∧ x.1.viewedAt ≤ now).map (·.1)).map (·.id) := by
    rw [ids, rows_narrowedBy, kept_everything]
    simp only [List.all_cons, List.all_nil, Narrowing.keeps, Bool.and_true,
      Dataset.tables_of_ofTables hd]
  have hweek : Window.week.bounds? now = some (week, now) := by decide +kernel
  have hmonth : Window.month.bounds? now = some (month, now) := by decide +kernel
  obtain ⟨-, hnamed, hwindows⟩ := narrowing_covered d
  obtain ⟨-, hwithin⟩ := hwindows now (by decide +kernel)
  have hr : r.window = .ok .week := (hnamed r .week).2 (by decide +kernel)
  have hr' : r'.window = .ok .month := (hnamed r' .month).2 (by decide +kernel)
  refine ⟨d, hd, hweek, hmonth, by decide +kernel, ?_, ?_, hr, hr', ?_⟩
  · rw [hids]
    decide +kernel
  · rw [hids]
    decide +kernel
  · exact hwithin r r' rfl rfl .week .month hr hr' (by decide)

end Analytics

end Readership
