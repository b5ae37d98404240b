import Readership.Proofs.Parameters
import Readership.Proofs.Parts

/-!
# Readership.Proofs.Agreement

Rankings against grouped counts.

A ranking of countries is a cut of their grouped counts.  Users are counted
twice over: by name in grouped counts and by themselves in a ranking.

* The views under a name are those by the users of that name together
  (`viewsUnder_user_eq`).
* Where no two of the users who viewed something share a name, a name stands for
  one user (`viewsByName_eq`), and both lists are in the same order
  (`map_name_eq_names`).  So their first rows tell of the same names and counts
  (`IsUserTop.map_cells_eq`).

The two requests select the same views where both name the same window and
filter (`BlogViewsRequest.selection`).
-/

namespace Readership

open Calendar

namespace Report

/-! ## users of one name -/

/-- The number of selected views by all users of a name. -/
def viewsByName (d : Dataset) (q : ViewQuery) (x : String) : Nat :=
  ((d.tables.users.toList.filter (·.username = x)).map (viewsBy d q)).sum

/-- Whether no two of the users with a selected view share a name. -/
def NamedApart (d : Dataset) (q : ViewQuery) : Prop :=
  ∀ u ∈ d.tables.users.toList, ∀ w ∈ d.tables.users.toList, 0 < viewsBy d q u →
    0 < viewsBy d q w → u.username = w.username → u = w

section
variable {d : Dataset} {q : ViewQuery}

/-- A view is counted under the name of its viewer. -/
theorem nameIn_user_eq_some_iff {v : View} {x : String} :
    nameIn d.tables .user v = some x ↔
      ∃ u ∈ d.tables.users.toList, u.username = x ∧ v.viewer = some u.id := by
  simp only [nameIn, Option.bind_eq_some_iff, ← d.looksUp_user.eq_find?, Option.map_eq_some_iff,
    d.looksUp_user.eq_some_iff]
  constructor
  · rintro ⟨id, hviewer, u, ⟨hu, rfl⟩, hname⟩
    exact ⟨u, hu, hname, hviewer⟩
  · rintro ⟨u, hu, hname, hviewer⟩
    exact ⟨u.id, hviewer, u, ⟨hu, rfl⟩, hname⟩

variable (d q) in
/-- The views under a name are those by the users of that name. -/
theorem viewsUnder_user_eq (x : String) :
    viewsUnder (nameIn d.tables .user) (q.rows d) x = viewsByName d q x := by
  -- the views under the name, to be counted by their viewers
  let under := (q.rows d).filter (nameIn d.tables .user · = some x)
  let users := d.tables.users.toList.filter (·.username = x)
  have hnodup : (users.map (·.id)).Nodup :=
    (List.filter_sublist.map _).nodup (d.sound.nodup_ids .user)
  have hcover : ∀ v ∈ under, ∃ id ∈ users.map (·.id), v.viewer = some id := by
    intro v hv
    have hname := (List.mem_filter.1 hv).2
    rw [decide_eq_true_eq, nameIn_user_eq_some_iff] at hname
    obtain ⟨u, hu, hux, hviewer⟩ := hname
    exact ⟨u.id, List.mem_map_of_mem (List.mem_filter.2 ⟨hu, by simpa using hux⟩), hviewer⟩
  have hcount : ∀ u ∈ users, under.countP (·.viewer = some u.id) = viewsBy d q u := by
    intro u hu
    obtain ⟨hmem, hux⟩ := List.mem_filter.1 hu
    rw [viewsBy, List.countP_filter]
    apply List.countP_congr
    intro v _
    have hunder : v.viewer = some u.id → nameIn d.tables .user v = some x := fun hviewer =>
      nameIn_user_eq_some_iff.2 ⟨u, hmem, by simpa using hux, hviewer⟩
    simpa using hunder
  calc viewsUnder (nameIn d.tables .user) (q.rows d) x = under.length :=
        List.countP_eq_length_filter
    _ = ((users.map (·.id)).map fun id => under.countP (·.viewer = some id)).sum :=
        (sum_map_countP _ hnodup hcover).symm
    _ = viewsByName d q x := by
        rw [viewsByName, List.map_map, ← List.map_congr_left hcount]
        rfl

/-- Where users are named apart, a name stands for the one user of that name who
viewed something. -/
theorem viewsByName_eq (hapart : NamedApart d q) {u : User} (hu : u ∈ d.tables.users.toList)
    (hviews : 0 < viewsBy d q u) : viewsByName d q u.username = viewsBy d q u := by
  have hids : (d.tables.users.toList.map (·.id)).Nodup := d.sound.nodup_ids .user
  have hnodup : d.tables.users.toList.Nodup := hids.of_map
  have hmem : u ∈ d.tables.users.toList.filter (·.username = u.username) :=
    List.mem_filter.2 ⟨hu, by simp⟩
  have hothers : ∀ w, w ≠ u → w ∈ d.tables.users.toList.filter (·.username = u.username) →
      viewsBy d q w = 0 := by
    intro w hne hw
    obtain ⟨hwmem, hname⟩ := List.mem_filter.1 hw
    by_contra hzero
    exact hne (hapart w hwmem u hu (Nat.pos_of_ne_zero hzero) hviews (by simpa using hname))
  rw [viewsByName, List.sum_map_eq_nsmul_single u _ hothers,
    List.count_eq_one_of_mem (hnodup.filter _) hmem, one_nsmul]

end

/-! ## one order -/

/-- Names that are in order by their counts are the names of entries that are so
too, if both are the same names and tell the same counts. -/
theorem map_name_eq_names {name : View → Option String} {views : List View} {names : List String}
    {rows : List Row} (g : IsGrouped name views names rows) {entries : List Standing}
    (hordered : entries.Pairwise fun a b => ¬ b.Above a)
    (hviews : ∀ s ∈ entries, s.views = viewsUnder name views s.name)
    (hperm : (entries.map (·.name)).Perm names) : entries.map (·.name) = names := by
  let NotBefore (x y : String) : Prop := ¬ (standingOf name views y).Above (standingOf name views x)
  have hentries : (entries.map (·.name)).Pairwise NotBefore := by
    rw [List.pairwise_map]
    refine hordered.imp_of_mem fun {a b} ha hb hab => ?_
    simpa only [NotBefore, Standing.Above, standingOf, hviews a ha, hviews b hb] using hab
  have hnames : names.Pairwise NotBefore := g.ordered.imp fun h => Standing.not_above_of_above h
  exact hperm.eq_of_pairwise
    (fun x y _ _ hxy hyx => (Standing.eq_of_not_above hxy hyx).2) hentries hnames

section
variable {d : Dataset} {q : ViewQuery} {entries : List Standing}
  (hcounts : CountsEach (·.viewer) (q.rows d) entries)
  (htells : ∀ s ∈ entries, TellsUser d.tables s)
include hcounts htells

/-- An entry counts the views of its user, who has one. -/
theorem exists_user_of_mem {s : Standing} (hs : s ∈ entries) :
    ∃ u ∈ d.tables.users.toList, u.id = s.id ∧ u.username = s.name ∧ s.views = viewsBy d q u ∧
      0 < viewsBy d q u := by
  obtain ⟨u, hu, hid, hname, -⟩ := htells s hs
  have hviews : s.views = viewsBy d q u := by
    rw [hcounts.views_eq s hs, viewsBy, hid]
  obtain ⟨v, hv, hviewer⟩ := (hcounts.mem_iff s.id).1 (List.mem_map_of_mem hs)
  have hpos : 0 < viewsBy d q u := List.countP_pos_iff.2 ⟨v, hv, by simp [hviewer, hid]⟩
  exact ⟨u, hu, hid, hname.symm, hviews, hpos⟩

/-- Entries of users tell the names of the views. -/
theorem mem_map_name_iff (x : String) :
    x ∈ entries.map (·.name) ↔ ∃ v ∈ q.rows d, nameIn d.tables .user v = some x := by
  simp only [nameIn_user_eq_some_iff]
  constructor
  · intro hx
    obtain ⟨s, hs, rfl⟩ := List.mem_map.1 hx
    obtain ⟨u, hu, hid, hname, -⟩ := exists_user_of_mem hcounts htells hs
    obtain ⟨v, hv, hviewer⟩ := (hcounts.mem_iff s.id).1 (List.mem_map_of_mem hs)
    exact ⟨v, hv, u, hu, hname, by rw [hviewer, hid]⟩
  · rintro ⟨v, hv, u, hu, rfl, hviewer⟩
    obtain ⟨s, hs, hid⟩ := List.mem_map.1 ((hcounts.mem_iff u.id).2 ⟨v, hv, hviewer⟩)
    obtain ⟨w, hw, hwid, hname, -⟩ := exists_user_of_mem hcounts htells hs
    obtain rfl : w = u := d.looksUp_user.eq_of_id hw hu (by rw [hwid, hid])
    exact List.mem_map.2 ⟨s, hs, hname.symm⟩

/-- Where users are named apart, entries differ in their names. -/
theorem nodup_map_name (hapart : NamedApart d q) : (entries.map (·.name)).Nodup := by
  refine List.Nodup.map_on ?_ hcounts.nodup.of_map
  intro s hs s' hs' hname
  obtain ⟨u, hu, hid, hux, hviews, hpos⟩ := exists_user_of_mem hcounts htells hs
  obtain ⟨w, hw, hid', hwx, hviews', hpos'⟩ := exists_user_of_mem hcounts htells hs'
  obtain rfl : u = w := hapart u hu w hw hpos hpos' (by rw [hux, hwx, hname])
  exact (htells s hs).eq (htells s' hs') (hid.symm.trans hid') (hviews.trans hviews'.symm)

end

/-- Names and counts of the top users are those of the first rows of the grouped
counts, where users are named apart. -/
theorem IsUserTop.map_cells_eq {d : Dataset} {q : ViewQuery} (hapart : NamedApart d q)
    {names : List String} {rows rows' : List Row}
    (g : IsGrouped (nameIn d.tables .user) (q.rows d) names rows) (htop : IsUserTop d q rows') :
    rows'.map (fun r => (r.x, r.z)) = (rows.take topLimit).map fun r => (r.x, r.z) := by
  obtain ⟨entries, htop, hcounts, htells⟩ := htop
  have hviews : ∀ s ∈ entries, s.views =
      viewsUnder (nameIn d.tables .user) (q.rows d) s.name := by
    intro s hs
    obtain ⟨u, hu, -, hname, hviews, hpos⟩ := exists_user_of_mem hcounts htells hs
    rw [viewsUnder_user_eq, ← hname, viewsByName_eq hapart hu hpos, hviews]
  have hperm : (entries.map (·.name)).Perm names := by
    rw [List.perm_ext_iff_of_nodup (nodup_map_name hcounts htells hapart) g.nodup]
    intro x
    rw [mem_map_name_iff hcounts htells, g.mem_iff]
  have hnames := map_name_eq_names g htop.ordered hviews hperm
  have hcells : entries.map (fun s => (s.toRow.x, s.toRow.z)) = rows.map fun r => (r.x, r.z) := by
    rw [g.rows_eq, ← hnames, List.map_map, List.map_map]
    apply List.map_congr_left
    intro s hs
    simp [Standing.toRow, hviews s hs]
  have hfirst : min 10 entries.length = topLimit ⊓ entries.length := rfl
  rw [htop.rows_eq, hfirst, ← List.take_eq_take_min, List.map_map, List.map_take, List.map_take,
    ← hcells]
  rfl

end Report

/-! ## requests -/

/-- The views that a request for grouped counts is about: those in its window
that its filter leaves. -/
def BlogViewsRequest.selection (r : BlogViewsRequest) (now : Instant) :
    Except AnalyticsError ViewQuery := do
  let window ← r.window.mapError .parameter
  let bounds ← Analytics.boundsOf window now
  let tree ← (Request.loadFilters r.filters).mapError .parameter
  Analytics.narrowed (Analytics.windowed (some bounds)) tree

namespace Analytics

open Report Text

section
variable (d : Dataset) (now : Instant) {r : BlogViewsRequest}

theorem blogViews_eq_selection {dimension : GroupDimension} (h : r.dimension = .ok dimension) :
    blogViews d now r = (r.selection now).bind fun q =>
      (Report.groupedCounts d q dimension).mapError .missingRow := by
  simp only [blogViews, BlogViewsRequest.selection, h, groupedCounts_eq_bind]
  cases r.window with
  | error e => rfl
  | ok w =>
      simp only [Except.mapError, bind, Except.bind]
      cases boundsOf w now with
      | error e => rfl
      | ok bounds => cases Request.loadFilters r.filters <;> rfl

variable {r' : TopRequest} {range : String} (hblank : isBlankText range = false)
  (hrange : r.range = some range) (hrange' : r'.range = some range)
  (hfilters : r'.filters = r.filters)
include hblank hrange hrange' hfilters

/-- A ranking within a window is of the same views. -/
theorem top_eq_selection {dimension : TopDimension} (h : r'.dimension = .ok dimension) :
    top d now r' = (r.selection now).bind fun q =>
      (Report.top d q dimension).mapError .missingRow := by
  have hgiven : Request.given? (some range) = some (trim range) := by
    simp [Request.given?_some, hblank]
  have hwindow : r.window = Window.ofName (trim range) := by
    rw [BlogViewsRequest.window, hrange, Request.required, hgiven]
  have hwindow' : r'.window = r.window.map some := by
    rw [TopRequest.window, hrange', Request.optional, hgiven, hwindow]
  simp only [top, BlogViewsRequest.selection, h, hwindow', hfilters, topRows_eq_bind]
  cases r.window with
  | error e => rfl
  | ok w =>
      simp only [Except.mapError, Except.map, bind, Except.bind, boundsOf?]
      cases boundsOf w now with
      | error e => rfl
      | ok bounds => cases Request.loadFilters r.filters <;> rfl

/-- **Rankings agree with grouped counts**, in a window and under a filter that
both requests name alike.  The top countries are the first ten rows of the
counts by country, or both requests fail alike.  Counts by user tell of a name
how many of the selected views are by the users of that name together; and if
no two users with a selected view share a name, names and counts of the top
users are those of the first ten rows. -/
theorem top_agrees_with_blogViews :
    (r.dimension = .ok .country → r'.dimension = .ok .country →
      top d now r' = (blogViews d now r).map (·.take 10)) ∧
    (r.dimension = .ok .user → r'.dimension = .ok .user →
      (∀ e, r.selection now = .error e →
        blogViews d now r = .error e ∧ top d now r' = .error e) ∧
      ∀ q, r.selection now = .ok q →
        ∃ rows rows', blogViews d now r = .ok rows ∧ top d now r' = .ok rows' ∧
          (rows.map (·.x)).Nodup ∧
          (∀ x, ∃ blogs, CountsFor rows x blogs (viewsByName d q x)) ∧
          (NamedApart d q →
            rows'.map (fun row => (row.x, row.z)) =
              (rows.take 10).map fun row => (row.x, row.z))) := by
  constructor
  · intro hdimension hdimension'
    rw [blogViews_eq_selection d now hdimension,
      top_eq_selection d now hblank hrange hrange' hfilters hdimension']
    cases r.selection now with
    | error e => rfl
    | ok q =>
        simp only [Except.bind, Report.top, ranking, topLimit]
        cases Report.groupedCounts d q .country <;> rfl
  · intro hdimension hdimension'
    rw [blogViews_eq_selection d now hdimension,
      top_eq_selection d now hblank hrange hrange' hfilters hdimension']
    constructor
    · intro e he
      rw [he]
      exact ⟨rfl, rfl⟩
    · intro q hq
      obtain ⟨names, rows, hrows, hgrouped⟩ := exists_isGrouped d q .user
      obtain ⟨rows', hrows', htop⟩ := exists_isUserTop d q
      rw [hq]
      simp only [Except.bind, hrows, hrows', Except.mapError]
      refine ⟨rows, rows', rfl, rfl, hgrouped.map_x ▸ hgrouped.nodup, fun x => ?_,
        fun hapart => htop.map_cells_eq hapart hgrouped⟩
      have hcounts := hgrouped.countsFor x
      rw [viewsUnder_user_eq] at hcounts
      exact ⟨_, hcounts⟩

end

/-- In the week before 3 February there are views by one user and by none. -/
theorem top_agrees_with_blogViews_sample :
    let now := Instant.midnight ⟨738918, by decide, by decide⟩
    let counts (type : String) : BlogViewsRequest :=
      { objectType := some type, range := some " week " }
    let ranking (type : String) : TopRequest := { top := some type, range := some " week " }
    ∃ d, Dataset.ofTables .sample = .ok d ∧
      top d now (ranking "country") = (blogViews d now (counts "country")).map (·.take 10) ∧
      ∃ rows rows', blogViews d now (counts "user") = .ok rows ∧
        top d now (ranking "user") = .ok rows' ∧
        rows'.map (fun row => (row.x, row.z)) = (rows.take 10).map fun row => (row.x, row.z) := by
  intro now counts ranking
  obtain ⟨d, hd⟩ := Dataset.exists_ofTables Tables.sound_sample
  have hblank : isBlankText " week " = false := by decide
  obtain ⟨hcountry, -⟩ := @top_agrees_with_blogViews d now (counts "country") (ranking "country")
    " week " hblank rfl rfl rfl
  obtain ⟨-, huser⟩ := @top_agrees_with_blogViews d now (counts "user") (ranking "user")
    " week " hblank rfl rfl rfl
  obtain ⟨-, hrows⟩ := huser (by decide +kernel) (by decide +kernel)
  obtain ⟨q, hq⟩ : ∃ q, ((counts "user").selection now).toOption = some q :=
    Option.isSome_iff_exists.1 (by decide +kernel)
  obtain ⟨rows, rows', hrows, hrows', -, -, hcells⟩ := hrows q (toOption_eq_some_iff.1 hq)
  have hapart : NamedApart d q := by
    intro u hu w hw _ _ _
    rw [Dataset.tables_of_ofTables hd] at hu hw
    rw [List.mem_singleton.1 hu, List.mem_singleton.1 hw]
  exact ⟨d, hd, hcountry (by decide +kernel) (by decide +kernel), rows, rows', hrows, hrows',
    hcells hapart⟩

end Analytics

end Readership
