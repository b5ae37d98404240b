import Readership.Analytics
import Readership.Proofs.GroupedCounts
import Readership.Proofs.Rearrangement
import Readership.Proofs.Series
import Readership.Proofs.Top

/-!
# Readership.Proofs.StorageOrder

Reports do not depend on the order in which rows are stored.

A selection holds the same views in another order, and every report sorts what
it counts:

* groups come in the order of their keys (`keys_groupBy_perm`), and their sizes
  are counts;
* so grouped counts and rankings are the same (`groupedCounts_eq_of_perm`,
  `top_eq_of_perm`);
* so is a series, where it has an answer: of several periods out of range
  another one may be told (`series_eq_ok_of_perm`).

Users of one name and with as many views may be listed in any order
(`IsUserTop`).  Names and counts are the same in all these lists
(`IsUserTop.map_cells_unique`); where there are no such users, one list only is
possible (`IsUserTop.unique`).
-/

namespace Readership

theorem toOption_mapError {ε ε' α : Type} (f : ε → ε') (r : Except ε α) :
    (r.mapError f).toOption = r.toOption := by
  cases r <;> rfl

namespace Report

/-! ## groups -/

section
variable {α κ : Type} [Ord κ] [Std.TransOrd κ] [Std.LawfulEqOrd κ]

/-- The keys of groups stand in their own order, whatever that of the items. -/
theorem keys_groupBy_perm (key : α → Option κ) {items items' : List α} (h : items.Perm items') :
    (groupBy key items).keys = (groupBy key items').keys := by
  have hperm : (groupBy key items).keys.Perm (groupBy key items').keys := by
    rw [List.perm_ext_iff_of_nodup Std.TreeMap.nodup_keys Std.TreeMap.nodup_keys]
    intro k
    simp only [mem_keys_groupBy, h.mem_iff]
  refine hperm.eq_of_pairwise ?_ Std.TreeMap.ordered_keys Std.TreeMap.ordered_keys
  intro a b _ _ hab hba
  have hnot := Std.OrientedCmp.not_lt_of_lt hab
  contradiction

end

/-! ## counts and rankings -/

theorem standingOf_perm (name : View → Option String) {views views' : List View}
    (h : views.Perm views') : standingOf name views = standingOf name views' := by
  funext x
  have hblogs : blogsUnder name views x = blogsUnder name views' x :=
    ((h.filter _).map _).dedup.length_eq
  have hviews : viewsUnder name views x = viewsUnder name views' x := h.countP_eq _
  rw [standingOf, standingOf, hblogs, hviews]

theorem standings_perm (key : View → Option Int) (entry : Int → Nat → Except MissingRow Standing)
    {views views' : List View} (h : views.Perm views') :
    standings key entry views = standings key entry views' := by
  simp only [standings, toList_groupBy, List.mapM_map, Function.comp_def]
  rw [keys_groupBy_perm key h]
  simp only [(h.filter _).length_eq]

section
variable {d d' : Dataset} (h : d.tables.Perm d'.tables)
include h

theorem nameIn_eq_of_perm (dimension : GroupDimension) :
    nameIn d.tables dimension = nameIn d'.tables dimension := by
  funext v
  cases dimension with
  | country =>
      simp only [nameIn, ← d.looksUp_country.eq_find?, ← d'.looksUp_country.eq_find?,
        d.looksUp_country.eq_of_perm d'.looksUp_country h.countries]
  | user =>
      simp only [nameIn, ← d.looksUp_user.eq_find?, ← d'.looksUp_user.eq_find?,
        d.looksUp_user.eq_of_perm d'.looksUp_user h.users]

theorem groupedCounts_eq_of_perm (q : ViewQuery) (dimension : GroupDimension) :
    groupedCounts d q dimension = groupedCounts d' q dimension := by
  have hviews (d : Dataset) : ∀ v ∈ q.rows d, v ∈ d.tables.views.toList := fun _ =>
    ViewQuery.mem_views_of_mem_rows
  have hrows := q.rows_perm h
  have hnamed : (named (nameIn d.tables dimension) (q.rows d)).Perm
      (named (nameIn d'.tables dimension) (q.rows d')) := by
    rw [nameIn_eq_of_perm h, named, named]
    exact hrows.filterMap _
  simp only [groupedCounts, namedViews_eq (hviews _), Except.map, map_toList_groupBy_named]
  rw [keys_groupBy_perm _ hnamed, nameIn_eq_of_perm h, standingOf_perm _ hrows]

theorem userStanding_eq_of_perm : userStanding d = userStanding d' := by
  funext id n
  simp only [userStanding, countryOf, countryName,
    d.looksUp_user.eq_of_perm d'.looksUp_user h.users,
    d.looksUp_country.eq_of_perm d'.looksUp_country h.countries]

theorem blogStanding_eq_of_perm : blogStanding d = blogStanding d' := by
  funext id n
  simp only [blogStanding, username, d.looksUp_user.eq_of_perm d'.looksUp_user h.users,
    d.looksUp_blog.eq_of_perm d'.looksUp_blog h.blogs]

theorem top_eq_of_perm (q : ViewQuery) (dimension : TopDimension) :
    top d q dimension = top d' q dimension := by
  have hrows := q.rows_perm h
  cases dimension with
  | country => rw [top, top, ranking, ranking, groupedCounts_eq_of_perm h]
  | user => rw [top, top, ranking, ranking, userStanding_eq_of_perm h, standings_perm _ _ hrows]
  | blog => rw [top, top, ranking, ranking, blogStanding_eq_of_perm h, standings_perm _ _ hrows]

end

/-! ## series -/

section
open Calendar
variable {g : Granularity}

theorem periodsOf_eq_ok {ts : List Instant} (h : ∀ t ∈ ts, ∃ p, Period.truncate t g = .ok p) :
    periodsOf g ts = .ok (ts.filterMap fun t => (Period.truncate t g).toOption) := by
  induction ts with
  | nil => rfl
  | cons t ts ih =>
      rw [List.forall_mem_cons] at h
      obtain ⟨p, hp⟩ := h.1
      simp [periodsOf, hp, ih h.2, Except.map, Except.toOption]

/-- The periods of instants in another order are there as well, in some
order. -/
theorem periodsOf_perm {ts ts' : List Instant} (h : ts.Perm ts') {ps : List Date}
    (hps : periodsOf g ts = .ok ps) : ∃ ps', periodsOf g ts' = .ok ps' ∧ ps.Perm ps' := by
  have hid : periodsOf g (ts.map id) = .ok ps := by rwa [List.map_id]
  have hok : ∀ t ∈ ts, ∃ p, Period.truncate t g = .ok p := exists_of_periodsOf hid
  obtain rfl := Except.ok.inj (hps.symm.trans (periodsOf_eq_ok hok))
  exact ⟨_, periodsOf_eq_ok fun t ht => hok t (h.mem_iff.2 ht), h.filterMap _⟩

/-- The rows of a series depend on the counts of the periods alone. -/
theorem seriesRows_congr {views views' blogs blogs' : Groups Date Date}
    (hviews : countOf views = countOf views') (hblogs : countOf blogs = countOf blogs')
    (baseline : Baseline) (before : Nat) (ps : List Date) :
    seriesRows views blogs g baseline before ps =
      seriesRows views' blogs' g baseline before ps := by
  induction ps generalizing before with
  | nil => rfl
  | cons p ps ih =>
      have href : reference views g baseline before p = reference views' g baseline before p := by
        cases baseline with
        | sequential => rfl
        | calendar => rw [reference, reference, hviews]
      simp only [seriesRows, href, hviews, hblogs, ih]

theorem countOf_groupBy_perm {ps ps' : List Date} (h : ps.Perm ps') :
    countOf (groupBy some ps) = countOf (groupBy some ps') := by
  funext p
  rw [countOf, countOf, length_members_groupBy, length_members_groupBy, h.countP_eq]

theorem series_eq_ok_of_perm {d d' : Dataset} (h : d.tables.Perm d'.tables) (q : ViewQuery)
    {blogs blogs' : List Blog} (hblogs : blogs.Perm blogs') {baseline : Baseline} {rows : List Row}
    (hrows : series d q blogs g baseline = .ok rows) :
    series d' q blogs' g baseline = .ok rows := by
  unfold series at hrows
  split at hrows <;> try contradiction
  next vps hvps =>
  split at hrows <;> try contradiction
  next bps hbps =>
  obtain ⟨vps', hvps', hv⟩ := periodsOf_perm ((q.rows_perm h).map _) hvps
  obtain ⟨bps', hbps', hb⟩ := periodsOf_perm (hblogs.map _) hbps
  simp only [series, hvps', hbps']
  rw [← keys_groupBy_perm some (hv.append hb),
    ← seriesRows_congr (countOf_groupBy_perm hv) (countOf_groupBy_perm hb)]
  exact hrows

theorem toOption_series_of_perm {d d' : Dataset} (h : d.tables.Perm d'.tables) (q : ViewQuery)
    {blogs blogs' : List Blog} (hblogs : blogs.Perm blogs') {baseline : Baseline} :
    (series d q blogs g baseline).toOption = (series d' q blogs' g baseline).toOption := by
  apply Option.ext
  intro rows
  rw [toOption_eq_some_iff, toOption_eq_some_iff]
  exact ⟨series_eq_ok_of_perm h q hblogs, series_eq_ok_of_perm h.symm q hblogs.symm⟩

end

/-! ## users of one name -/

/-- What it means that rows are those of the top users, where users of one name
and with as many views may stand in any order. -/
def IsUserTop (d : Dataset) (q : ViewQuery) (rows : List Row) : Prop :=
  ∃ entries, IsTop (fun a b => ¬ b.Above a) entries rows ∧
    CountsEach (·.viewer) (q.rows d) entries ∧ ∀ s ∈ entries, TellsUser d.tables s

/-- The number of selected views by a user. -/
def viewsBy (d : Dataset) (q : ViewQuery) (u : User) : Nat :=
  (q.rows d).countP (·.viewer = some u.id)

/-- Whether users differ in their names or in their numbers of selected
views. -/
def ToldApart (d : Dataset) (q : ViewQuery) : Prop :=
  ∀ u ∈ d.tables.users, ∀ w ∈ d.tables.users,
    u.username = w.username → viewsBy d q u = viewsBy d q w → u = w

/-- The ranking is one of those that are possible. -/
theorem exists_isUserTop (d : Dataset) (q : ViewQuery) :
    ∃ rows, top d q .user = .ok rows ∧ IsUserTop d q rows := by
  have hviews : ∀ v ∈ q.rows d, v ∈ d.tables.views.toList := fun _ =>
    ViewQuery.mem_views_of_mem_rows
  obtain ⟨entries, hentries, hcounts, htells⟩ := exists_standings
    (·.viewer) (userStanding d) (TellsUser d.tables)
    fun v hv id hid => userStanding_eq_ok ((Dataset.mem_ids_of_view (hviews v hv)).2.1 id hid)
  have htop : top d q .user = .ok ((ranked entries).take topLimit) := by
    rw [top, ranking, hentries]
    rfl
  exact ⟨_, htop, rank entries,
    isTop_take (pairwise_not_above_rank entries) fun a b => Standing.views_le_of_not_above,
    hcounts.perm (rank_perm entries), fun s hs => htells s ((rank_perm entries).mem_iff.1 hs)⟩

theorem CountsEach.of_perm {key : View → Option Int} {views views' : List View}
    {entries : List Standing} (h : views.Perm views') (c : CountsEach key views' entries) :
    CountsEach key views entries where
  nodup := c.nodup
  mem_iff id := by
    rw [c.mem_iff]
    simp only [h.mem_iff]
  views_eq s hs := by rw [c.views_eq s hs, h.countP_eq]

theorem TellsUser.of_perm {t t' : Tables} (h : t.Perm t') {s : Standing} (hs : TellsUser t' s) :
    TellsUser t s := by
  obtain ⟨u, hu, hid, hname, hnote⟩ := hs
  refine ⟨u, h.users.toList.mem_iff.2 hu, hid, hname, hnote.imp_right fun hsome => ?_⟩
  obtain ⟨c, hc, hcountry⟩ := hsome
  exact ⟨c, h.countries.toList.mem_iff.2 hc, hcountry⟩

theorem IsUserTop.of_perm {d d' : Dataset} (h : d.tables.Perm d'.tables) {q : ViewQuery}
    {rows : List Row} (hrows : IsUserTop d' q rows) : IsUserTop d q rows := by
  obtain ⟨entries, htop, hcounts, htells⟩ := hrows
  exact ⟨entries, htop, hcounts.of_perm (q.rows_perm h), fun s hs => (htells s hs).of_perm h⟩

/-- Entries of one user and with as many views are the same. -/
theorem TellsUser.eq {d : Dataset} {s s' : Standing} (hs : TellsUser d.tables s)
    (hs' : TellsUser d.tables s') (hid : s.id = s'.id) (hviews : s.views = s'.views) : s = s' := by
  obtain ⟨u, hu, huid, hname, hnote⟩ := hs
  obtain ⟨w, hw, hwid, hname', hnote'⟩ := hs'
  obtain rfl : u = w := d.looksUp_user.eq_of_id hu hw (by rw [huid, hwid, hid])
  have hsame : s.note = s'.note := by
    rcases hnote with ⟨hnone, hnote⟩ | ⟨c, hc, hsome, hnote⟩ <;>
      rcases hnote' with ⟨hnone', hnote'⟩ | ⟨c', hc', hsome', hnote'⟩
    · rw [hnote, hnote']
    · simp [hnone] at hsome'
    · simp [hsome] at hnone'
    · have hkey : c.id = c'.id := Option.some.inj (hsome.symm.trans hsome')
      rw [hnote, hnote', d.looksUp_country.eq_of_id hc hc' hkey]
  cases s
  cases s'
  simp_all

/-- Whatever the order of the entries, there is one for each user with a
selected view, and it is told what it says. -/
theorem mem_of_countsEach {d : Dataset} {q : ViewQuery} {entries entries' : List Standing}
    (hcounts : CountsEach (·.viewer) (q.rows d) entries)
    (htells : ∀ s ∈ entries, TellsUser d.tables s)
    (hcounts' : CountsEach (·.viewer) (q.rows d) entries')
    (htells' : ∀ s ∈ entries', TellsUser d.tables s) {s : Standing} (hs : s ∈ entries) :
    s ∈ entries' := by
  have hmem : s.id ∈ entries'.map (·.id) := by
    rw [hcounts'.mem_iff, ← hcounts.mem_iff]
    exact List.mem_map_of_mem hs
  obtain ⟨s', hs', hid⟩ := List.mem_map.1 hmem
  have hviews : s'.views = s.views := by
    rw [hcounts'.views_eq s' hs', hcounts.views_eq s hs, hid]
  rwa [← (htells' s' hs').eq (htells s hs) hid hviews]

/-- So the entries are the same but for their order. -/
theorem perm_of_countsEach {d : Dataset} {q : ViewQuery} {entries entries' : List Standing}
    (hcounts : CountsEach (·.viewer) (q.rows d) entries)
    (htells : ∀ s ∈ entries, TellsUser d.tables s)
    (hcounts' : CountsEach (·.viewer) (q.rows d) entries')
    (htells' : ∀ s ∈ entries', TellsUser d.tables s) : entries.Perm entries' := by
  rw [List.perm_ext_iff_of_nodup hcounts.nodup.of_map hcounts'.nodup.of_map]
  exact fun s => ⟨mem_of_countsEach hcounts htells hcounts' htells',
    mem_of_countsEach hcounts' htells' hcounts htells⟩

/-- Where users are told apart, one list of the top users only is possible. -/
theorem IsUserTop.unique {d : Dataset} {q : ViewQuery} (hapart : ToldApart d q)
    {rows rows' : List Row} (h : IsUserTop d q rows) (h' : IsUserTop d q rows') : rows = rows' := by
  obtain ⟨entries, htop, hcounts, htells⟩ := h
  obtain ⟨entries', htop', hcounts', htells'⟩ := h'
  have hperm := perm_of_countsEach hcounts htells hcounts' htells'
  have hentries : entries = entries' := by
    refine hperm.eq_of_pairwise ?_ htop.ordered htop'.ordered
    intro a b ha hb hab hba
    obtain ⟨hviews, hname⟩ := Standing.eq_of_not_above hab hba
    have htellsa := htells a ha
    have htellsb := htells' b hb
    refine htellsa.eq htellsb ?_ hviews
    obtain ⟨u, hu, huid, huname, -⟩ := htellsa
    obtain ⟨w, hw, hwid, hwname, -⟩ := htellsb
    have hcount : viewsBy d q u = viewsBy d q w := by
      rw [viewsBy, viewsBy, huid, hwid, ← hcounts.views_eq a ha, ← hcounts'.views_eq b hb, hviews]
    have husers : u = w := hapart u (Array.mem_toList_iff.1 hu) w (Array.mem_toList_iff.1 hw)
      (by rw [← huname, ← hwname, hname]) hcount
    rw [← huid, ← hwid, husers]
  rw [htop.rows_eq, htop'.rows_eq, hentries]

/-- Entries in order tell of the same names and counts, one by one, as the same
entries in any other order of that kind. -/
theorem map_name_views_eq_of_perm {entries entries' : List Standing}
    (hperm : entries.Perm entries') (hordered : entries.Pairwise fun a b => ¬ b.Above a)
    (hordered' : entries'.Pairwise fun a b => ¬ b.Above a) :
    entries.map (fun s => (s.name, s.views)) = entries'.map fun s => (s.name, s.views) := by
  -- what stands in order is told by names and counts alone
  let InOrder (k k' : String × Nat) : Prop := ¬ (k.2 < k'.2 ∨ k'.2 = k.2 ∧ k'.1 < k.1)
  have hpairs : (entries.map fun s => (s.name, s.views)).Pairwise InOrder :=
    List.pairwise_map.2 hordered
  have hpairs' : (entries'.map fun s => (s.name, s.views)).Pairwise InOrder :=
    List.pairwise_map.2 hordered'
  refine (hperm.map _).eq_of_pairwise (fun k k' hk hk' hle hle' => ?_) hpairs hpairs'
  obtain ⟨a, -, rfl⟩ := List.mem_map.1 hk
  obtain ⟨b, -, rfl⟩ := List.mem_map.1 hk'
  obtain ⟨hviews, hname⟩ := Standing.eq_of_not_above (a := a) (b := b) hle hle'
  rw [hviews, hname]

/-- Whichever list of the top users is told, it has the same names and counts row by
row. -/
theorem IsUserTop.map_cells_unique {d : Dataset} {q : ViewQuery} {rows rows' : List Row}
    (h : IsUserTop d q rows) (h' : IsUserTop d q rows') :
    rows.map (fun row => (row.x, row.z)) = rows'.map fun row => (row.x, row.z) := by
  obtain ⟨entries, htop, hcounts, htells⟩ := h
  obtain ⟨entries', htop', hcounts', htells'⟩ := h'
  have hperm := perm_of_countsEach hcounts htells hcounts' htells'
  have hkeys := map_name_views_eq_of_perm hperm htop.ordered htop'.ordered
  have hcells (entries : List Standing) :
      (entries.map (·.toRow)).map (fun row => (row.x, row.z)) =
        (entries.map fun s => (s.name, s.views)).map fun k => (k.1, Cell.count k.2) := by
    rw [List.map_map, List.map_map]
    rfl
  rw [htop.rows_eq, htop'.rows_eq, hcells, hcells]
  simp only [List.map_take, hkeys, hperm.length_eq]

end Report

/-! ## answers -/

namespace Analytics

open Calendar Report

/-- The views that a ranking is of, before they are filtered. -/
def windowed : Option (Instant × Instant) → ViewQuery
  | some (start, finish) => ViewQuery.everything.between start finish
  | none => .everything

/-- The views that a series is of, before they are filtered. -/
def authored : Option Int → ViewQuery
  | some author => ViewQuery.everything.authoredBy author
  | none => .everything

/-- What may be answered when the top users are asked for. -/
def IsUserAnswer (d : Dataset) (window : Option (Instant × Instant)) (tree : Option Json)
    (answer : Except AnalyticsError (List Row)) : Prop :=
  match narrowed (windowed window) tree with
  | .error e => answer = .error e
  | .ok q => ∃ rows, answer = .ok rows ∧ IsUserTop d q rows

theorem topRows_eq_bind (d : Dataset) (dimension : TopDimension)
    (window : Option (Instant × Instant)) (tree : Option Json) :
    topRows d dimension window tree =
      (narrowed (windowed window) tree).bind fun q =>
        (Report.top d q dimension).mapError .missingRow := by
  cases window <;> rfl

theorem performanceSeries_eq_bind (d : Dataset) (g : Granularity) (author : Option Int)
    (tree : Option Json) (baseline : Baseline) :
    performanceSeries d g author tree baseline =
      (narrowed (authored author) tree).bind fun q =>
        (Report.series d q (d.tables.blogs.toList.filter fun b => author.all (b.author == ·)) g
          baseline).mapError .period := by
  cases author <;> rfl

theorem isUserAnswer_topRows (d : Dataset) (window : Option (Instant × Instant))
    (tree : Option Json) : IsUserAnswer d window tree (topRows d .user window tree) := by
  rw [topRows_eq_bind, IsUserAnswer]
  cases narrowed (windowed window) tree with
  | error e => rfl
  | ok q =>
      obtain ⟨rows, hrows, htop⟩ := exists_isUserTop d q
      exact ⟨rows, by rw [Except.bind, hrows]; rfl, htop⟩

section
variable {d d' : Dataset} (h : d.tables.Perm d'.tables)
include h

theorem IsUserAnswer.unique {window : Option (Instant × Instant)} {tree : Option Json}
    (hapart : ∀ q, narrowed (windowed window) tree = .ok q → ToldApart d q)
    {answer answer' : Except AnalyticsError (List Row)}
    (ha : IsUserAnswer d window tree answer) (ha' : IsUserAnswer d' window tree answer') :
    answer = answer' := by
  unfold IsUserAnswer at ha ha'
  cases hq : narrowed (windowed window) tree with
  | error e =>
      simp only [hq] at ha ha'
      rw [ha, ha']
  | ok q =>
      simp only [hq] at ha ha'
      obtain ⟨rows, rfl, htop⟩ := ha
      obtain ⟨rows', rfl, htop'⟩ := ha'
      rw [htop.unique (hapart q hq) (htop'.of_perm h)]

theorem groupedCounts_eq_of_perm (dimension : GroupDimension) (start finish : Instant)
    (tree : Option Json) :
    groupedCounts d dimension start finish tree = groupedCounts d' dimension start finish tree := by
  simp only [groupedCounts, Report.groupedCounts_eq_of_perm h]

theorem topRows_eq_of_perm (dimension : TopDimension) (window : Option (Instant × Instant))
    (tree : Option Json) :
    topRows d dimension window tree = topRows d' dimension window tree := by
  simp only [topRows_eq_bind, Report.top_eq_of_perm h]

theorem toOption_performanceSeries_of_perm (g : Granularity) (author : Option Int)
    (tree : Option Json) (baseline : Baseline) :
    (performanceSeries d g author tree baseline).toOption =
      (performanceSeries d' g author tree baseline).toOption := by
  rw [performanceSeries_eq_bind, performanceSeries_eq_bind]
  cases narrowed (authored author) tree with
  | error e => rfl
  | ok q =>
      simp only [Except.bind, toOption_mapError]
      exact toOption_series_of_perm h q (h.blogs.toList.filter _)

end

/-- **The order of storage does not matter**: tables whose rows stand in another
order make a dataset as well, and it answers as the first one does.  A series
has the same rows or is refused on both.  Users that rank the same may be told
in any order, so the answers about the top users agree where users differ in
their names or in their numbers of selected views. -/
theorem answers_of_perm {t t' : Tables} (h : t.Perm t') {d : Dataset}
    (hd : Dataset.ofTables t = .ok d) :
    ∃ d', Dataset.ofTables t' = .ok d' ∧
      (∀ dimension start finish tree, groupedCounts d dimension start finish tree =
        groupedCounts d' dimension start finish tree) ∧
      (∀ dimension ∈ [TopDimension.country, .blog], ∀ window tree,
        topRows d dimension window tree = topRows d' dimension window tree) ∧
      (∀ g author tree baseline, (performanceSeries d g author tree baseline).toOption =
        (performanceSeries d' g author tree baseline).toOption) ∧
      ∀ window tree,
        IsUserAnswer d window tree (topRows d .user window tree) ∧
        IsUserAnswer d' window tree (topRows d' .user window tree) ∧
        ((∀ q, narrowed (windowed window) tree = .ok q → ToldApart d q) →
          ∀ answer answer', IsUserAnswer d window tree answer →
            IsUserAnswer d' window tree answer' → answer = answer') := by
  obtain ⟨d', hd'⟩ := Dataset.ofTables_eq_ok_iff.2
    (h.consistent (Dataset.ofTables_eq_ok_iff.1 ⟨d, hd⟩))
  have hperm : d.tables.Perm d'.tables := by
    rw [Dataset.tables_of_ofTables hd, Dataset.tables_of_ofTables hd']
    exact h
  refine ⟨d', hd', groupedCounts_eq_of_perm hperm,
    fun dimension _ => topRows_eq_of_perm hperm dimension,
    toOption_performanceSeries_of_perm hperm, fun window tree => ?_⟩
  exact ⟨isUserAnswer_topRows d window tree, isUserAnswer_topRows d' window tree,
    fun hapart _ _ => IsUserAnswer.unique hperm hapart⟩

/-- Two views of one blog, stored the other way round.  There is one user, whom
no other has the name of. -/
theorem answers_of_perm_sample :
    let turned := { Tables.sample with views := Tables.sample.views.reverse }
    Tables.sample.Perm turned ∧ ∃ d d', Dataset.ofTables .sample = .ok d ∧
      Dataset.ofTables turned = .ok d' ∧
      topRows d .blog none none = topRows d' .blog none none ∧
      ∀ answer, IsUserAnswer d' none none answer → topRows d .user none none = answer := by
  intro turned
  have hviews : turned.views.toList = Tables.sample.views.toList.reverse := Array.toList_reverse
  have hperm : Tables.sample.Perm turned := by
    refine ⟨.refl _, .refl _, .refl _, Array.perm_iff_toList_perm.2 ?_⟩
    rw [hviews]
    exact (List.reverse_perm _).symm
  obtain ⟨d, hd⟩ := Dataset.exists_ofTables Tables.sound_sample
  obtain ⟨d', hd', -, htop, -, husers⟩ := answers_of_perm hperm hd
  obtain ⟨hanswer, -, hunique⟩ := husers none none
  have hapart (q : ViewQuery) : ToldApart d q := by
    intro u hu w hw _ _
    rw [Dataset.tables_of_ofTables hd] at hu hw
    rw [Array.mem_singleton.1 hu, Array.mem_singleton.1 hw]
  exact ⟨hperm, d, d', hd, hd', htop .blog (by decide) none none,
    fun answer h => hunique (fun q _ => hapart q) _ answer hanswer h⟩

end Analytics

end Readership
