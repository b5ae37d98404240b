import Readership.Proofs.Grouping
import Readership.Proofs.Reading
import Readership.Proofs.References
import Readership.Proofs.Selection
import Readership.Proofs.Standings

/-!
# Readership.Proofs.Top

What the rankings of blogs and users hold.

* `CountsEach` -- there is one entry for each id that the views hold, with the
  number of views that hold it;
* `TellsBlog`, `TellsUser` -- an entry tells of the row with its id;
* `IsTop` -- the rows are the first ten of all entries, which are in order, so
  that nothing is left out that comes before a row.

The rows that entries are made of are all found (`blogStanding_eq_ok`,
`userStanding_eq_ok`).
-/

namespace Readership.Report

/-! ## entries -/

/-- What it means that entries count the views of each key that a view has. -/
structure CountsEach (key : View → Option Int) (views : List View)
    (entries : List Standing) : Prop where
  nodup : (entries.map (·.id)).Nodup
  mem_iff : ∀ id, id ∈ entries.map (·.id) ↔ ∃ v ∈ views, key v = some id
  views_eq : ∀ s ∈ entries, s.views = views.countP (key · = some s.id)

/-- What it means that an entry tells of a blog and its author. -/
def TellsBlog (t : Tables) (s : Standing) : Prop :=
  ∃ b ∈ t.blogs.toList, ∃ u ∈ t.users.toList, b.id = s.id ∧ u.id = b.author ∧
    s.name = b.title ∧ s.note = .label u.username

/-- What it means that an entry tells of a user and the user's own country. -/
def TellsUser (t : Tables) (s : Standing) : Prop :=
  ∃ u ∈ t.users.toList, u.id = s.id ∧ s.name = u.username ∧
    ((u.country = none ∧ s.note = .label "Unknown") ∨
      ∃ c ∈ t.countries.toList, u.country = some c.id ∧ s.note = .label c.name)

namespace CountsEach

variable {key : View → Option Int} {views : List View} {entries entries' : List Standing}

theorem perm (h : entries'.Perm entries) (c : CountsEach key views entries) :
    CountsEach key views entries' where
  nodup := (h.map _).nodup_iff.2 c.nodup
  mem_iff id := by rw [(h.map _).mem_iff, c.mem_iff]
  views_eq s hs := c.views_eq s (h.mem_iff.1 hs)

/-- Every view that has a key is counted in one entry. -/
theorem sum_views (c : CountsEach key views entries) :
    (entries.map (·.views)).sum = views.countP fun v => (key v).isSome := by
  have hcounts : entries.map (·.views) =
      (entries.map (·.id)).map fun id => views.countP (key · = some id) := by
    rw [List.map_map]
    exact List.map_congr_left c.views_eq
  rw [hcounts]
  exact sum_map_countP_isSome key c.nodup fun v hv id hid => (c.mem_iff id).2 ⟨v, hv, hid⟩

end CountsEach

/-- Entries are made one by one, where each can be made. -/
theorem exists_mapM_eq_ok {entry : Int → Except MissingRow Standing} {Good : Standing → Prop}
    {ids : List Int} (h : ∀ id ∈ ids, ∃ s, entry id = .ok s ∧ s.id = id ∧ Good s) :
    ∃ entries, ids.mapM entry = .ok entries ∧ entries.map (·.id) = ids ∧
      ∀ s ∈ entries, Good s := by
  induction ids with
  | nil => exact ⟨[], rfl, rfl, by simp⟩
  | cons id ids ih =>
      rw [List.forall_mem_cons] at h
      obtain ⟨s, hs, hid, hgood⟩ := h.1
      obtain ⟨entries, hentries, hids, hall⟩ := ih h.2
      refine ⟨s :: entries, ?_, by rw [List.map_cons, hid, hids], ?_⟩
      · rw [List.mapM_cons, hs, hentries]
        rfl
      · exact List.forall_mem_cons.2 ⟨hgood, hall⟩

/-- Views are counted by the ids they hold, if an entry can be made for each of
these. -/
theorem exists_standings (key : View → Option Int) (entry : Int → Nat → Except MissingRow Standing)
    (Tells : Standing → Prop) {views : List View}
    (h : ∀ v ∈ views, ∀ id, key v = some id →
      ∀ n, ∃ s, entry id n = .ok s ∧ s.id = id ∧ s.views = n ∧ Tells s) :
    ∃ entries, standings key entry views = .ok entries ∧ CountsEach key views entries ∧
      ∀ s ∈ entries, Tells s := by
  have hentry : ∀ id ∈ (groupBy key views).keys,
      ∃ s, entry id (views.filter (key · = some id)).length = .ok s ∧ s.id = id ∧
        (s.views = views.countP (key · = some s.id) ∧ Tells s) := by
    intro id hid
    obtain ⟨v, hv, hkey⟩ := (mem_keys_groupBy key views id).1 hid
    obtain ⟨s, hs, rfl, hviews, htells⟩ := h v hv id hkey (views.filter (key · = some id)).length
    exact ⟨s, hs, rfl, by rw [hviews, List.countP_eq_length_filter], htells⟩
  obtain ⟨entries, hentries, hids, hall⟩ := exists_mapM_eq_ok hentry
  refine ⟨entries, ?_, ⟨?_, ?_, fun s hs => (hall s hs).1⟩, fun s hs => (hall s hs).2⟩
  · rw [standings, toList_groupBy, List.mapM_map]
    exact hentries
  · rw [hids]
    exact Std.TreeMap.nodup_keys
  · intro id
    rw [hids, mem_keys_groupBy]

/-! ## rows behind entries -/

theorem blogStanding_eq_ok {d : Dataset} {id : Int} (h : id ∈ d.tables.ids .blog) (n : Nat) :
    ∃ s, blogStanding d id n = .ok s ∧ s.id = id ∧ s.views = n ∧ TellsBlog d.tables s := by
  obtain ⟨b, hb⟩ := d.looksUp_blog.exists_of_mem h
  obtain ⟨hmem, hid⟩ := d.looksUp_blog.eq_some_iff.1 hb
  obtain ⟨u, hu⟩ := d.looksUp_user.exists_of_mem (Dataset.mem_ids_of_blog hmem)
  obtain ⟨humem, hauthor⟩ := d.looksUp_user.eq_some_iff.1 hu
  have hs : blogStanding d id n = .ok ⟨b.title, id, .label u.username, n⟩ := by
    simp only [blogStanding, username, hb, hu, found, bind, Except.bind]
    rfl
  exact ⟨_, hs, rfl, rfl, b, hmem, u, humem, hid, hauthor, rfl, rfl⟩

theorem countryOf_eq_ok {d : Dataset} {u : User} (hu : u ∈ d.tables.users.toList) :
    ∃ x, countryOf d u = .ok x ∧ ((u.country = none ∧ x = "Unknown") ∨
      ∃ c ∈ d.tables.countries.toList, u.country = some c.id ∧ x = c.name) := by
  cases hcountry : u.country with
  | none => exact ⟨"Unknown", by rw [countryOf, hcountry]; rfl, .inl ⟨rfl, rfl⟩⟩
  | some id =>
      obtain ⟨c, hc⟩ := d.looksUp_country.exists_of_mem (Dataset.mem_ids_of_user hu hcountry)
      obtain ⟨hmem, rfl⟩ := d.looksUp_country.eq_some_iff.1 hc
      exact ⟨c.name, by simp only [countryOf, hcountry, countryName, hc]; rfl,
        .inr ⟨c, hmem, rfl, rfl⟩⟩

theorem userStanding_eq_ok {d : Dataset} {id : Int} (h : id ∈ d.tables.ids .user) (n : Nat) :
    ∃ s, userStanding d id n = .ok s ∧ s.id = id ∧ s.views = n ∧ TellsUser d.tables s := by
  obtain ⟨u, hu⟩ := d.looksUp_user.exists_of_mem h
  obtain ⟨hmem, hid⟩ := d.looksUp_user.eq_some_iff.1 hu
  obtain ⟨x, hx, hcountry⟩ := countryOf_eq_ok hmem
  have hs : userStanding d id n = .ok ⟨u.username, id, .label x, n⟩ := by
    simp only [userStanding, hu, hx, found, bind, Except.bind]
    rfl
  refine ⟨_, hs, rfl, rfl, u, hmem, hid, rfl, ?_⟩
  rcases hcountry with ⟨hnone, rfl⟩ | ⟨c, hc, hsome, rfl⟩
  · exact .inl ⟨hnone, rfl⟩
  · exact .inr ⟨c, hc, hsome, rfl⟩

/-! ## the first rows -/

/-- What it means that rows are the first ten of some entries in an order. -/
structure IsTop (InOrder : Standing → Standing → Prop) (entries : List Standing)
    (rows : List Row) : Prop where
  ordered : entries.Pairwise InOrder
  rows_eq : rows = (entries.take (min 10 entries.length)).map (·.toRow)
  length_le : rows.length ≤ 10
  views_ge : (rows.filterMap (·.views?)).Pairwise (· ≥ ·)
  omitted : ∀ a ∈ entries.take 10, ∀ b ∈ entries.drop 10, InOrder a b

theorem isTop_take {InOrder : Standing → Standing → Prop} {entries : List Standing}
    (hordered : entries.Pairwise InOrder) (hviews : ∀ a b, InOrder a b → b.views ≤ a.views) :
    IsTop InOrder entries ((entries.map (·.toRow)).take topLimit) where
  ordered := hordered
  rows_eq := by
    rw [← List.map_take, List.take_eq_take_iff.2]
    simp [topLimit]
  length_le := List.length_take_le _ _
  views_ge := by
    rw [← List.map_take, List.filterMap_map]
    have hcells : (fun r : Row => r.views?) ∘ Standing.toRow = fun s => some (s.views : Int) := rfl
    rw [hcells, List.filterMap_eq_map', List.pairwise_map]
    exact (hordered.sublist (List.take_sublist _ _)).imp fun h => Int.ofNat_le.2 (hviews _ _ h)
  omitted := by
    rw [← List.take_append_drop 10 entries, List.pairwise_append] at hordered
    exact hordered.2.2

/-- **The top blogs and users**: there is an answer for every selection of
views of a dataset, and it holds the first ten of all blogs with a selected
view, or of all users with one.  Anonymous views count for no user. -/
theorem top_blog_and_top_user (d : Dataset) (q : ViewQuery) :
    (∃ entries rows, top d q .blog = .ok rows ∧ IsTop Standing.Before entries rows ∧
      CountsEach (fun v => some v.blog) (q.rows d) entries ∧
      ∀ s ∈ entries, TellsBlog d.tables s) ∧
    (∃ entries rows, top d q .user = .ok rows ∧ IsTop (fun a b => ¬ b.Above a) entries rows ∧
      CountsEach (·.viewer) (q.rows d) entries ∧
      (entries.map (·.views)).sum = (q.rows d).countP (·.viewer.isSome) ∧
      ∀ s ∈ entries, TellsUser d.tables s) := by
  have hviews : ∀ v ∈ q.rows d, v ∈ d.tables.views.toList := fun _ =>
    ViewQuery.mem_views_of_mem_rows
  constructor
  · obtain ⟨entries, hentries, hcounts, htells⟩ := exists_standings
      (fun v => some v.blog) (blogStanding d) (TellsBlog d.tables)
      fun v hv id hid => blogStanding_eq_ok
        (Option.some.inj hid ▸ (Dataset.mem_ids_of_view (hviews v hv)).1)
    refine ⟨rank entries, _, ?_, isTop_take (pairwise_before_rank hcounts.nodup) ?_,
      hcounts.perm (rank_perm entries), fun s hs => htells s ((rank_perm entries).mem_iff.1 hs)⟩
    · rw [top, ranking, hentries]
      rfl
    · rintro a b (h | ⟨h, -⟩)
      · exact Standing.views_le_of_not_above (Standing.not_above_of_above h)
      · exact Nat.le_of_eq h.symm
  · obtain ⟨entries, hentries, hcounts, htells⟩ := exists_standings
      (·.viewer) (userStanding d) (TellsUser d.tables)
      fun v hv id hid => userStanding_eq_ok ((Dataset.mem_ids_of_view (hviews v hv)).2.1 id hid)
    refine ⟨rank entries, _, ?_, isTop_take (pairwise_not_above_rank entries) ?_,
      hcounts.perm (rank_perm entries), (hcounts.perm (rank_perm entries)).sum_views,
      fun s hs => htells s ((rank_perm entries).mem_iff.1 hs)⟩
    · rw [top, ranking, hentries]
      rfl
    · exact fun a b => Standing.views_le_of_not_above

end Readership.Report
