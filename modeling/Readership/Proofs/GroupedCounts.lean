import Mathlib.Algebra.BigOperators.Ring.Finset
import Readership.Proofs.Grouping
import Readership.Proofs.Reading
import Readership.Proofs.References
import Readership.Proofs.Selection
import Readership.Proofs.Standings

/-!
# Readership.Proofs.GroupedCounts

What the counts of views by name hold.

Views are counted under the name of their own country, or under that of their
viewer, whatever the id behind the name is; `IsGrouped` says how:

1. there is a row for each name of a view, and one only;
2. it counts the views under the name, and the different blogs they are of;
3. more views come first, and as many in the order of the names.

All names are found, since the keys of views lead to rows (`namedViews_eq`).
-/

namespace Readership.Report

/-! ## counts -/

/-- The name that a view is counted under, found by a search of the tables. -/
def nameIn (t : Tables) (dimension : GroupDimension) (v : View) : Option String :=
  match dimension with
  | .country => v.country.bind fun id => (t.countries.toList.find? (·.id = id)).map (·.name)
  | .user => v.viewer.bind fun id => (t.users.toList.find? (·.id = id)).map (·.username)

/-- The number of views under a name. -/
def viewsUnder (name : View → Option String) (views : List View) (x : String) : Nat :=
  views.countP (name · = some x)

/-- The number of different blogs that the views under a name are of. -/
def blogsUnder (name : View → Option String) (views : List View) (x : String) : Nat :=
  ((views.filter (name · = some x)).map (·.blog)).dedup.length

/-- What it means that rows are the counts of some views by name, the `i`-th
row that of the `i`-th name. -/
structure IsGrouped (name : View → Option String) (views : List View) (names : List String)
    (rows : List Row) : Prop where
  mem_iff : ∀ x, x ∈ names ↔ ∃ v ∈ views, name v = some x
  ordered : names.Pairwise fun x y => viewsUnder name views y < viewsUnder name views x ∨
    viewsUnder name views x = viewsUnder name views y ∧ x < y
  rows_eq : rows = names.map fun x =>
    ⟨x, .count (blogsUnder name views x), .count (viewsUnder name views x)⟩

/-- The views that have a name, each with its own. -/
def named (name : View → Option String) (views : List View) : List (String × View) :=
  views.filterMap fun v => (name v).map (·, v)

/-! ## names -/

/-- The name behind an id is that of the row that a search of the table stops
at. -/
theorem found_eq_ok {α : Type} {lookup : Int → Option α} {table : Array α} {idOf : α → Int}
    (h : LooksUp lookup table idOf) {id : Int} (hid : id ∈ table.toList.map idOf) (e : Entity)
    (name : α → String) :
    ∃ x, (found e id (lookup id)).map name = .ok x ∧
      (table.toList.find? (idOf · = id)).map name = some x := by
  obtain ⟨row, hrow⟩ := h.exists_of_mem hid
  refine ⟨name row, ?_, ?_⟩
  · rw [hrow]
    rfl
  · rw [← h.eq_find?, hrow]
    rfl

section
variable {d : Dataset} {dimension : GroupDimension}

theorem nameIn_eq_none {v : View} (h : groupKey dimension v = none) :
    nameIn d.tables dimension v = none := by
  cases dimension with
  | country => rw [nameIn, show v.country = none from h, Option.bind_none]
  | user => rw [nameIn, show v.viewer = none from h, Option.bind_none]

/-- A view of the dataset that has a key has a name. -/
theorem groupName_eq_ok {v : View} (hv : v ∈ d.tables.views.toList) {id : Int}
    (h : groupKey dimension v = some id) :
    ∃ x, groupName d dimension id = .ok x ∧ nameIn d.tables dimension v = some x := by
  obtain ⟨-, hviewer, hcountry⟩ := Dataset.mem_ids_of_view hv
  cases dimension with
  | country =>
      obtain ⟨x, hx, hname⟩ := found_eq_ok d.looksUp_country (hcountry id h) .country (·.name)
      exact ⟨x, hx, by rw [nameIn, show v.country = some id from h, Option.bind_some, hname]⟩
  | user =>
      obtain ⟨x, hx, hname⟩ := found_eq_ok d.looksUp_user (hviewer id h) .user (·.username)
      exact ⟨x, hx, by rw [nameIn, show v.viewer = some id from h, Option.bind_some, hname]⟩

theorem isSome_nameIn {v : View} (hv : v ∈ d.tables.views.toList) :
    (nameIn d.tables dimension v).isSome = (groupKey dimension v).isSome := by
  cases hkey : groupKey dimension v with
  | none =>
      rw [nameIn_eq_none hkey]
      rfl
  | some id =>
      obtain ⟨x, -, hname⟩ := groupName_eq_ok hv hkey
      rw [hname]
      rfl

/-- Every view that has a key is counted under its name. -/
theorem namedViews_eq {views : List View} (h : ∀ v ∈ views, v ∈ d.tables.views.toList) :
    namedViews d dimension views = .ok (named (nameIn d.tables dimension) views) := by
  induction views with
  | nil => rfl
  | cons v views ih =>
      rw [List.forall_mem_cons] at h
      cases hkey : groupKey dimension v with
      | none => simp [namedViews, named, hkey, nameIn_eq_none hkey, ih h.2]
      | some id =>
          obtain ⟨x, hx, hname⟩ := groupName_eq_ok h.1 hkey
          simp [namedViews, named, hkey, hx, hname, ih h.2, Except.map]

end

/-! ## groups -/

section
variable (name : View → Option String) (views : List View)

/-- The entry of a name. -/
def standingOf (x : String) : Standing :=
  ⟨x, 0, .count (blogsUnder name views x), viewsUnder name views x⟩

/-- The group of a name holds the views under it. -/
theorem map_filter_named (x : String) :
    ((named name views).filter fun n => some n.1 = some x).map (·.2) =
      views.filter (name · = some x) := by
  induction views with
  | nil => rfl
  | cons v views ih =>
      rw [named] at ih ⊢
      cases hname : name v with
      | none => simpa [hname] using ih
      | some y => by_cases hy : y = x <;> simpa [hname, hy] using ih

theorem blogCount_filter (x : String) :
    blogCount (views.filter (name · = some x)) = blogsUnder name views x := by
  rw [blogCount, size_groupBy, List.filterMap_eq_map']
  rfl

theorem nameStanding_filter (x : String) :
    nameStanding x (views.filter (name · = some x)) = standingOf name views x := by
  rw [nameStanding, blogCount_filter, ← List.countP_eq_length_filter]
  rfl

/-- Grouped by name, the views have an entry for each name. -/
theorem map_toList_groupBy_named :
    ((groupBy (fun n => some n.1) (named name views)).toList.map fun (x, group) =>
        nameStanding x (group.map (·.2))) =
      (groupBy (fun n => some n.1) (named name views)).keys.map (standingOf name views) := by
  rw [toList_groupBy, List.map_map]
  apply List.map_congr_left
  intro x _
  rw [← nameStanding_filter, ← map_filter_named]
  rfl

theorem mem_keys_groupBy_named (x : String) :
    x ∈ (groupBy (fun n => some n.1) (named name views)).keys ↔ ∃ v ∈ views, name v = some x := by
  rw [mem_keys_groupBy]
  simp [named]

variable {name views}

/-- Entries of different names, once they are ranked. -/
theorem isGrouped_ranked {keys : List String} (hnodup : keys.Nodup)
    (hmem : ∀ x, x ∈ keys ↔ ∃ v ∈ views, name v = some x) {entries : List Standing}
    (hentries : entries = keys.map (standingOf name views)) :
    ∃ names, IsGrouped name views names (ranked entries) := by
  have hkeys : entries.map (·.name) = keys := by
    rw [hentries, List.map_map]
    exact List.map_id' keys
  have hnames : ((rank entries).map (·.name)).Perm keys := hkeys ▸ (rank_perm entries).map _
  -- an entry is told by its name
  have hself : ∀ s ∈ rank entries, standingOf name views s.name = s := by
    intro s hs
    rw [(rank_perm entries).mem_iff, hentries] at hs
    obtain ⟨x, -, rfl⟩ := List.mem_map.1 hs
    rfl
  have hrank : ((rank entries).map (·.name)).map (standingOf name views) = rank entries := by
    rw [List.map_map]
    exact (List.map_congr_left hself).trans (List.map_id' _)
  refine ⟨(rank entries).map (·.name), ?_, ?_, ?_⟩
  · intro x
    rw [hnames.mem_iff, hmem]
  · have habove := pairwise_above_rank (hkeys.symm ▸ hnodup)
    rw [← hrank, List.pairwise_map] at habove
    exact habove
  · rw [ranked, ← hrank, List.map_map, hrank]
    rfl

end

/-- There are grouped counts of every selection of views of a dataset. -/
theorem exists_isGrouped (d : Dataset) (q : ViewQuery) (dimension : GroupDimension) :
    ∃ names rows, groupedCounts d q dimension = .ok rows ∧
      IsGrouped (nameIn d.tables dimension) (q.rows d) names rows := by
  have hviews : ∀ v ∈ q.rows d, v ∈ d.tables.views.toList := fun _ =>
    ViewQuery.mem_views_of_mem_rows
  obtain ⟨names, hgrouped⟩ := isGrouped_ranked Std.TreeMap.nodup_keys
    (mem_keys_groupBy_named (nameIn d.tables dimension) (q.rows d))
    (map_toList_groupBy_named _ _)
  exact ⟨names, _, by rw [groupedCounts, namedViews_eq hviews]; rfl, hgrouped⟩

/-! ## what the counts add up to -/

namespace IsGrouped

variable {name : View → Option String} {views : List View} {names : List String} {rows : List Row}

theorem nodup (g : IsGrouped name views names rows) : names.Nodup := by
  apply g.ordered.imp
  rintro x y h rfl
  rcases h with h | ⟨-, h⟩
  · exact Nat.lt_irrefl _ h
  · exact String.lt_irrefl _ h

theorem map_x (g : IsGrouped name views names rows) : rows.map (·.x) = names := by
  rw [g.rows_eq, List.map_map]
  exact List.map_id' names

/-- Every view that has a name is counted in one row. -/
theorem sum_views? (g : IsGrouped name views names rows) :
    (rows.filterMap (·.views?)).sum = views.countP fun v => (name v).isSome := by
  have hcells : rows.filterMap (·.views?) = (names.map (viewsUnder name views)).map Nat.cast := by
    rw [g.rows_eq, List.filterMap_map, List.map_map]
    exact congrFun List.filterMap_eq_map _
  rw [hcells, ← Nat.cast_list_sum]
  congr 1
  exact sum_map_countP_isSome name g.nodup fun v hv x hx => (g.mem_iff x).2 ⟨v, hv, hx⟩

/-- No row is there for nothing, and its views are of as many blogs at most. -/
theorem one_le_blogsUnder (g : IsGrouped name views names rows) {x : String} (hx : x ∈ names) :
    1 ≤ blogsUnder name views x ∧ blogsUnder name views x ≤ viewsUnder name views x := by
  constructor
  · obtain ⟨v, hv, hname⟩ := (g.mem_iff x).1 hx
    apply List.length_pos_of_mem (a := v.blog)
    rw [List.mem_dedup]
    exact List.mem_map_of_mem (List.mem_filter.2 ⟨hv, by simpa using hname⟩)
  · rw [viewsUnder, List.countP_eq_length_filter, ← List.length_map (·.blog)]
    exact (List.dedup_sublist _).length_le

end IsGrouped

/-- **The rows of grouped counts**: there is an answer for every selection of
views of a dataset, and its rows are those of the names of the selected views,
each once, more views first; they account for every view that has the key. -/
theorem groupedCounts_isGrouped (d : Dataset) (q : ViewQuery) (dimension : GroupDimension) :
    ∃ names rows, groupedCounts d q dimension = .ok rows ∧
      IsGrouped (nameIn d.tables dimension) (q.rows d) names rows ∧
      (rows.map (·.x)).Nodup ∧
      (∀ x ∈ names, 1 ≤ blogsUnder (nameIn d.tables dimension) (q.rows d) x ∧
        blogsUnder (nameIn d.tables dimension) (q.rows d) x ≤
          viewsUnder (nameIn d.tables dimension) (q.rows d) x) ∧
      (rows.filterMap (·.views?)).sum =
        (q.rows d).countP fun v => (groupKey dimension v).isSome := by
  have hviews : ∀ v ∈ q.rows d, v ∈ d.tables.views.toList := fun _ =>
    ViewQuery.mem_views_of_mem_rows
  obtain ⟨names, hgrouped⟩ := isGrouped_ranked Std.TreeMap.nodup_keys
    (mem_keys_groupBy_named (nameIn d.tables dimension) (q.rows d))
    (map_toList_groupBy_named _ _)
  have hkeys : ((q.rows d).countP fun v => (nameIn d.tables dimension v).isSome) =
      (q.rows d).countP fun v => (groupKey dimension v).isSome := by
    apply List.countP_congr
    intro v hv
    rw [isSome_nameIn (hviews v hv)]
  refine ⟨names, _, ?_, hgrouped, ?_, fun x hx => hgrouped.one_le_blogsUnder hx, ?_⟩
  · rw [groupedCounts, namedViews_eq hviews]
    rfl
  · rw [hgrouped.map_x]
    exact hgrouped.nodup
  · rw [hgrouped.sum_views?, hkeys]

end Readership.Report
