import Mathlib.Data.List.Nodup
import Mathlib.Data.List.Perm.Basic
import Readership.Proofs.FirstViolation
import Readership.Proofs.References
import Readership.Proofs.Relations
import Readership.Proofs.Selection

/-!
# Readership.Proofs.Rearrangement

Tables that hold the same rows in another order.

After a rearrangement (`Tables.Perm`) a position belongs to another row, and
what a relation leads to comes in another order.  What is read from a row stays
what it is, so a row is told here by that alone, a value for each column:

* `map_read_reach` -- what is read at the end of a chain depends on what is read
  at its start, and not on positions;
* `values_perm` -- so rows that read the same lead to the same values, in some
  order;
* `holds_congr` -- filters ask for one value that passes, and hold of both rows
  or of neither;
* `rows_perm` -- so selections hold the same views, in some order.

Ids lead to the same rows as before (`LooksUp.eq_of_perm`).
-/

namespace Readership

namespace Tables

/-- Whether two sets of tables hold the same rows, each table in its own
order. -/
structure Perm (t t' : Tables) : Prop where
  countries : t.countries.Perm t'.countries
  users : t.users.Perm t'.users
  blogs : t.blogs.Perm t'.blogs
  views : t.views.Perm t'.views

variable {t t' : Tables}

theorem Perm.symm (h : t.Perm t') : t'.Perm t where
  countries := h.countries.symm
  users := h.users.symm
  blogs := h.blogs.symm
  views := h.views.symm

/-- What is asked of tables does not depend on the order of their rows. -/
theorem Perm.consistent (h : t.Perm t') (hc : t.Consistent) : t'.Consistent := by
  have hexists {α : Type} {xs ys : Array α} (hperm : xs.Perm ys) {idOf : α → Int} {id : Int}
      (hid : ∃ x ∈ xs, idOf x = id) : ∃ y ∈ ys, idOf y = id := by
    obtain ⟨x, hmem, rfl⟩ := hid
    exact ⟨x, hperm.mem_iff.1 hmem, rfl⟩
  constructor
  case nodup_countries => exact (h.countries.toList.map _).nodup_iff.1 hc.nodup_countries
  case nodup_users => exact (h.users.toList.map _).nodup_iff.1 hc.nodup_users
  case nodup_blogs => exact (h.blogs.toList.map _).nodup_iff.1 hc.nodup_blogs
  case nodup_views => exact (h.views.toList.map _).nodup_iff.1 hc.nodup_views
  case user_country =>
    exact fun u hu id hid => hexists h.countries (hc.user_country u (h.users.mem_iff.2 hu) id hid)
  case blog_author => exact fun b hb => hexists h.users (hc.blog_author b (h.blogs.mem_iff.2 hb))
  case blog_country =>
    exact fun b hb id hid => hexists h.countries (hc.blog_country b (h.blogs.mem_iff.2 hb) id hid)
  case view_blog => exact fun v hv => hexists h.blogs (hc.view_blog v (h.views.mem_iff.2 hv))
  case view_viewer =>
    exact fun v hv id hid => hexists h.users (hc.view_viewer v (h.views.mem_iff.2 hv) id hid)
  case view_country =>
    exact fun v hv id hid => hexists h.countries (hc.view_country v (h.views.mem_iff.2 hv) id hid)

/-! ## what is read from rows -/

/-- What is read from the rows of a table, row by row. -/
def contents (t : Tables) (e : Entity) : List (Column → Value) := (t.rows e).map t.read

/-- Reading at every position of a table reads every row. -/
theorem map_range_read {α : Type} (xs : Array α) (read : α → Column → Value) :
    ((List.range xs.size).map fun i c => xs[i]?.elim .null (read · c)) = xs.toList.map read := by
  apply List.ext_getElem
  · simp
  · intro i hi hi'
    have hlt : i < xs.size := by simpa using hi
    simp [hlt]

theorem Perm.contents (h : t.Perm t') (e : Entity) : (t.contents e).Perm (t'.contents e) := by
  have hread {α : Type} {xs ys : Array α} (hperm : xs.Perm ys) (read : α → Column → Value) :
      ((List.range xs.size).map fun i c => xs[i]?.elim .null (read · c)).Perm
        ((List.range ys.size).map fun i c => ys[i]?.elim .null (read · c)) := by
    rw [map_range_read, map_range_read]
    exact hperm.toList.map read
  rw [Tables.contents, Tables.contents, rows, rows, List.map_map, List.map_map]
  cases e with
  | country => exact hread h.countries Country.read
  | user => exact hread h.users User.read
  | blog => exact hread h.blogs Blog.read
  | view => exact hread h.views View.read

/-- What is read from the rows that a relation leads to, given what is read
from the row that it starts at. -/
def contentsHop (t : Tables) (r : Relation) (e : Entity) (x : Column → Value) :
    List (Column → Value) :=
  match e.join? r with
  | none => []
  | some (own, other) =>
    match (x own).integer? with
    | none => []
    | some key => (t.contents r.target).filter fun y => (y other).integer? = some key

/-- What is read from the rows at the end of a chain of relations, given what
is read from the row that it starts at. -/
def contentsReach (t : Tables) : List Relation → Entity → (Column → Value) → List (Column → Value)
  | [], _, x => [x]
  | r :: rest, e, x => (t.contentsHop r e x).flatMap (t.contentsReach rest r.target)

theorem Perm.contentsHop (h : t.Perm t') (r : Relation) (e : Entity) (x : Column → Value) :
    (t.contentsHop r e x).Perm (t'.contentsHop r e x) := by
  unfold Tables.contentsHop
  split
  · exact List.Perm.refl _
  · split
    · exact List.Perm.refl _
    · exact (h.contents r.target).filter _

theorem Perm.contentsReach (h : t.Perm t') (hops : List Relation) (e : Entity)
    (x : Column → Value) : (t.contentsReach hops e x).Perm (t'.contentsReach hops e x) := by
  induction hops generalizing e x with
  | nil => exact List.Perm.refl _
  | cons r rest ih => exact (h.contentsHop r e x).flatMap fun y _ => ih r.target y

end Tables

namespace Dataset

theorem map_read_follow (d : Dataset) (row : RowRef) (r : Relation) :
    (d.follow row r).map d.tables.read =
      d.tables.contentsHop r row.entity (d.tables.read row) := by
  rw [follow_eq_related, Tables.related, Tables.contentsHop]
  cases row.entity.join? r with
  | none => rfl
  | some columns =>
      simp only [Tables.key?]
      cases (d.tables.read row columns.1).integer? with
      | none => rfl
      | some key =>
          simp only [Tables.map_scan_keys, Tables.contents, List.filter_map]
          rfl

/-- What is read at the end of a chain depends on what is read at its start
alone. -/
theorem map_read_reach (d : Dataset) (hops : List Relation) (row : RowRef) :
    (d.reach row hops).map d.tables.read =
      d.tables.contentsReach hops row.entity (d.tables.read row) := by
  induction hops generalizing row with
  | nil => rfl
  | cons r rest ih =>
      rw [reach, Tables.contentsReach, List.map_flatMap, ← map_read_follow, List.flatMap_map]
      apply List.flatMap_congr
      intro other hother
      rw [ih, d.tables.entity_of_mem_rows (d.mem_rows_of_mem_follow hother)]

/-! ## selections -/

/-- Rows that read the same lead to the same values, in some order. -/
theorem values_perm {d d' : Dataset} (h : d.tables.Perm d'.tables) {row row' : RowRef}
    (hread : d.tables.read row = d'.tables.read row') (hentity : row.entity = row'.entity)
    (field : FieldPath) :
    (d.values row field).Perm (d'.values row' field) := by
  have hcontents : ((d.reach row field.hops).map d.tables.read).Perm
      ((d'.reach row' field.hops).map d'.tables.read) := by
    rw [map_read_reach, map_read_reach, hentity, hread]
    exact h.contentsReach field.hops row'.entity _
  have hcolumn := hcontents.map (· field.column)
  rwa [List.map_map, List.map_map] at hcolumn

end Dataset

/-- A test asks for one value that passes, wherever it stands. -/
theorem Lookup.testAny_perm {values values' : List Value} (h : values.Perm values') (l : Lookup) :
    l.testAny values = l.testAny values' := by
  cases l with
  | isNull => rw [testAny, testAny, h.isEmpty_eq, h.any_eq]
  | _ => exact h.any_eq

namespace RowFilter

mutual

/-- A filter holds of two rows that read the same, or of neither. -/
theorem holds_congr {d d' : Dataset} (h : d.tables.Perm d'.tables) {row row' : RowRef}
    (hread : d.tables.read row = d'.tables.read row') (hentity : row.entity = row'.entity)
    (f : RowFilter) : f.holds d row = f.holds d' row' := by
  cases f with
  | always => rw [holds, holds]
  | test field l =>
      rw [holds, holds]
      exact l.testAny_perm (Dataset.values_perm h hread hentity field)
  | all fs => rw [holds, holds, holdsAll_congr h hread hentity fs]
  | any fs => rw [holds, holds, holdsAny_congr h hread hentity fs]
  | not f => rw [holds, holds, holds_congr h hread hentity f]

theorem holdsAll_congr {d d' : Dataset} (h : d.tables.Perm d'.tables) {row row' : RowRef}
    (hread : d.tables.read row = d'.tables.read row') (hentity : row.entity = row'.entity)
    (fs : List RowFilter) : holdsAll d row fs = holdsAll d' row' fs := by
  cases fs with
  | nil => rw [holdsAll, holdsAll]
  | cons f fs =>
      rw [holdsAll, holdsAll, holds_congr h hread hentity f, holdsAll_congr h hread hentity fs]

theorem holdsAny_congr {d d' : Dataset} (h : d.tables.Perm d'.tables) {row row' : RowRef}
    (hread : d.tables.read row = d'.tables.read row') (hentity : row.entity = row'.entity)
    (fs : List RowFilter) : holdsAny d row fs = holdsAny d' row' fs := by
  cases fs with
  | nil => rw [holdsAny, holdsAny]
  | cons f fs =>
      rw [holdsAny, holdsAny, holds_congr h hread hentity f, holdsAny_congr h hread hentity fs]

end

end RowFilter

namespace ViewQuery

theorem mem_rows_iff {q : ViewQuery} {d : Dataset} {v : View} :
    v ∈ q.rows d ↔ ∃ i : Nat, d.tables.views[i]? = some v ∧ q.selects d i = true := by
  rw [rows_eq_filter, kept, List.mem_map]
  constructor
  · intro h
    obtain ⟨⟨w, i⟩, hmem, rfl⟩ := h
    obtain ⟨hi, hselects⟩ := List.mem_filter.1 hmem
    exact ⟨i, by rw [← Array.getElem?_toList]; exact List.mk_mem_zipIdx_iff_getElem?.1 hi, hselects⟩
  · intro h
    obtain ⟨i, hi, hselects⟩ := h
    rw [← Array.getElem?_toList] at hi
    exact ⟨(v, i), List.mem_filter.2 ⟨List.mk_mem_zipIdx_iff_getElem?.2 hi, hselects⟩, rfl⟩

section
variable {d d' : Dataset} (h : d.tables.Perm d'.tables)
include h

theorem mem_rows_of_perm {q : ViewQuery} {v : View} (hv : v ∈ q.rows d) : v ∈ q.rows d' := by
  obtain ⟨i, hi, hselects⟩ := mem_rows_iff.1 hv
  obtain ⟨j, hj⟩ := Array.mem_iff_getElem?.1 (h.views.mem_iff.1 (Array.mem_of_getElem? hi))
  refine mem_rows_iff.2 ⟨j, hj, ?_⟩
  have hread : d.tables.read ⟨.view, i⟩ = d'.tables.read ⟨.view, j⟩ := by
    funext c
    simp only [Tables.read, hi, hj]
  rw [selects, List.all_eq_true] at hselects ⊢
  intro f hf
  rw [← f.holds_congr h hread rfl]
  exact hselects f hf

/-- A selection holds the same views, in some order. -/
theorem rows_perm (q : ViewQuery) : (q.rows d).Perm (q.rows d') := by
  have hnodup (d : Dataset) : (q.rows d).Nodup := by
    rw [rows_eq_filter]
    exact (q.nodup_ids_kept d).of_map
  rw [List.perm_ext_iff_of_nodup (hnodup d) (hnodup d')]
  exact fun v => ⟨mem_rows_of_perm h, mem_rows_of_perm h.symm⟩

end

end ViewQuery

/-! ## rows by id -/

/-- Lookups in tables that hold the same rows find the same. -/
theorem LooksUp.eq_of_perm {α : Type} {lookup lookup' : Int → Option α} {table table' : Array α}
    {idOf : α → Int} (h : LooksUp lookup table idOf) (h' : LooksUp lookup' table' idOf)
    (hperm : table.Perm table') (id : Int) : lookup id = lookup' id := by
  apply Option.ext
  intro row
  rw [h.eq_some_iff, h'.eq_some_iff, hperm.toList.mem_iff]

end Readership
