import Readership.Proofs.Leaves
import Readership.Proofs.PathResolution
import Readership.Proofs.Traversal

/-!
# Readership.Proofs.NamedColumns

What a filter reads of a dataset.

Relations are followed by ids and foreign keys, all of which are columns of
integers.  So where two sets of tables have the same keys, row by row
(`Tables.SameKeys`), a chain of relations leads to the same positions in both
(`scanReach_eq`), whatever else the rows hold.  At the end of its path a
condition reads a single column of a single table (`FilterNode.ends`).

A filter therefore selects the same views wherever the keys are the same and
these columns are read the same (`ids_of_sameKeys`).
-/

namespace Readership

/-! ## the same keys -/

/-- That two sets of tables have the same rows, in the same order, as far as
ids and foreign keys go. -/
structure Tables.SameKeys (t t' : Tables) : Prop where
  countries : t.countries.toList.map (·.id) = t'.countries.toList.map (·.id)
  users : t.users.toList.map (fun u => (u.id, u.country)) =
    t'.users.toList.map fun u => (u.id, u.country)
  blogs : t.blogs.toList.map (fun b => (b.id, b.author, b.country)) =
    t'.blogs.toList.map fun b => (b.id, b.author, b.country)
  views : t.views.toList.map (fun v => (v.id, v.blog, v.viewer, v.country)) =
    t'.views.toList.map fun v => (v.id, v.blog, v.viewer, v.country)

/-- Relations join columns of integers. -/
theorem Entity.type_of_join? {e : Entity} {r : Relation} {own column : Column}
    (h : e.join? r = some (own, column)) : own.type = .integer ∧ column.type = .integer := by
  cases e <;> cases r <;> cases h <;> exact ⟨rfl, rfl⟩

namespace Tables

/-- What is read from the rows at one position, in two tables that are the same
as far as some of their data goes, is the same if it is told by these data. -/
theorem read_eq_of_map_eq {α κ : Type} {xs ys : Array α} {key : α → κ}
    (h : xs.toList.map key = ys.toList.map key) {read : α → Value}
    (hread : ∀ x y, key x = key y → read x = read y) (i : Nat) :
    xs[i]?.elim .null read = ys[i]?.elim .null read := by
  have hkey := congrArg (·[i]?) h
  simp only [List.getElem?_map, Array.getElem?_toList] at hkey
  cases hx : xs[i]? with
  | none =>
      rw [hx, Option.map_none, eq_comm, Option.map_eq_none_iff] at hkey
      rw [hkey]
  | some x =>
      rw [hx, Option.map_some, eq_comm, Option.map_eq_some_iff] at hkey
      obtain ⟨y, hy, heq⟩ := hkey
      rw [hy]
      exact hread x y heq.symm

namespace SameKeys

variable {t t' : Tables} (h : t.SameKeys t')
include h

theorem size_eq (e : Entity) : t.size e = t'.size e := by
  cases e with
  | country => simpa [size] using congrArg List.length h.countries
  | user => simpa [size] using congrArg List.length h.users
  | blog => simpa [size] using congrArg List.length h.blogs
  | view => simpa [size] using congrArg List.length h.views

theorem rows_eq (e : Entity) : t.rows e = t'.rows e := by
  rw [rows, rows, h.size_eq]

/-- A column of integers holds keys, and so is read the same. -/
theorem read_eq {c : Column} (hc : c.type = .integer) (row : RowRef) :
    t.read row c = t'.read row c := by
  obtain ⟨e, i⟩ := row
  cases e with
  | country =>
      apply read_eq_of_map_eq h.countries
      intro x y hkey
      cases c <;> simp_all [Column.type, Country.read]
  | user =>
      apply read_eq_of_map_eq h.users
      intro x y hkey
      cases c <;> simp_all [Column.type, User.read]
  | blog =>
      apply read_eq_of_map_eq h.blogs
      intro x y hkey
      cases c <;> simp_all [Column.type, Blog.read]
  | view =>
      apply read_eq_of_map_eq h.views
      intro x y hkey
      cases c <;> simp_all [Column.type, View.read]

theorem key?_eq {c : Column} (hc : c.type = .integer) (row : RowRef) :
    t.key? row c = t'.key? row c := by
  rw [key?, key?, h.read_eq hc]

/-- A relation leads to the same rows, since it is told by keys. -/
theorem scanHop_eq (r : Relation) (row : RowRef) : t.scanHop r row = t'.scanHop r row := by
  rw [scanHop, scanHop, ← h.rows_eq]
  apply List.filter_congr
  intro other hother
  cases hjoin : row.entity.join? r with
  | none => rw [t.leads_eq_false hjoin, t'.leads_eq_false hjoin]
  | some columns =>
      obtain ⟨hown, hcolumn⟩ := Entity.type_of_join? hjoin
      have hentity := t.entity_of_mem_rows hother
      rw [t.leads_eq hjoin hentity, t'.leads_eq hjoin hentity, h.key?_eq hown, h.key?_eq hcolumn]

theorem scanReach_eq (row : RowRef) (hops : List Relation) :
    t.scanReach row hops = t'.scanReach row hops := by
  have hhop : t.scanHop = t'.scanHop := by
    funext r row
    exact h.scanHop_eq r row
  rw [scanReach, scanReach, hhop]

end SameKeys

end Tables

/-! ## the columns that a filter names -/

namespace FilterNode

/-- The table that the path of a condition ends in, and the column that it
reads there. -/
def end? (c : Condition) : Option (Entity × Column) := do
  let field ← (Entity.view.resolve c.path).toOption
  let e ← Entity.view.reach? field.hops
  pure (e, field.column)

/-- The tables and columns that the paths of a tree end in. -/
def ends (tree : Json) : List (Entity × Column) := (conditions tree).filterMap end?

/-- A condition is met by the rows at a position alike where the keys are the
same and its path ends in a column that is read the same. -/
theorem meetsAt_eq_of_sameKeys {t t' : Tables} (h : t.SameKeys t') {c : Condition}
    (hend : ∀ e column, end? c = some (e, column) →
      ∀ row ∈ t.rows e, t.read row column = t'.read row column)
    {i : Nat} (hrow : ⟨.view, i⟩ ∈ t.rows .view) :
    meetsAt t ⟨.view, i⟩ c.path c.op.name c.operand =
      meetsAt t' ⟨.view, i⟩ c.path c.op.name c.operand := by
  apply meetsAt_congr
  intro field hfield
  obtain ⟨e, hreach, -⟩ := Entity.reach?_of_resolve hfield
  rw [Tables.scanValues, Tables.scanValues, ← h.scanReach_eq]
  apply List.map_congr_left
  intro other hother
  apply hend e
  · simp [end?, hfield, hreach, Except.toOption]
  · exact t.mem_rows_of_mem_scanReach hrow hreach hother

end FilterNode

namespace ViewQuery

/-- The selected ids are those at the selected positions. -/
theorem ids_eq_filter_ids (q : ViewQuery) (d : Dataset) :
    q.ids d = ((d.tables.ids .view).zipIdx.filter fun (_, i) => q.selects d i).map (·.1) := by
  rw [ids_eq_map_kept, kept, Tables.ids, List.zipIdx_map, List.filter_map, List.map_map]
  rfl

open FilterNode

/-- **What a filter depends on**: in two datasets whose rows have the same ids
and foreign keys, a filter selects the same views if each column that one of its
paths ends in is read the same, whatever all other columns hold. -/
theorem ids_of_sameKeys {t t' : Tables} (h : t.SameKeys t') {d d' : Dataset}
    (hd : Dataset.ofTables t = .ok d) (hd' : Dataset.ofTables t' = .ok d') {tree : Json}
    {q : ViewQuery} (hq : everything.narrow (some tree) = .ok q)
    (hends : ∀ e c, (e, c) ∈ ends tree → ∀ row ∈ d.tables.rows e, d.read row c = d'.read row c) :
    q.ids d = q.ids d' := by
  obtain rfl := Dataset.tables_of_ofTables hd
  obtain rfl := Dataset.tables_of_ofTables hd'
  obtain ⟨f, hf, -⟩ := map_eq_ok_iff.1 hq
  have hids : d.tables.ids .view = d'.tables.ids .view := by
    simpa [Tables.ids, Function.comp_def] using congrArg (List.map Prod.fst) h.views
  rw [ids_eq_filter_ids, ids_eq_filter_ids, ← hids]
  congr 1
  apply List.filter_congr
  rintro ⟨id, i⟩ hmem
  have hget : (d.tables.ids .view)[i]? = some id := List.mk_mem_zipIdx_iff_getElem?.1 hmem
  rw [Tables.ids, List.getElem?_map, Array.getElem?_toList, Option.map_eq_some_iff] at hget
  obtain ⟨v, hv, -⟩ := hget
  have hrow : ⟨.view, i⟩ ∈ d.tables.rows .view := d.tables.mem_rows_view hv
  dsimp only
  rw [selects_of_narrow hq, selects_of_narrow hq]
  apply satTree_congr hf
  intro c hc
  apply meetsAt_eq_of_sameKeys h _ hrow
  intro e column hend
  exact hends e column (List.mem_filterMap.2 ⟨c, hc, hend⟩)

/-- The same rows under other names, at other times and with other texts: where
a blog is read and whether by a known viewer is not changed by any of that. -/
theorem ids_of_sameKeys_sample :
    let tree := Json.object [("and", .array [
      .object [("field", .string "blog.views.country.code"), ("op", .string "in"),
        ("value", .array [.string "CL"])],
      .object [("not", .object [("field", .string "viewer_id"), ("op", .string "eq"),
        ("value", .null)])]])]
    let changed : Tables := {
      countries := Tables.sample.countries.map ({ · with name := "Republic of Chile" })
      users := Tables.sample.users.map ({ · with username := "eve", isActive := false })
      blogs := Tables.sample.blogs.map ({ · with content := "Own it." })
      views := Tables.sample.views.map ({ · with viewedAt := .midnight Tables.sample.january }) }
    ∃ d d' q, Tables.SameKeys .sample changed ∧ Dataset.ofTables .sample = .ok d ∧
      Dataset.ofTables changed = .ok d' ∧ everything.narrow (some tree) = .ok q ∧
      ends tree = [(.country, .code), (.view, .viewerId)] ∧ q.ids d = [1] ∧ q.ids d' = [1] := by
  intro tree changed
  have hkeys : Tables.SameKeys .sample changed := by
    constructor <;> simp [changed, Function.comp_def]
  obtain ⟨d, hd⟩ := Dataset.exists_ofTables Tables.sound_sample
  have hsound : changed.Sound :=
    Tables.sound_of_rows (fun e => by cases e <;> decide +kernel)
      (fun e => by cases e <;> decide +kernel)
  obtain ⟨d', hd'⟩ := Dataset.exists_ofTables hsound
  have hnarrow : (everything.narrow (some tree)).toOption.isSome := by decide +kernel
  obtain ⟨q, hq⟩ := Option.isSome_iff_exists.1 hnarrow
  rw [toOption_eq_some_iff] at hq
  have hends : ends tree = [(.country, .code), (.view, .viewerId)] := by
    have hconditions : conditions tree = [⟨"blog.views.country.code", .oneOf,
        .array [.string "CL"]⟩, ⟨"viewer_id", .eq, .null⟩] := by
      have heq : Operator.ofName? "eq" = some .eq := by decide
      have hin : Operator.ofName? "in" = some .oneOf := by decide
      simp [conditions_eq, tree, parts, shape, condition?, List.lookup_cons, heq, hin]
    rw [ends, hconditions]
    decide +kernel
  have hread : ∀ x ∈ ends tree, ∀ row ∈ Tables.sample.rows x.1,
      Tables.sample.read row x.2 = changed.read row x.2 := by
    rw [hends]
    decide +kernel
  have hids : q.ids d = [1] := by
    rw [ids_eq_filter_ids, Dataset.tables_of_ofTables hd]
    simp only [selects_of_narrow hq, Dataset.tables_of_ofTables hd]
    decide +kernel
  refine ⟨d, d', q, hkeys, hd, hd', hq, hends, hids, ?_⟩
  rw [← ids_of_sameKeys hkeys hd hd' hq, hids]
  intro e c hend row hrow
  rw [Dataset.tables_of_ofTables hd] at hrow
  rw [Dataset.read, Dataset.read, Dataset.tables_of_ofTables hd, Dataset.tables_of_ofTables hd']
  exact hread (e, c) hend row hrow

end ViewQuery

end Readership
