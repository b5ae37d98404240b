import Readership.Proofs.PathResolution
import Readership.Proofs.Traversal

/-!
# Readership.Proofs.Relations

What the relations of a dataset lead to, against what the schema declares.

1. A relation leads to rows of its target table, and to no position past its
   end (`mem_rows_of_mem_follow`).
2. It leads to as many rows as its cardinality says: by a foreign key to the
   row with that id, and to none where the key is empty (`follow_of_forward`);
   backwards to rows in the order of their table, each once
   (`pairwise_position_follow`).
3. Backwards it leads to the rows that lead here forwards
   (`mem_follow_converse_iff`).

So a chain of relations, from a row of a table, stays within the tables all
the way (`inRange_of_mem_reach`): each relation of a path that resolves is
asked of a row that has it, and so is the column at its end.
-/

namespace Readership

namespace Tables

/-- Whether there is a row at a position. -/
def InRange (t : Tables) (row : RowRef) : Prop := row.position < t.size row.entity

instance (t : Tables) (row : RowRef) : Decidable (t.InRange row) :=
  inferInstanceAs (Decidable (row.position < t.size row.entity))

theorem mem_rows_iff {t : Tables} {row : RowRef} {e : Entity} :
    row ∈ t.rows e ↔ row.entity = e ∧ t.InRange row := by
  obtain ⟨e', i⟩ := row
  rw [rows, InRange, List.mem_map]
  constructor
  · intro h
    obtain ⟨j, hj, heq⟩ := h
    obtain ⟨rfl, rfl⟩ : e = e' ∧ j = i := by simpa using heq
    exact ⟨rfl, List.mem_range.1 hj⟩
  · intro h
    obtain ⟨rfl, hi⟩ := h
    exact ⟨i, List.mem_range.2 hi, rfl⟩

theorem inRange_iff_mem_rows {t : Tables} {row : RowRef} :
    t.InRange row ↔ row ∈ t.rows row.entity := by
  rw [mem_rows_iff, and_iff_right rfl]

/-- Rows of a table stand in the order of their positions. -/
theorem pairwise_position_rows (t : Tables) (e : Entity) :
    ((t.rows e).map (·.position)).Pairwise (· < ·) := by
  have hpositions : (t.rows e).map (·.position) = List.range (t.size e) := by
    rw [rows, List.map_map]
    exact List.map_id' _
  rw [hpositions]
  exact List.pairwise_lt_range

/-- A row of a table has the key of each relation that takes exactly one. -/
theorem exists_foreignKey?_of_one (t : Tables) {row : RowRef} (hrow : t.InRange row)
    {r : Relation} (hr : r ∈ row.entity.relations) (hone : r.cardinality = .one) :
    ∃ key, t.foreignKey? row r = some key := by
  obtain ⟨e, i⟩ := row
  have hi : i < t.size e := hrow
  cases e with
  | view =>
      have hget : t.views[i]? = some t.views[i] := Array.getElem?_eq_getElem hi
      cases r <;> first | contradiction | simp [foreignKey?, hget]
  | blog =>
      have hget : t.blogs[i]? = some t.blogs[i] := Array.getElem?_eq_getElem hi
      cases r <;> first | contradiction | simp [foreignKey?, hget]
  | user => cases r <;> contradiction
  | country => cases r <;> contradiction

end Tables

/-- No forward relation reads another one backwards. -/
theorem Relation.converse?_of_isForward {e : Entity} {r : Relation} (h : r.isForward = true) :
    converse? e r = none := by
  cases e <;> cases r <;> first | contradiction | rfl

/-- Backwards a relation starts where it leads to forwards. -/
theorem Relation.target_of_converse? {e : Entity} {r back : Relation}
    (h : converse? e r = some back) : back.target = e := by
  cases e <;> cases r <;> cases h <;> rfl

namespace Dataset

variable (d : Dataset)

/-! ## one relation -/

theorem mem_follow_iff {row other : RowRef} {r : Relation} :
    other ∈ d.follow row r ↔
      other ∈ d.tables.rows r.target ∧ d.tables.leads row r other = true := by
  rw [follow_eq_scanHop, Tables.scanHop, List.mem_filter]

/-- A relation leads to rows of its target table. -/
theorem mem_rows_of_mem_follow {row other : RowRef} {r : Relation} (h : other ∈ d.follow row r) :
    other ∈ d.tables.rows r.target :=
  ((d.mem_follow_iff).1 h).1

/-- A relation leads to rows in the order of their table, each once. -/
theorem pairwise_position_follow (row : RowRef) (r : Relation) :
    ((d.follow row r).map (·.position)).Pairwise (· < ·) := by
  rw [follow_eq_scanHop, Tables.scanHop]
  exact (d.tables.pairwise_position_rows r.target).sublist (List.filter_sublist.map _)

/-- A foreign key leads to the row with that id, and an empty one nowhere. -/
theorem follow_of_forward {row : RowRef} {r : Relation} (hr : r ∈ row.entity.relations)
    (hforward : r.isForward = true) :
    (d.tables.foreignKey? row r = none ∧ d.follow row r = []) ∨
      ∃ key other, d.tables.foreignKey? row r = some key ∧ d.tables.idOf? other = some key ∧
        d.follow row r = [other] := by
  obtain ⟨⟨own, column⟩, hjoin⟩ := Option.isSome_iff_exists.1 (Entity.mem_relations_iff.1 hr)
  obtain ⟨-, rfl⟩ := d.tables.key?_eq_foreignKey? hjoin hforward
  have hnil := d.scanHop_eq_nil_iff hjoin
  rw [← follow_eq_scanHop] at hnil
  cases hkey : d.tables.foreignKey? row r with
  | none => exact .inl ⟨rfl, hnil.2 hkey⟩
  | some key =>
      have hlength : (d.follow row r).length ≤ 1 := d.length_follow_le_one hforward
      cases hfollow : d.follow row r with
      | nil =>
          rw [hnil.1 hfollow] at hkey
          contradiction
      | cons other others =>
          obtain rfl : others = [] := by
            rw [hfollow, List.length_cons] at hlength
            exact List.length_eq_zero_iff.1 (by omega)
          have hleads : d.tables.leads row r other = true := by
            apply ((d.mem_follow_iff).1 _).2
            rw [hfollow]
            exact List.mem_singleton_self other
          rw [Tables.leads, Relation.converse?_of_isForward hforward, Tables.refers, hkey,
            Option.any_some, decide_eq_true_eq] at hleads
          exact .inr ⟨key, other, rfl, hleads, rfl⟩

/-- Backwards a relation leads to the rows that lead here forwards. -/
theorem mem_follow_converse_iff {row other : RowRef} {r back : Relation}
    (h : Relation.converse? row.entity r = some back) (hrow : d.tables.InRange row)
    (hother : other ∈ d.tables.rows r.target) :
    other ∈ d.follow row r ↔ row ∈ d.follow other back := by
  obtain ⟨hforward, -⟩ := Relation.join?_converse h
  have hmem : row ∈ d.tables.rows back.target := by
    rw [Relation.target_of_converse? h]
    exact Tables.inRange_iff_mem_rows.1 hrow
  have hback : d.tables.leads row r other = d.tables.refers other back row := by
    rw [Tables.leads, h]
  have hthere : d.tables.leads other back row = d.tables.refers other back row := by
    rw [Tables.leads, Relation.converse?_of_isForward hforward]
  rw [mem_follow_iff, mem_follow_iff, and_iff_right hother, and_iff_right hmem, hback, hthere]

/-! ## chains of relations -/

/-- Wherever a chain of the schema is interrupted, it stands at a row of a
table, and goes on by a relation of that table. -/
theorem inRange_of_mem_reach {row : RowRef} (hrow : d.tables.InRange row) {target : Entity}
    {before after : List Relation} (h : row.entity.reach? (before ++ after) = some target)
    {other : RowRef} (hother : other ∈ d.reach row before) :
    d.tables.InRange other ∧ other.entity.reach? after = some target := by
  obtain ⟨mid, hbefore, hafter⟩ := Entity.reach?_append_eq_some_iff.1 h
  rw [reach_eq_scanReach] at hother
  have hmem := d.tables.mem_rows_of_mem_scanReach (Tables.inRange_iff_mem_rows.1 hrow) hbefore
    hother
  obtain ⟨rfl, hrange⟩ := Tables.mem_rows_iff.1 hmem
  exact ⟨hrange, hafter⟩

/-! ## what the schema declares -/

/-- What it means that a relation yields as many rows as its cardinality says:
the row that a key leads to, the same if there is a key, or any number of rows
in the order of their table. -/
def YieldsAsDeclared (row : RowRef) (r : Relation) : Prop :=
  let leadsByKey := ∃ key other, d.tables.foreignKey? row r = some key ∧
    d.tables.idOf? other = some key ∧ d.follow row r = [other]
  match r.cardinality with
  | .one => leadsByKey
  | .optional => (d.tables.foreignKey? row r = none ∧ d.follow row r = []) ∨ leadsByKey
  | .many => ((d.follow row r).map (·.position)).Pairwise (· < ·)

theorem yieldsAsDeclared {row : RowRef} (hrow : d.tables.InRange row) {r : Relation}
    (hr : r ∈ row.entity.relations) : d.YieldsAsDeclared row r := by
  unfold YieldsAsDeclared
  cases hcardinality : r.cardinality with
  | one =>
      have hforward : r.isForward = true := by simp [Relation.isForward, hcardinality]
      obtain ⟨key, hkey⟩ := d.tables.exists_foreignKey?_of_one hrow hr hcardinality
      refine (d.follow_of_forward hr hforward).resolve_left fun hnone => ?_
      rw [hnone.1] at hkey
      contradiction
  | optional =>
      have hforward : r.isForward = true := by simp [Relation.isForward, hcardinality]
      exact d.follow_of_forward hr hforward
  | many => exact d.pairwise_position_follow row r

/-- **Relations are what the schema declares**: from a row of a dataset, each
relation of its table leads to rows of the target, as many as the cardinality
says; read backwards it leads to the rows that lead here; and along a path that
resolves every relation, and the column at the end, is asked of a row that is
there and has it. -/
theorem follow_realises_schema :
    (∀ row, d.tables.InRange row → ∀ r ∈ row.entity.relations,
      (∀ other ∈ d.follow row r, other.entity = r.target ∧ d.tables.InRange other) ∧
        d.YieldsAsDeclared row r) ∧
    (∀ row r back, d.tables.InRange row → Relation.converse? row.entity r = some back →
      ∀ other, other.entity = r.target → d.tables.InRange other →
        (other ∈ d.follow row r ↔ row ∈ d.follow other back)) ∧
    (∀ row path field, d.tables.InRange row → row.entity.resolve path = .ok field →
      ∀ before after, field.hops = before ++ after → ∀ other ∈ d.reach row before,
        d.tables.InRange other ∧
          match after with
          | [] => field.column ∈ other.entity.columns
          | r :: _ => r ∈ other.entity.relations) := by
  refine ⟨fun row hrow r hr => ⟨fun other hother => ?_, d.yieldsAsDeclared hrow hr⟩,
    fun row r back hrow hback other hentity hother => ?_,
    fun row path field hrow hfield before after hhops other hother => ?_⟩
  · exact Tables.mem_rows_iff.1 (d.mem_rows_of_mem_follow hother)
  · exact d.mem_follow_converse_iff hback hrow (Tables.mem_rows_iff.2 ⟨hentity, hother⟩)
  · obtain ⟨target, hreach, hcolumn⟩ := Entity.reach?_of_resolve hfield
    rw [hhops] at hreach
    obtain ⟨hrange, hafter⟩ := d.inRange_of_mem_reach hrow hreach hother
    refine ⟨hrange, ?_⟩
    cases after with
    | nil =>
        obtain rfl : other.entity = target := Option.some.inj hafter
        exact hcolumn
    | cons r rest => exact (Entity.reach?_cons_eq_some_iff.1 hafter).1

/-- The first view is one of the views of its blog, and its path to their
viewers goes over rows that are there. -/
theorem follow_realises_schema_sample :
    let row : RowRef := ⟨.view, 0⟩
    ∃ d, ofTables .sample = .ok d ∧ d.YieldsAsDeclared row .blog ∧
      (⟨.view, 1⟩ ∈ d.follow ⟨.blog, 0⟩ .views ↔ ⟨.blog, 0⟩ ∈ d.follow ⟨.view, 1⟩ .blog) ∧
      ∃ field, Entity.view.resolve "blog.views.viewer.username" = .ok field ∧
        ∀ other ∈ d.reach row [.blog, .views],
          d.tables.InRange other ∧ .viewer ∈ other.entity.relations := by
  intro row
  obtain ⟨d, hd⟩ := exists_ofTables Tables.sound_sample
  have htables := tables_of_ofTables hd
  have hrange (other : RowRef) (h : Tables.sample.InRange other) : d.tables.InRange other := by
    rw [htables]
    exact h
  obtain ⟨hfollow, hconverse, hpath⟩ := d.follow_realises_schema
  have hfield : Entity.view.resolve "blog.views.viewer.username" =
      .ok ⟨"blog.views.viewer.username", [.blog, .views, .viewer], .username⟩ := by
    rw [← toOption_eq_some_iff]
    decide +kernel
  refine ⟨d, hd, (hfollow row (hrange _ (by decide)) .blog (by decide)).2,
    hconverse ⟨.blog, 0⟩ .views .blog (hrange _ (by decide)) rfl _ rfl (hrange _ (by decide)),
    _, hfield, ?_⟩
  exact hpath row _ _ (hrange _ (by decide)) hfield [.blog, .views] [.viewer] rfl

end Dataset

end Readership
