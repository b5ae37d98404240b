import Readership.Proofs.Join
import Readership.Proofs.PathText

/-!
# Readership.Proofs.Traversal

Where chains of relations lead, and what is read there.

* `mem_rows_of_mem_scanReach` -- a chain of the schema leads to rows of the
  table that it names;
* `length_reach_le_one` -- without a reverse relation it leads to one row at
  most;
* `scanHop_eq_nil_iff` -- the relation of a foreign key leads nowhere exactly
  where the key is null;
* `read_null_or_typed`, `read_ne_null` -- what is read is of the type of its
  column, or null in one of the columns that may be empty.
-/

namespace Readership

/-! ## foreign keys in the schema -/

/-- What joins to the ids of the target is a foreign key: a column of integers
that is named after its relation. -/
theorem Entity.foreignKey_of_join? {e : Entity} {r : Relation} {c : Column}
    (h : e.join? r = some (c, .id)) :
    r ∈ e.relations ∧ r.isForward = true ∧ c ∈ e.columns ∧ c.type = .integer ∧
      c.label = r.label ++ "_id" := by
  cases e <;> cases r <;> simp [Entity.join?] at h <;> subst h <;> decide

/-! ## reading -/

namespace Value

theorem null_or_typed_ofKey? (k : Option Int) :
    ofKey? k = null ∨ (ofKey? k).type? = some .integer := by
  cases k <;> simp [ofKey?, type?]

/-- A value of a type that is null or typed as an integer is told by its
integer. -/
theorem isNull_iff_integer? {v : Value} (h : v = null ∨ v.type? = some .integer) :
    v.isNull = true ↔ v.integer? = none := by
  cases v <;> simp_all [isNull, integer?, type?]

end Value

/-- The columns that a row may leave empty. -/
def Column.isNullable : Column → Bool
  | .ipAddress | .viewerId | .countryId => true
  | _ => false

theorem Country.read_null_or_typed (x : Country) (c : Column) :
    x.read c = .null ∨ (x.read c).type? = some c.type := by
  cases c <;> first | exact .inl rfl | exact .inr rfl

theorem User.read_null_or_typed (x : User) (c : Column) :
    x.read c = .null ∨ (x.read c).type? = some c.type := by
  cases c with
  | countryId => exact Value.null_or_typed_ofKey? x.country
  | _ => first | exact .inl rfl | exact .inr rfl

theorem Blog.read_null_or_typed (x : Blog) (c : Column) :
    x.read c = .null ∨ (x.read c).type? = some c.type := by
  cases c with
  | countryId => exact Value.null_or_typed_ofKey? x.country
  | _ => first | exact .inl rfl | exact .inr rfl

theorem View.read_null_or_typed (x : View) (c : Column) :
    x.read c = .null ∨ (x.read c).type? = some c.type := by
  cases c with
  | viewerId => exact Value.null_or_typed_ofKey? x.viewer
  | countryId => exact Value.null_or_typed_ofKey? x.country
  | ipAddress =>
      rw [read]
      cases x.ipAddress with
      | none => exact .inl rfl
      | some s => exact .inr rfl
  | _ => first | exact .inl rfl | exact .inr rfl

namespace Tables

variable (t : Tables)

/-- Whatever is read from a column is null or of the type of the column. -/
theorem read_null_or_typed (row : RowRef) (c : Column) :
    t.read row c = .null ∨ (t.read row c).type? = some c.type := by
  have hread {α : Type} (f : α → Value) (x? : Option α)
      (h : ∀ x, f x = .null ∨ (f x).type? = some c.type) :
      x?.elim .null f = .null ∨ (x?.elim .null f).type? = some c.type := by
    cases x? with
    | none => exact .inl rfl
    | some x => exact h x
  unfold read
  split
  · exact hread _ _ fun x => x.read_null_or_typed c
  · exact hread _ _ fun x => x.read_null_or_typed c
  · exact hread _ _ fun x => x.read_null_or_typed c
  · exact hread _ _ fun x => x.read_null_or_typed c

/-- Null is read from a row of a table only where the row may be empty. -/
theorem read_ne_null {row : RowRef} (hrow : row ∈ t.rows row.entity) {c : Column}
    (hc : c ∈ row.entity.columns) (hnull : c.isNullable = false) : t.read row c ≠ .null := by
  obtain ⟨e, i⟩ := row
  have hi : i < t.size e := by simpa [rows] using hrow
  cases e with
  | country =>
      have hget : t.countries[i]? = some t.countries[i] := Array.getElem?_eq_getElem hi
      simp only [read, hget, Option.elim]
      cases c <;> first | contradiction | simp [Country.read]
  | user =>
      have hget : t.users[i]? = some t.users[i] := Array.getElem?_eq_getElem hi
      simp only [read, hget, Option.elim]
      cases c <;> first | contradiction | simp [User.read]
  | blog =>
      have hget : t.blogs[i]? = some t.blogs[i] := Array.getElem?_eq_getElem hi
      simp only [read, hget, Option.elim]
      cases c <;> first | contradiction | simp [Blog.read]
  | view =>
      have hget : t.views[i]? = some t.views[i] := Array.getElem?_eq_getElem hi
      simp only [read, hget, Option.elim]
      cases c <;> first | contradiction | simp [View.read]

/-- A foreign key is null in its column exactly where the row refers to
nothing. -/
theorem isNull_read_iff {row : RowRef} {r : Relation} {c : Column}
    (h : row.entity.join? r = some (c, .id)) :
    (t.read row c).isNull = true ↔ t.foreignKey? row r = none := by
  obtain ⟨-, hforward, -, htype, -⟩ := Entity.foreignKey_of_join? h
  have hread := t.read_null_or_typed row c
  rw [htype] at hread
  rw [Value.isNull_iff_integer? hread, ← (t.key?_eq_foreignKey? h hforward).1]
  rfl

/-! ## rows at the end of a chain -/

theorem entity_of_mem_rows {row : RowRef} {e : Entity} (h : row ∈ t.rows e) : row.entity = e := by
  obtain ⟨i, -, rfl⟩ := List.mem_map.1 h
  rfl

theorem mem_rows_view {i : Nat} {v : View} (h : t.views[i]? = some v) :
    ⟨.view, i⟩ ∈ t.rows .view := by
  have hi : i < t.views.size := (Array.getElem?_eq_some_iff.1 h).1
  exact List.mem_map_of_mem (List.mem_range.2 hi)

theorem scanReach_concat (row : RowRef) (hops : List Relation) (r : Relation) :
    t.scanReach row (hops ++ [r]) = (t.scanReach row hops).flatMap (t.scanHop r) := by
  rw [scanReach, List.foldl_append]
  rfl

/-- A chain of the schema leads to rows of the table that it names.  The last
hop decides, whatever the rows before it are. -/
theorem mem_rows_of_mem_scanReach {row other : RowRef} {target : Entity} {hops : List Relation}
    (hrow : row ∈ t.rows row.entity) (h : row.entity.reach? hops = some target)
    (hother : other ∈ t.scanReach row hops) : other ∈ t.rows target := by
  rcases List.eq_nil_or_concat hops with rfl | ⟨init, r, rfl⟩
  · obtain rfl : other = row := List.mem_singleton.1 hother
    obtain rfl : other.entity = target := Option.some.inj h
    exact hrow
  · rw [List.concat_eq_append] at h hother
    obtain ⟨mid, -, hlast⟩ := Entity.reach?_append_eq_some_iff.1 h
    obtain ⟨-, hend⟩ := Entity.reach?_cons_eq_some_iff.1 hlast
    obtain rfl : r.target = target := Option.some.inj hend
    rw [scanReach_concat] at hother
    obtain ⟨before, -, hhop⟩ := List.mem_flatMap.1 hother
    exact (List.mem_filter.1 hhop).1

end Tables

namespace Index

/-- A scan finds a key as often as it stands in the column. -/
theorem length_scan (key : Int) (n : Nat) (keys : List (Option Int)) :
    (scan key n keys).length = keys.count (some key) := by
  induction keys generalizing n with
  | nil => rfl
  | cons k ks ih =>
      rw [scan, List.count_cons]
      by_cases hk : k = some key <;> simp [hk, ih]

end Index

namespace Dataset

variable (d : Dataset)

/-- A foreign key leads to one row at most, since ids differ. -/
theorem length_follow_le_one {row : RowRef} {r : Relation} (hr : r.isForward = true) :
    (d.follow row r).length ≤ 1 := by
  rw [follow_eq_related, Tables.related]
  split
  · exact Nat.zero_le 1
  · next own other hjoin =>
    obtain ⟨-, rfl⟩ := d.tables.key?_eq_foreignKey? hjoin hr
    split
    · exact Nat.zero_le 1
    · next key _ =>
      have hnodup : (d.tables.keys r.target .id).Nodup := by
        rw [Tables.keys_id]
        exact List.pairwise_map.2 ((d.sound.nodup_ids r.target).imp fun hne he =>
          hne (Option.some.inj he))
      rw [List.length_map, Index.length_scan]
      exact List.nodup_iff_count.1 hnodup (some key)

/-- Without a reverse relation a chain leads to one row at most. -/
theorem length_reach_le_one {hops : List Relation} (h : ∀ r ∈ hops, r.isForward = true)
    (row : RowRef) : (d.reach row hops).length ≤ 1 := by
  induction hops generalizing row with
  | nil => exact Nat.le_refl 1
  | cons r hops ih =>
      rw [List.forall_mem_cons] at h
      have hfollow : (d.follow row r).length ≤ 1 := d.length_follow_le_one h.1
      rw [reach]
      cases hrows : d.follow row r with
      | nil => exact Nat.zero_le 1
      | cons other others =>
          obtain rfl : others = [] := by
            rw [hrows, List.length_cons] at hfollow
            exact List.length_eq_zero_iff.1 (by omega)
          simpa using ih h.2 other

/-- The relation of a foreign key leads nowhere exactly where the key is null:
any other key is the id of a row. -/
theorem scanHop_eq_nil_iff {row : RowRef} {r : Relation} {c : Column}
    (h : row.entity.join? r = some (c, .id)) :
    d.tables.scanHop r row = [] ↔ d.tables.foreignKey? row r = none := by
  obtain ⟨-, hforward, -⟩ := Entity.foreignKey_of_join? h
  have hkey := (d.tables.key?_eq_foreignKey? h hforward).1
  rw [← follow_eq_scanHop, follow_eq_related, Tables.related]
  simp only [h, hkey]
  cases hfk : d.tables.foreignKey? row r with
  | none => simp
  | some key =>
      have hid : some key ∈ d.tables.keys r.target .id := by
        rw [Tables.keys_id]
        exact List.mem_map_of_mem (d.sound.mem_ids row r key hfk)
      simp [Index.scan_eq_nil_iff, hid]

/-- The id of a row that a chain leads to is there. -/
theorem read_id_ne_null {row : RowRef} (hrow : row ∈ d.tables.rows row.entity) :
    d.tables.read row .id ≠ .null :=
  d.tables.read_ne_null hrow (by cases row.entity <;> decide) rfl

end Dataset

end Readership
