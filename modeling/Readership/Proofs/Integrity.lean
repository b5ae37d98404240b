import Readership.Dataset.Basic

/-!
# Readership.Proofs.Integrity

What it means that tables have no faults, told from the rows alone.

The checks go through indexes and through the columns of the schema.  Here the
ids of a table and the keys that rows refer with are read off the rows
themselves:

* `Tables.Sound` -- the ids of each table differ, and every key that a row
  refers with is the id of a row;
* `violations_eq_nil_iff` -- the checks find no fault exactly in such tables;
* `Dataset.sound`, `Dataset.exists_ofTables` -- so the tables of every dataset
  are of this kind, and all tables of this kind make a dataset.
-/

namespace Readership

namespace Value

@[simp] theorem integer?_null : null.integer? = none := rfl

@[simp] theorem integer?_integer (n : Int) : (integer n).integer? = some n := rfl

/-- A key reads back from its value. -/
@[simp] theorem integer?_ofKey? (k : Option Int) : (ofKey? k).integer? = k := by
  cases k <;> rfl

end Value

namespace Index

/-- A scan finds nothing exactly where the key does not stand. -/
theorem scan_eq_nil_iff {key : Int} {n : Nat} {keys : List (Option Int)} :
    scan key n keys = [] ↔ some key ∉ keys := by
  induction keys generalizing n with
  | nil => simp [scan]
  | cons k ks ih =>
      by_cases hk : k = some key
      · simp [scan, hk]
      · rw [scan, if_neg hk, ih, List.mem_cons, not_or]
        exact ⟨fun h => ⟨fun he => hk he.symm, h⟩, And.right⟩

/-- An index has the keys of its column. -/
theorem has_ofKeys {key : Int} {keys : List (Option Int)} :
    (ofKeys keys).has key = true ↔ some key ∈ keys := by
  rw [has, positions_ofKeys, Bool.not_eq_true', List.isEmpty_eq_false_iff, ne_eq,
    scan_eq_nil_iff, Decidable.not_not]

end Index

/-- The relations of a table are those that join it to another. -/
theorem Entity.mem_relations_iff {e : Entity} {r : Relation} :
    r ∈ e.relations ↔ (e.join? r).isSome := by
  cases e <;> cases r <;> decide

namespace Tables

/-! ## ids and foreign keys -/

/-- The ids of a table as its rows hold them, in storage order. -/
def ids (t : Tables) : Entity → List Int
  | .country => t.countries.toList.map (·.id)
  | .user => t.users.toList.map (·.id)
  | .blog => t.blogs.toList.map (·.id)
  | .view => t.views.toList.map (·.id)

/-- The id of a row. -/
def idOf? (t : Tables) (row : RowRef) : Option Int := (t.ids row.entity)[row.position]?

/-- The key by which a row refers to another, as the row holds it; only
forward relations go by such a key. -/
def foreignKey? (t : Tables) (row : RowRef) (r : Relation) : Option Int :=
  match row.entity, r with
  | .view, .blog => t.views[row.position]?.map (·.blog)
  | .view, .viewer => t.views[row.position]?.bind (·.viewer)
  | .view, .country => t.views[row.position]?.bind (·.country)
  | .blog, .author => t.blogs[row.position]?.map (·.author)
  | .blog, .country => t.blogs[row.position]?.bind (·.country)
  | .user, .country => t.users[row.position]?.bind (·.country)
  | _, _ => none

/-- Every row holds its id in the key column. -/
theorem keys_id (t : Tables) (e : Entity) : t.keys e .id = (t.ids e).map some := by
  cases e <;> simp [keys, ids, Country.read, User.read, Blog.read, View.read]

theorem key?_id (t : Tables) (row : RowRef) : t.key? row .id = t.idOf? row := by
  obtain ⟨e, i⟩ := row
  rw [← getElem?_keys, keys_id, List.getElem?_map, idOf?]
  cases (t.ids e)[i]? <;> rfl

/-- Every row of a table has an id. -/
theorem exists_idOf? (t : Tables) {row : RowRef} (hrow : row ∈ t.rows row.entity) :
    ∃ id, t.idOf? row = some id := by
  obtain ⟨e, i⟩ := row
  have hi : i < t.size e := by simpa [rows] using hrow
  have hlen : (t.ids e).length = t.size e := by
    rw [← length_keys t e .id, keys_id, List.length_map]
  rw [idOf?, List.getElem?_eq_getElem (by rw [hlen]; exact hi)]
  exact ⟨_, rfl⟩

/-- What a forward relation joins on is the key that the row refers with, and
the id of the row that it leads to. -/
theorem key?_eq_foreignKey? (t : Tables) {row : RowRef} {r : Relation} {own other : Column}
    (hjoin : row.entity.join? r = some (own, other)) (hr : r.isForward = true) :
    t.key? row own = t.foreignKey? row r ∧ other = .id := by
  obtain ⟨e, i⟩ := row
  cases e with
  | view =>
      cases r <;> simp [Entity.join?, Relation.isForward, Relation.cardinality] at hjoin hr <;>
        obtain ⟨rfl, rfl⟩ := hjoin <;> cases hv : t.views[i]? <;>
        simp [key?, read, foreignKey?, hv, View.read]
  | blog =>
      cases r <;> simp [Entity.join?, Relation.isForward, Relation.cardinality] at hjoin hr <;>
        obtain ⟨rfl, rfl⟩ := hjoin <;> cases hb : t.blogs[i]? <;>
        simp [key?, read, foreignKey?, hb, Blog.read]
  | user =>
      cases r <;> simp [Entity.join?, Relation.isForward, Relation.cardinality] at hjoin hr
      obtain ⟨rfl, rfl⟩ := hjoin
      cases hu : t.users[i]? <;> simp [key?, read, foreignKey?, hu, User.read]
  | country =>
      cases r <;> simp [Entity.join?, Relation.isForward, Relation.cardinality] at hjoin hr

/-- A row refers by forward relations of its table only. -/
theorem isForward_of_foreignKey? (t : Tables) {row : RowRef} {r : Relation} {key : Int}
    (h : t.foreignKey? row r = some key) :
    r.isForward = true ∧ ∃ own, row.entity.join? r = some (own, .id) := by
  obtain ⟨e, i⟩ := row
  cases e <;> cases r <;>
    simp_all [foreignKey?, Relation.isForward, Relation.cardinality, Entity.join?]

/-- A row that refers to another stands in its table, which is not that of
the countries. -/
theorem mem_rows_of_foreignKey? (t : Tables) {row : RowRef} {r : Relation} {key : Int}
    (h : t.foreignKey? row r = some key) :
    row ∈ t.rows row.entity ∧ row.entity ∈ [Entity.user, .blog, .view] := by
  obtain ⟨e, i⟩ := row
  have hlt {α : Type} {xs : Array α} {x : α} (hx : xs[i]? = some x) : i < xs.size :=
    (Array.getElem?_eq_some_iff.1 hx).1
  cases e <;> cases r <;>
    simp [foreignKey?, rows, size, Option.bind_eq_some_iff] at h ⊢ <;>
    obtain ⟨x, hx, -⟩ := h <;> exact hlt hx

/-! ## what the checks find -/

theorem repeats_eq_nil_iff {seen : Std.HashSet Int} {ks : List Int} :
    repeats seen ks = [] ↔ ks.Nodup ∧ ∀ k ∈ ks, k ∉ seen := by
  induction ks generalizing seen with
  | nil => simp [repeats]
  | cons k ks ih =>
      by_cases hk : k ∈ seen
      · simp [repeats, hk]
      · rw [repeats, if_neg hk, ih, List.nodup_cons]
        constructor
        · rintro ⟨hnodup, hfresh⟩
          have hks : k ∉ ks := fun hmem => hfresh k hmem (by simp)
          refine ⟨⟨hks, hnodup⟩, ?_⟩
          intro x hx
          rcases List.mem_cons.1 hx with rfl | hx
          · exact hk
          · exact fun hseen => hfresh x hx (by simp [hseen])
        · rintro ⟨⟨hks, hnodup⟩, hfresh⟩
          refine ⟨hnodup, fun x hx hseen => ?_⟩
          rcases Std.HashSet.mem_insert.1 hseen with he | hs
          · exact hks (by rw [eq_of_beq he]; exact hx)
          · exact hfresh x (List.mem_cons_of_mem k hx) hs

/-- A table has no repeated key exactly when its ids differ. -/
theorem duplicates_eq_nil_iff (t : Tables) (e : Entity) :
    t.duplicates e = [] ↔ (t.ids e).Nodup := by
  rw [duplicates, List.map_eq_nil_iff, repeats_eq_nil_iff, Entity.key, keys_id]
  simp

/-- A row has no dangling reference exactly when each key it refers with is
known. -/
theorem dangling_eq_nil_iff (t : Tables) {isKey : Entity → Int → Bool} {row : RowRef}
    (hrow : row ∈ t.rows row.entity) :
    t.dangling isKey row = [] ↔
      ∀ r key, t.foreignKey? row r = some key → isKey r.target key = true := by
  obtain ⟨id, hid⟩ := t.exists_idOf? hrow
  rw [← key?_id] at hid
  rw [dangling, List.filterMap_eq_nil_iff]
  constructor
  · intro h r key hkey
    obtain ⟨hr, own, hjoin⟩ := t.isForward_of_foreignKey? hkey
    have hmem : r ∈ row.entity.relations.filter (·.isForward) :=
      List.mem_filter.2 ⟨Entity.mem_relations_iff.2 (by rw [hjoin]; rfl), hr⟩
    have hown : t.key? row own = some key := by rw [(t.key?_eq_foreignKey? hjoin hr).1, hkey]
    have hnone := h r hmem
    simp only [hjoin, hown, Entity.key, hid, Option.bind_eq_bind, Option.bind_some] at hnone
    by_cases hk : isKey r.target key = true
    · exact hk
    · rw [if_neg hk] at hnone; contradiction
  · intro h r hmem
    obtain ⟨hrel, hr⟩ := List.mem_filter.1 hmem
    obtain ⟨⟨own, other⟩, hjoin⟩ := Option.isSome_iff_exists.1 (Entity.mem_relations_iff.1 hrel)
    have hown := (t.key?_eq_foreignKey? hjoin hr).1
    cases hkey : t.foreignKey? row r with
    | none => simp [hjoin, hown, hkey]
    | some key => simp [hjoin, hown, hkey, hid, Entity.key, h r key hkey]

/-- Whether a key is the id of a row, looked up as the checks do; no relation
with a foreign key leads to a view. -/
def isId (t : Tables) (e : Entity) (key : Int) : Bool :=
  match e with
  | .country => (Index.ofKeys (t.keys .country .id)).has key
  | .user => (Index.ofKeys (t.keys .user .id)).has key
  | .blog => (Index.ofKeys (t.keys .blog .id)).has key
  | .view => true

theorem violations_eq (t : Tables) :
    t.violations = [.country, .user, .blog, .view].flatMap t.duplicates ++
      [.user, .blog, .view].flatMap fun e => (t.rows e).flatMap (t.dangling t.isId) := rfl

/-- The target of a forward relation is looked up among the ids. -/
theorem isId_target (t : Tables) {r : Relation} (hr : r.isForward = true) (key : Int) :
    t.isId r.target key = true ↔ key ∈ t.ids r.target := by
  have hindex (e : Entity) :
      (Index.ofKeys (t.keys e .id)).has key = true ↔ key ∈ t.ids e := by
    rw [Index.has_ofKeys, keys_id]
    simp
  cases r <;> first | exact hindex _ | contradiction

/-! ## sound tables -/

/-- Tables without faults: the ids of a table differ, and whatever a row
refers to exists. -/
structure Sound (t : Tables) : Prop where
  nodup_ids : ∀ e, (t.ids e).Nodup
  mem_ids : ∀ row r key, t.foreignKey? row r = some key → key ∈ t.ids r.target

/-- The checks find no fault exactly in sound tables. -/
theorem violations_eq_nil_iff (t : Tables) : t.violations = [] ↔ t.Sound := by
  rw [violations_eq, List.append_eq_nil_iff]
  simp only [List.flatMap_eq_nil_iff, duplicates_eq_nil_iff]
  constructor
  · rintro ⟨hids, hrefs⟩
    refine ⟨fun e => hids e (by cases e <;> simp), fun row r key hkey => ?_⟩
    obtain ⟨hr, -⟩ := t.isForward_of_foreignKey? hkey
    obtain ⟨hrow, hentity⟩ := t.mem_rows_of_foreignKey? hkey
    have hnone := hrefs row.entity hentity row hrow
    exact (t.isId_target hr key).1 ((t.dangling_eq_nil_iff hrow).1 hnone r key hkey)
  · rintro ⟨hids, hrefs⟩
    refine ⟨fun e _ => hids e, fun e _ row hrow => ?_⟩
    obtain rfl : row.entity = e := by
      obtain ⟨i, -, rfl⟩ := List.mem_map.1 hrow
      rfl
    rw [t.dangling_eq_nil_iff hrow]
    intro r key hkey
    exact (t.isId_target (t.isForward_of_foreignKey? hkey).1 key).2 (hrefs row r key hkey)

/-- Tables are sound if their rows are, one by one. -/
theorem sound_of_rows {t : Tables} (hids : ∀ e, (t.ids e).Nodup)
    (hkeys : ∀ e, ∀ row ∈ t.rows e, ∀ r ∈ e.relations, ∀ key ∈ t.foreignKey? row r,
      key ∈ t.ids r.target) : t.Sound where
  nodup_ids := hids
  mem_ids row r key h := by
    obtain ⟨hrow, -⟩ := t.mem_rows_of_foreignKey? h
    obtain ⟨-, own, hjoin⟩ := t.isForward_of_foreignKey? h
    have hr : r ∈ row.entity.relations := Entity.mem_relations_iff.2 (by rw [hjoin]; rfl)
    exact hkeys row.entity row hrow r hr key h

end Tables

namespace Dataset

theorem sound (d : Dataset) : d.tables.Sound := d.tables.violations_eq_nil_iff.1 d.violations_eq

/-- A dataset keeps the tables it was made of. -/
theorem tables_of_ofTables {t : Tables} {d : Dataset} (h : ofTables t = .ok d) : d.tables = t := by
  unfold ofTables at h
  split at h
  · injection h with h
    rw [← h]
  · contradiction

/-- Sound tables are accepted. -/
theorem exists_ofTables {t : Tables} (h : t.Sound) : ∃ d, ofTables t = .ok d := by
  unfold ofTables
  split
  · exact ⟨_, rfl⟩
  · next v vs hv =>
    rw [t.violations_eq_nil_iff.2 h] at hv
    contradiction

end Dataset

/-! ## tables of small datasets -/

namespace Tables

/-- Two views of a blog that was written the month before, the second one
anonymous.  Indexes do not compute inside the logic, so that these tables are
sound is shown from their rows. -/
def sample : Tables where
  countries := #[⟨1, "Chile", "CL"⟩]
  users := #[{ id := 1, username := "ada", createdAt := .midnight january, country := some 1 }]
  blogs := #[{ id := 10, title := "Rust Tips", author := 1, createdAt := .midnight january }]
  views := #[
    { id := 1, blog := 10, viewer := some 1, country := some 1, viewedAt := .midnight february },
    { id := 2, blog := 10, viewedAt := .midnight february }]
where
  /-- 1 January 2024. -/
  january : Calendar.Date := ⟨738885, by decide, by decide⟩
  /-- 1 February 2024. -/
  february : Calendar.Date := ⟨738916, by decide, by decide⟩

theorem sound_sample : sample.Sound :=
  sound_of_rows (fun e => by cases e <;> decide) (fun e => by cases e <;> decide)

/-- The same with its blog written on the first day. -/
def earliest : Tables := { sample with
  blogs := #[{ id := 10, title := "Rust Tips", author := 1, createdAt := .midnight .first }] }

theorem sound_earliest : earliest.Sound :=
  sound_of_rows (fun e => by cases e <;> decide) (fun e => by cases e <;> decide)

/-- The sample and a blog by another user, written in the month of its one view. -/
def twoAuthors : Tables := { sample with
  users := sample.users.push { id := 2, username := "bob", createdAt := .midnight sample.january }
  blogs := sample.blogs.push
    { id := 11, title := "Go Tips", author := 2, createdAt := .midnight sample.february }
  views := sample.views.push { id := 3, blog := 11, viewedAt := .midnight sample.february } }

theorem sound_twoAuthors : twoAuthors.Sound :=
  sound_of_rows (fun e => by cases e <;> decide) (fun e => by cases e <;> decide)

/-- Three views around the end of 2016: in its leap second, at the midnight after
it, which is in the same week, and on the next Monday. -/
def turnOfYear : Tables where
  countries := #[]
  users := #[{ id := 1, username := "ada", createdAt := .midnight monday }]
  blogs := #[{ id := 10, title := "Rust Tips", author := 1, createdAt := .midnight monday }]
  views := #[
    { id := 1, blog := 10, viewedAt := ⟨⟨736328, by decide, by decide⟩, 86399, 1500000000,
      by decide, by decide, by decide⟩ },
    { id := 2, blog := 10, viewedAt := .midnight ⟨736329, by decide, by decide⟩ },
    { id := 3, blog := 10, viewer := some 1,
      viewedAt := .midnight ⟨736330, by decide, by decide⟩ }]
where
  /-- 26 December 2016. -/
  monday : Calendar.Date := ⟨736323, by decide, by decide⟩

theorem sound_turnOfYear : turnOfYear.Sound :=
  sound_of_rows (fun e => by cases e <;> decide) (fun e => by cases e <;> decide)

/-- The same without the view of New Year's Day. -/
def quietNewYear : Tables := { turnOfYear with
  views := turnOfYear.views.filter (·.id ≠ 2) }

theorem sound_quietNewYear : quietNewYear.Sound :=
  sound_of_rows (fun e => by cases e <;> decide) (fun e => by cases e <;> decide)

end Tables

end Readership
