import Readership.Proofs.Integrity

/-!
# Readership.Proofs.Join

Following relations through indexes against scanning the tables.

A nested scan knows no index.  For one hop it goes through the whole target
table and keeps the rows whose id is the key that the row at hand refers with
or, for a relation that is read backwards, the rows that refer with the id of
the row at hand.  A path repeats this hop by hop, starting from one row.

* `follow_eq_scanHop` -- one hop through an index is one hop of the scan;
* `flatMap_reach` -- so is a chain of hops, from any rows at once;
* `LooksUp.toList_eq` -- an index of ids finds the one row with an id;
* `values_eq_scanValues_and_lookups` -- all of it together, for every dataset.
-/

namespace Readership

namespace Relation

/-- The forward relation that a reverse relation reads backwards. -/
def converse? : Entity → Relation → Option Relation
  | .blog, .views => some .blog
  | .user, .blogs => some .author
  | .user, .viewedBlogs => some .viewer
  | .country, .users => some .country
  | .country, .blogs => some .country
  | .country, .blogViews => some .country
  | _, _ => none

/-- A relation that reads none backwards goes by a key that the row holds. -/
theorem isForward_of_converse?_eq_none {e : Entity} {r : Relation} (h : converse? e r = none)
    (hjoin : (e.join? r).isSome) : r.isForward = true := by
  revert h hjoin
  cases e <;> cases r <;> decide

/-- A relation read backwards joins the same columns the other way round. -/
theorem join?_converse {e : Entity} {r back : Relation} (h : converse? e r = some back) :
    back.isForward = true ∧
      ∃ c, e.join? r = some (.id, c) ∧ r.target.join? back = some (c, .id) := by
  cases e <;> cases r <;> cases h <;> exact ⟨rfl, _, rfl, rfl⟩

end Relation

/-! ## the nested scan -/

namespace Tables

/-- Whether a row holds the id of another as its key in a forward relation. -/
def refers (t : Tables) (row : RowRef) (r : Relation) (other : RowRef) : Bool :=
  (t.foreignKey? row r).any fun key => t.idOf? other = some key

/-- Whether a relation leads from one row to another, told from the keys that
the rows hold. -/
def leads (t : Tables) (row : RowRef) (r : Relation) (other : RowRef) : Bool :=
  match Relation.converse? row.entity r with
  | some back => t.refers other back row
  | none => t.refers row r other

/-- One hop of the scan: all rows of the target table that the relation leads
to, in table order. -/
def scanHop (t : Tables) (r : Relation) (row : RowRef) : List RowRef :=
  (t.rows r.target).filter (t.leads row r)

/-- The scan along a chain of relations; each hop puts in the place of every
row those it leads to. -/
def scanReach (t : Tables) (row : RowRef) (hops : List Relation) : List RowRef :=
  hops.foldl (fun rows r => rows.flatMap (t.scanHop r)) [row]

/-- The values that the scan finds at the end of a path. -/
def scanValues (t : Tables) (row : RowRef) (field : FieldPath) : List Value :=
  (t.scanReach row field.hops).map (t.read · field.column)

/-- A relation leads to the rows that hold in the one column what the row
holds in the other. -/
theorem leads_eq (t : Tables) {row other : RowRef} {r : Relation} {own column : Column}
    (hjoin : row.entity.join? r = some (own, column)) (hother : other.entity = r.target) :
    t.leads row r other = (t.key? row own).any fun key => t.key? other column = some key := by
  unfold leads
  split
  · next back hback =>
    obtain ⟨hforward, c, hrow, hrev⟩ := Relation.join?_converse hback
    obtain ⟨rfl, rfl⟩ : Column.id = own ∧ c = column := by simpa [hrow] using hjoin
    have hkey := (t.key?_eq_foreignKey? (hother ▸ hrev) hforward).1
    rw [refers, key?_id, hkey]
    cases t.foreignKey? other back <;> cases t.idOf? row <;> simp [eq_comm]
  · next hback =>
    have hforward := Relation.isForward_of_converse?_eq_none hback (by rw [hjoin]; rfl)
    obtain ⟨hkey, rfl⟩ := t.key?_eq_foreignKey? hjoin hforward
    rw [refers, hkey]
    simp only [key?_id]

/-- A relation that the table does not have leads nowhere. -/
theorem leads_eq_false (t : Tables) {row : RowRef} {r : Relation}
    (hjoin : row.entity.join? r = none) (other : RowRef) : t.leads row r other = false := by
  unfold leads
  split
  · next back hback =>
    obtain ⟨-, c, hrow, -⟩ := Relation.join?_converse hback
    rw [hrow] at hjoin
    contradiction
  · rw [refers]
    cases hkey : t.foreignKey? row r with
    | none => rfl
    | some key =>
        obtain ⟨-, own, hown⟩ := t.isForward_of_foreignKey? hkey
        rw [hown] at hjoin
        contradiction

end Tables

namespace Index

/-- A scan of a column keeps the positions at which the key stands. -/
theorem scan_eq_filter (key : Int) (n : Nat) (keys : List (Option Int)) :
    scan key n keys = (List.range' n keys.length).filter fun i => keys[i - n]?.join = some key := by
  induction keys generalizing n with
  | nil => rfl
  | cons k ks ih =>
      have hstep : (List.range' (n + 1) ks.length).filter
          (fun i => (k :: ks)[i - n]?.join = some key) = scan key (n + 1) ks := by
        rw [ih]
        apply List.filter_congr
        intro i hi
        have hle : n + 1 ≤ i := (List.mem_range'_1.1 hi).1
        have hsub : i - n = (i - (n + 1)) + 1 := by omega
        rw [hsub, List.getElem?_cons_succ]
      rw [List.length_cons, List.range'_succ, List.filter_cons, hstep, scan]
      simp

end Index

/-- The rows at the positions that a scan of a column finds. -/
theorem Tables.map_scan_keys (t : Tables) (e : Entity) (c : Column) (key : Int) :
    (Index.scan key 0 (t.keys e c)).map (⟨e, ·⟩) =
      (t.rows e).filter fun row => t.key? row c = some key := by
  rw [Index.scan_eq_filter, length_keys, rows, List.filter_map, List.range_eq_range']
  congr 1
  apply List.filter_congr
  intro i _
  simp [getElem?_keys]

/-! ## traversal -/

namespace Dataset

/-- Following a relation through the indexes finds what a scan of the target
table finds. -/
theorem follow_eq_scanHop (d : Dataset) (row : RowRef) (r : Relation) :
    d.follow row r = d.tables.scanHop r row := by
  have hentity {other : RowRef} (h : other ∈ d.tables.rows r.target) :
      other.entity = r.target := by
    obtain ⟨i, -, rfl⟩ := List.mem_map.1 h
    rfl
  rw [follow_eq_related, Tables.related, Tables.scanHop]
  split
  · next hjoin =>
    simp [d.tables.leads_eq_false hjoin]
  · next own column hjoin =>
    rw [List.filter_congr fun other h => d.tables.leads_eq hjoin (hentity h)]
    cases hkey : d.tables.key? row own with
    | none => simp
    | some key => exact d.tables.map_scan_keys r.target column key

/-- Whatever rows a chain of relations starts from, it leads where the hops of
the scan lead.  The scan works on all rows at once, so the induction on the
hops has to start from any of them. -/
theorem flatMap_reach (d : Dataset) (hops : List Relation) (frontier : List RowRef) :
    frontier.flatMap (d.reach · hops) =
      hops.foldl (fun rows r => rows.flatMap (d.tables.scanHop r)) frontier := by
  induction hops generalizing frontier with
  | nil => simp [reach]
  | cons r rest ih =>
      rw [List.foldl_cons, ← ih, List.flatMap_assoc]
      simp only [reach, follow_eq_scanHop]

theorem reach_eq_scanReach (d : Dataset) (row : RowRef) (hops : List Relation) :
    d.reach row hops = d.tables.scanReach row hops := by
  rw [Tables.scanReach, ← flatMap_reach, List.flatMap_singleton]

/-- The values of a path are those that the nested scan finds. -/
theorem values_eq_scanValues (d : Dataset) (row : RowRef) (field : FieldPath) :
    d.values row field = d.tables.scanValues row field := by
  rw [values, reach_eq_scanReach, Tables.scanValues]
  rfl

end Dataset

/-! ## rows by id -/

namespace Index

variable {α : Type} (f : α → Int)

/-- The first position that a scan finds is that of the first row with the
key. -/
theorem bind_head?_scan (xs : List α) (n : Nat) (key : Int) :
    ((scan key n (xs.map fun x => some (f x))).head?.bind fun i => xs[i - n]?) =
      xs.find? (f · = key) := by
  induction xs generalizing n with
  | nil => rfl
  | cons x xs ih =>
      rw [List.map_cons, scan]
      by_cases hx : f x = key
      · simp [hx]
      · have hshift : ∀ i ∈ (scan key (n + 1) (xs.map fun x => some (f x))).head?,
            (x :: xs)[i - n]? = xs[i - (n + 1)]? := by
          intro i hi
          have hle : n + 1 ≤ i := (mem_scan.1 (List.mem_of_mem_head? hi)).1
          rw [show i - n = (i - (n + 1)) + 1 by omega, List.getElem?_cons_succ]
        rw [if_neg (by simpa using hx), List.find?_cons_of_neg (by simpa using hx), ← ih (n + 1)]
        cases hhead : (scan key (n + 1) (xs.map fun x => some (f x))).head? with
        | none => rfl
        | some i => exact hshift i hhead

/-- Of rows with distinct keys at most one has a given key. -/
theorem toList_find?_key {xs : List α} (h : (xs.map f).Nodup) (key : Int) :
    (xs.find? (f · = key)).toList = xs.filter (f · = key) := by
  induction xs with
  | nil => rfl
  | cons x xs ih =>
      rw [List.map_cons, List.nodup_cons] at h
      by_cases hx : f x = key
      · have hnone : xs.filter (f · = key) = [] := by
          rw [List.filter_eq_nil_iff]
          intro y hy hkey
          exact h.1 (List.mem_map.2 ⟨y, hy, by rw [hx]; exact of_decide_eq_true hkey⟩)
        rw [List.find?_cons_of_pos (by simpa using hx),
          List.filter_cons_of_pos (by simpa using hx), hnone]
        rfl
      · rw [List.find?_cons_of_neg (by simpa using hx),
          List.filter_cons_of_neg (by simpa using hx), ih h.2]

/-- The index of a column finds the row that a search of the table stops at. -/
theorem find?_ofKeys (table : Array α) (key : Int) :
    (ofKeys (table.toList.map fun x => some (f x))).find? key table =
      table.toList.find? (f · = key) := by
  rw [find?, positions_ofKeys, ← bind_head?_scan f _ 0]
  simp only [Array.getElem?_toList]
  rfl

end Index

/-- What it means that a lookup finds the rows of a table by their ids, each of
which only one row has. -/
structure LooksUp {α : Type} (lookup : Int → Option α) (table : Array α) (idOf : α → Int) :
    Prop where
  nodup : (table.toList.map idOf).Nodup
  eq_find? : ∀ id, lookup id = table.toList.find? (idOf · = id)

namespace LooksUp

/-- Looking up an id finds the only row with that id, and nothing if there is
none. -/
theorem toList_eq {α : Type} {lookup : Int → Option α} {table : Array α} {idOf : α → Int}
    (h : LooksUp lookup table idOf) (id : Int) :
    (lookup id).toList = table.toList.filter (idOf · = id) := by
  rw [h.eq_find?, Index.toList_find?_key idOf h.nodup]

end LooksUp

namespace Dataset

/-- The index of ids of a table finds its rows by them. -/
theorem looksUp_find? (d : Dataset) (e : Entity) {α : Type} {index : Index} {table : Array α}
    {idOf : α → Int} (hindex : d.indexes.get? e .id = some index)
    (hids : d.tables.ids e = table.toList.map idOf) :
    LooksUp (fun id => index.find? id table) table idOf where
  nodup := hids ▸ d.sound.nodup_ids e
  eq_find? id := by
    have hkeys : index = .ofKeys (d.tables.keys e .id) :=
      Indexes.get?_ofTables (d.indexes_eq ▸ hindex)
    rw [hkeys, Tables.keys_id, hids, List.map_map]
    exact Index.find?_ofKeys idOf table id

theorem looksUp_country (d : Dataset) : LooksUp d.country? d.tables.countries (·.id) :=
  d.looksUp_find? .country rfl rfl

theorem looksUp_user (d : Dataset) : LooksUp d.user? d.tables.users (·.id) :=
  d.looksUp_find? .user rfl rfl

theorem looksUp_blog (d : Dataset) : LooksUp d.blog? d.tables.blogs (·.id) :=
  d.looksUp_find? .blog rfl rfl

/-- **Indexed traversal is the nested scan**: in every dataset the values of
every path from every row are, in order and with repetitions, those that the
scan of the tables finds, and a lookup by id finds the only row of the table
that has it. -/
theorem values_eq_scanValues_and_lookups (d : Dataset) :
    (∀ (row : RowRef) (field : FieldPath),
      d.values row field = d.tables.scanValues row field) ∧
    (∀ id, (d.country? id).toList = d.tables.countries.toList.filter (·.id = id)) ∧
    (∀ id, (d.user? id).toList = d.tables.users.toList.filter (·.id = id)) ∧
    (∀ id, (d.blog? id).toList = d.tables.blogs.toList.filter (·.id = id)) :=
  ⟨d.values_eq_scanValues, d.looksUp_country.toList_eq, d.looksUp_user.toList_eq,
    d.looksUp_blog.toList_eq⟩

end Dataset

end Readership
