import Readership.Dataset.Integrity
import Readership.Schema.Path

/-!
# Readership.Dataset.Basic

The dataset: tables without faults, and indexes to follow relations by.

* `Dataset.ofTables` accepts exactly the tables without faults and tells the first fault of any
  other.
* `Dataset.follow` goes from a row to the rows it is related to, through an index;
  `Tables.related` is the scan of the target table that it stands for (`follow_eq_related`).
* `Dataset.values` are the values at the end of a path, one for each way to get there.
-/

namespace Readership

/-! ## indexes -/

/-- The indexes that relations go by: of each key, and of each column that refers to a key. -/
structure Indexes where
  countryId : Index
  userId : Index
  blogId : Index
  viewBlog : Index
  viewViewer : Index
  viewCountry : Index
  blogAuthor : Index
  blogCountry : Index
  userCountry : Index

namespace Indexes

def ofTables (t : Tables) : Indexes where
  countryId := .ofKeys (t.keys .country .id)
  userId := .ofKeys (t.keys .user .id)
  blogId := .ofKeys (t.keys .blog .id)
  viewBlog := .ofKeys (t.keys .view .blogId)
  viewViewer := .ofKeys (t.keys .view .viewerId)
  viewCountry := .ofKeys (t.keys .view .countryId)
  blogAuthor := .ofKeys (t.keys .blog .authorId)
  blogCountry := .ofKeys (t.keys .blog .countryId)
  userCountry := .ofKeys (t.keys .user .countryId)

/-- The index of a column that some relation joins. -/
def get? (x : Indexes) : Entity → Column → Option Index
  | .country, .id => some x.countryId
  | .user, .id => some x.userId
  | .blog, .id => some x.blogId
  | .view, .blogId => some x.viewBlog
  | .view, .viewerId => some x.viewViewer
  | .view, .countryId => some x.viewCountry
  | .blog, .authorId => some x.blogAuthor
  | .blog, .countryId => some x.blogCountry
  | .user, .countryId => some x.userCountry
  | _, _ => none

/-- An index answers for its own column. -/
theorem get?_ofTables {t : Tables} {e : Entity} {c : Column} {x : Index}
    (h : (ofTables t).get? e c = some x) : x = .ofKeys (t.keys e c) := by
  cases e <;> cases c <;> simp_all [get?, ofTables]

/-- Every column that a relation leads to has an index. -/
theorem get?_isSome_of_join? (x : Indexes) {e : Entity} {r : Relation} {own other : Column}
    (h : e.join? r = some (own, other)) : (x.get? r.target other).isSome := by
  cases e <;> cases r <;> simp_all [Entity.join?] <;> obtain ⟨-, rfl⟩ := h <;>
    rfl

end Indexes

/-! ## datasets -/

/-- Tables without faults, with their indexes. -/
structure Dataset where
  tables : Tables
  indexes : Indexes
  violations_eq : tables.violations = []
  indexes_eq : indexes = .ofTables tables

/-- The dataset of tables without faults, or the first fault. -/
def Dataset.ofTables (t : Tables) : Except Violation Dataset :=
  match h : t.violations with
  | [] => .ok ⟨t, .ofTables t, h, rfl⟩
  | v :: _ => .error v

namespace Tables

/-- The rows that a relation leads to from a row, found by a scan of the target table. -/
def related (t : Tables) (row : RowRef) (r : Relation) : List RowRef :=
  match row.entity.join? r with
  | none => []
  | some (own, other) =>
    match t.key? row own with
    | none => []
    | some key => (Index.scan key 0 (t.keys r.target other)).map (⟨r.target, ·⟩)

end Tables

namespace Dataset

/-- The rows of a table that hold a key in a column. -/
def rowsWith (d : Dataset) (e : Entity) (c : Column) (key : Int) : List RowRef :=
  match d.indexes.get? e c with
  | some index => (index.positions key).map (⟨e, ·⟩)
  | none => []

/-- The rows that a relation leads to from a row, in storage order.  A missing key leads to none,
and neither does a relation that the row's table does not have. -/
def follow (d : Dataset) (row : RowRef) (r : Relation) : List RowRef :=
  match row.entity.join? r with
  | none => []
  | some (own, other) =>
    match d.tables.key? row own with
    | none => []
    | some key => d.rowsWith r.target other key

/-- Following a relation through an index finds what a scan finds. -/
theorem follow_eq_related (d : Dataset) (row : RowRef) (r : Relation) :
    d.follow row r = d.tables.related row r := by
  simp only [follow, Tables.related]
  split
  · rfl
  · next own other hjoin =>
    split
    · rfl
    · next key _ =>
      obtain ⟨x, hx⟩ := Option.isSome_iff_exists.1 (d.indexes.get?_isSome_of_join? hjoin)
      have hcol : x = .ofKeys (d.tables.keys r.target other) :=
        Indexes.get?_ofTables (d.indexes_eq ▸ hx)
      simp only [rowsWith, hx, hcol, Index.positions_ofKeys]

def read (d : Dataset) (row : RowRef) (c : Column) : Value := d.tables.read row c

/-- The rows that a chain of relations leads to, one for each way to get there. -/
def reach (d : Dataset) (row : RowRef) : List Relation → List RowRef
  | [] => [row]
  | r :: rest => (d.follow row r).flatMap (d.reach · rest)

/-- The values that a path takes for a row, in order and with repetitions.  There are none where a
key on the way is missing or nothing refers to a row. -/
def values (d : Dataset) (row : RowRef) (field : FieldPath) : List Value :=
  (d.reach row field.hops).map (d.read · field.column)

/-! ## rows by key -/

def country? (d : Dataset) (id : Int) : Option Country :=
  d.indexes.countryId.find? id d.tables.countries

def user? (d : Dataset) (id : Int) : Option User := d.indexes.userId.find? id d.tables.users

def blog? (d : Dataset) (id : Int) : Option Blog := d.indexes.blogId.find? id d.tables.blogs

end Dataset

end Readership
