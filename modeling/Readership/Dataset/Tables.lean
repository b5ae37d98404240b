import Readership.Schema

/-!
# Readership.Dataset.Tables

Rows as they are stored, and the values that the schema reads from them.

`Tables.read` gives every row one value per column.  Columns that belong to another table, and
rows beyond the end of a table, read as null, so reading never fails.
-/

namespace Readership

open Calendar

structure Country where
  id : Int
  name : String
  code : String
deriving DecidableEq, Inhabited

structure User where
  id : Int
  username : String
  email : String := ""
  firstName : String := ""
  lastName : String := ""
  bio : String := ""
  isActive : Bool := true
  createdAt : Instant
  country : Option Int := none
deriving DecidableEq, Inhabited

structure Blog where
  id : Int
  title : String
  content : String := ""
  author : Int
  country : Option Int := none
  createdAt : Instant
  updatedAt : Option Instant := none
  isPublished : Bool := true
deriving DecidableEq, Inhabited

/-- One view of a blog; without a viewer it is anonymous. -/
structure View where
  id : Int
  blog : Int
  viewer : Option Int := none
  country : Option Int := none
  viewedAt : Instant
  ipAddress : Option String := none
deriving DecidableEq, Inhabited

/-! ## reading rows -/

def Country.read (c : Country) : Column → Value
  | .id => .integer c.id
  | .name => .text c.name
  | .code => .text c.code
  | _ => .null

def User.read (u : User) : Column → Value
  | .id => .integer u.id
  | .username => .text u.username
  | .email => .text u.email
  | .firstName => .text u.firstName
  | .lastName => .text u.lastName
  | .bio => .text u.bio
  | .isActive => .boolean u.isActive
  | .createdAt => .timestamp u.createdAt
  | .countryId => .ofKey? u.country
  | _ => .null

/-- The value of a blog in a column.  A blog that was never updated was last updated when it was
created. -/
def Blog.read (b : Blog) : Column → Value
  | .id => .integer b.id
  | .title => .text b.title
  | .content => .text b.content
  | .createdAt => .timestamp b.createdAt
  | .updatedAt => .timestamp (b.updatedAt.getD b.createdAt)
  | .isPublished => .boolean b.isPublished
  | .authorId => .integer b.author
  | .countryId => .ofKey? b.country
  | _ => .null

def View.read (v : View) : Column → Value
  | .id => .integer v.id
  | .viewedAt => .timestamp v.viewedAt
  | .ipAddress => v.ipAddress.elim .null .text
  | .blogId => .integer v.blog
  | .viewerId => .ofKey? v.viewer
  | .countryId => .ofKey? v.country
  | _ => .null

/-! ## tables -/

/-- The four tables, each in storage order. -/
structure Tables where
  countries : Array Country := #[]
  users : Array User := #[]
  blogs : Array Blog := #[]
  views : Array View := #[]
deriving Inhabited

/-- A row by its table and its position there. -/
structure RowRef where
  entity : Entity
  position : Nat
deriving DecidableEq, Repr, Inhabited

namespace Tables

def size (t : Tables) : Entity → Nat
  | .country => t.countries.size
  | .user => t.users.size
  | .blog => t.blogs.size
  | .view => t.views.size

/-- The rows of a table in storage order. -/
def rows (t : Tables) (e : Entity) : List RowRef := (List.range (t.size e)).map (⟨e, ·⟩)

def read (t : Tables) (row : RowRef) (c : Column) : Value :=
  match row.entity with
  | .country => (t.countries[row.position]?).elim .null (·.read c)
  | .user => (t.users[row.position]?).elim .null (·.read c)
  | .blog => (t.blogs[row.position]?).elim .null (·.read c)
  | .view => (t.views[row.position]?).elim .null (·.read c)

/-- The key that a row holds in a column, if it holds one. -/
def key? (t : Tables) (row : RowRef) (c : Column) : Option Int := (t.read row c).integer?

/-- The keys of a table in a column, in storage order. -/
def keys (t : Tables) (e : Entity) (c : Column) : List (Option Int) :=
  match e with
  | .country => t.countries.toList.map fun x => (x.read c).integer?
  | .user => t.users.toList.map fun x => (x.read c).integer?
  | .blog => t.blogs.toList.map fun x => (x.read c).integer?
  | .view => t.views.toList.map fun x => (x.read c).integer?

theorem length_keys (t : Tables) (e : Entity) (c : Column) : (t.keys e c).length = t.size e := by
  cases e <;> simp [keys, size]

/-- A row holds the key that stands at its position in the column. -/
theorem getElem?_keys (t : Tables) (e : Entity) (c : Column) (i : Nat) :
    (t.keys e c)[i]?.join = t.key? ⟨e, i⟩ c := by
  have pull {α : Type} (x : Option α) (f : α → Value) :
      (x.map fun a => (f a).integer?).join = (x.elim .null f).integer? := by
    cases x <;> rfl
  cases e <;> simp only [keys, key?, read, List.getElem?_map, Array.getElem?_toList, pull]

end Tables

end Readership
