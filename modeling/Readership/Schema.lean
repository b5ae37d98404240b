import Readership.Value

/-!
# Readership.Schema

The four tables of the dataset, their columns and their relations.

A view is one reading of a blog by a viewer, who may be unknown; blogs have an author, and
countries belong to users, blogs and views.  Names that several tables share mean the same there:
a `country` relation leads to at most one country from wherever it starts.

* `Entity.columns` and `Entity.relations` list what a table has, keys first.
* `Entity.column?` and `Entity.relation?` find them by name.
* `Entity.join?` says what a relation means: equal entries in two columns.
-/

namespace Readership

inductive Entity where
  | view
  | blog
  | user
  | country
deriving DecidableEq, Repr, Inhabited

/-- How many rows a relation yields for a row. -/
inductive Cardinality where
  /-- A key that every row has. -/
  | one
  /-- A key that may be missing. -/
  | optional
  /-- The rows that refer to this one. -/
  | many
deriving DecidableEq, Repr, Inhabited

inductive Column where
  | id
  | viewedAt
  | ipAddress
  | blogId
  | viewerId
  | countryId
  | title
  | content
  | createdAt
  | updatedAt
  | isPublished
  | authorId
  | username
  | email
  | firstName
  | lastName
  | bio
  | isActive
  | name
  | code
deriving DecidableEq, Repr, Inhabited

/-- A step from a row to rows of another table. -/
inductive Relation where
  | blog
  | viewer
  | country
  | author
  | views
  | blogs
  | viewedBlogs
  | users
  | blogViews
deriving DecidableEq, Repr, Inhabited

namespace Cardinality

def name : Cardinality → String
  | one => "one"
  | optional => "optional"
  | many => "many"

end Cardinality

namespace Column

/-- The name that paths use. -/
def label : Column → String
  | id => "id"
  | viewedAt => "viewed_at"
  | ipAddress => "ip_address"
  | blogId => "blog_id"
  | viewerId => "viewer_id"
  | countryId => "country_id"
  | title => "title"
  | content => "content"
  | createdAt => "created_at"
  | updatedAt => "updated_at"
  | isPublished => "is_published"
  | authorId => "author_id"
  | username => "username"
  | email => "email"
  | firstName => "first_name"
  | lastName => "last_name"
  | bio => "bio"
  | isActive => "is_active"
  | name => "name"
  | code => "code"

def type : Column → FieldType
  | id | blogId | viewerId | countryId | authorId => .integer
  | viewedAt | createdAt | updatedAt => .timestamp
  | isPublished | isActive => .boolean
  | ipAddress | title | content | username | email | firstName | lastName | bio | name | code =>
    .text

end Column

namespace Relation

/-- The name that paths use. -/
def label : Relation → String
  | blog => "blog"
  | viewer => "viewer"
  | country => "country"
  | author => "author"
  | views => "views"
  | blogs => "blogs"
  | viewedBlogs => "viewed_blogs"
  | users => "users"
  | blogViews => "blog_views"

def target : Relation → Entity
  | blog | blogs => .blog
  | viewer | author | users => .user
  | country => .country
  | views | viewedBlogs | blogViews => .view

def cardinality : Relation → Cardinality
  | blog | author => .one
  | viewer | country => .optional
  | views | blogs | viewedBlogs | users | blogViews => .many

/-- Whether a relation goes by a key that the row itself holds. -/
def isForward (r : Relation) : Bool := r.cardinality != .many

end Relation

namespace Entity

def name : Entity → String
  | view => "view"
  | blog => "blog"
  | user => "user"
  | country => "country"

def all : List Entity := [view, blog, user, country]

/-- What can be read from a row of a table, the key first. -/
def columns : Entity → List Column
  | view => [.id, .viewedAt, .ipAddress, .blogId, .viewerId, .countryId]
  | blog =>
    [.id, .title, .content, .createdAt, .updatedAt, .isPublished, .authorId, .countryId]
  | user =>
    [.id, .username, .email, .firstName, .lastName, .bio, .isActive, .createdAt, .countryId]
  | country => [.id, .name, .code]

def relations : Entity → List Relation
  | view => [.blog, .viewer, .country]
  | blog => [.author, .country, .views]
  | user => [.country, .blogs, .viewedBlogs]
  | country => [.users, .blogs, .blogViews]

def column? (e : Entity) (name : String) : Option Column :=
  e.columns.find? (·.label == name)

def relation? (e : Entity) (name : String) : Option Relation :=
  e.relations.find? (·.label == name)

def key (_ : Entity) : Column := .id

/-- The columns that a relation from a table joins, its own and the one of the target; a row is
related to the rows of the target that hold in the second what it holds in the first. -/
def join? : Entity → Relation → Option (Column × Column)
  | view, .blog => some (.blogId, .id)
  | view, .viewer => some (.viewerId, .id)
  | view, .country => some (.countryId, .id)
  | blog, .author => some (.authorId, .id)
  | blog, .country => some (.countryId, .id)
  | blog, .views => some (.id, .blogId)
  | user, .country => some (.countryId, .id)
  | user, .blogs => some (.id, .authorId)
  | user, .viewedBlogs => some (.id, .viewerId)
  | country, .users => some (.id, .countryId)
  | country, .blogs => some (.id, .countryId)
  | country, .blogViews => some (.id, .countryId)
  | _, _ => none

/-- What a table is called in messages about its rows. -/
def tableName : Entity → String
  | view => "views"
  | blog => "blogs"
  | user => "users"
  | country => "countries"

/-- The names of all columns and relations in order, as offered in messages. -/
def choices (e : Entity) : String :=
  let names := e.columns.map (·.label) ++ e.relations.map (·.label)
  String.intercalate ", " (names.mergeSort (fun a b => decide (a ≤ b)))

end Entity

end Readership
