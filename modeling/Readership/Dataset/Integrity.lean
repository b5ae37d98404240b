import Std.Data.HashSet
import Readership.Dataset.Index
import Readership.Dataset.Tables

/-!
# Readership.Dataset.Integrity

What may be wrong with tables: two rows of a table with one key, and keys that refer to no row.

`Tables.violations` lists all of it in the order of the checks.  First come the keys that occurred
before, by countries, users, blogs and views; then, row by row, the references of users, blogs and
views, each row's in the order of its relations.
-/

namespace Readership

inductive Violation where
  /-- A row has the key of an earlier row of its table. -/
  | duplicateId (entity : Entity) (id : Int)
  /-- A row refers to a row that does not exist. -/
  | missingReference (entity : Entity) (id : Int) (relation : Relation) (target : Int)
deriving DecidableEq, Repr

def Violation.message : Violation → String
  | duplicateId entity id =>
    "Dataset integrity error: duplicate id " ++ toString id ++ " in " ++ entity.tableName
  | missingReference entity id relation target =>
    "Dataset integrity error: " ++ entity.tableName ++ " row " ++ toString id ++
      " references missing " ++ relation.label ++ " " ++ toString target

namespace Tables

/-- The keys that occurred before, each as often as it does so. -/
def repeats (seen : Std.HashSet Int) : List Int → List Int
  | [] => []
  | k :: ks => if k ∈ seen then k :: repeats seen ks else repeats (seen.insert k) ks

/-- The rows that have the key of an earlier one. -/
def duplicates (t : Tables) (e : Entity) : List Violation :=
  (repeats ∅ ((t.keys e e.key).filterMap id)).map (.duplicateId e)

/-- The references of a row that lead to no row, given how to tell. -/
def dangling (t : Tables) (isKey : Entity → Int → Bool) (row : RowRef) : List Violation :=
  (row.entity.relations.filter (·.isForward)).filterMap fun r => do
    let (own, _) ← row.entity.join? r
    let target ← t.key? row own
    let id ← t.key? row row.entity.key
    if isKey r.target target then none
    else some (.missingReference row.entity id r target)

/-- All faults of tables, in the order of the checks. -/
def violations (t : Tables) : List Violation :=
  let ids (e : Entity) := Index.ofKeys (t.keys e e.key)
  let countries := ids .country
  let users := ids .user
  let blogs := ids .blog
  let isKey (e : Entity) (key : Int) : Bool :=
    match e with
    | .country => countries.has key
    | .user => users.has key
    | .blog => blogs.has key
    | .view => true
  [.country, .user, .blog, .view].flatMap t.duplicates ++
    [.user, .blog, .view].flatMap fun e => (t.rows e).flatMap (t.dangling isKey)

end Tables

end Readership
