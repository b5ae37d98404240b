import Readership.Report.Grouping
import Readership.Report.Row
import Readership.ViewQuery

/-!
# Readership.Report.Ranking

Countries, users and blogs by their views.

* `groupedCounts` counts the selected views and the blogs they are of, by the name of a country or
  of a viewer.  Those of one name share a row.  Views without the key are left out.
* `top` ranks users and blogs by themselves, or countries as `groupedCounts` does, and keeps the
  first `topLimit`.

Both read names through the keys that views hold, and fail with the key if it leads to no row.

The more views, the earlier the row; with as many views, the earlier name in code point order, and
of one name the lower key.
-/

namespace Readership.Report

inductive GroupDimension where
  | country
  | user
deriving DecidableEq, Repr, Inhabited

inductive TopDimension where
  | user
  | country
  | blog
deriving DecidableEq, Repr, Inhabited

/-! ## standings -/

structure Standing where
  name : String
  /-- Tells entries of one name apart. -/
  id : Int
  /-- What is said beside the name. -/
  note : Cell
  views : Nat
deriving DecidableEq, Repr, Inhabited

namespace Standing

def order (a b : Standing) : Ordering :=
  ((compare b.views a.views).then (compare a.name b.name)).then (compare a.id b.id)

def toRow (s : Standing) : Row := ⟨s.name, s.note, .count s.views⟩

end Standing

def rank (entries : List Standing) : List Standing :=
  entries.mergeSort fun a b => (Standing.order a b).isLE

def ranked (entries : List Standing) : List Row := (rank entries).map (·.toRow)

/-! ## rows that keys lead to -/

/-- A key that leads to no row of a table. -/
structure MissingRow where
  entity : Entity
  id : Int
deriving DecidableEq, Repr

def MissingRow.message (e : MissingRow) : String :=
  e.entity.tableName ++ " row " ++ toString e.id ++ " not found"

/-- The row that a key leads to, if it was found. -/
def found {α : Type} (entity : Entity) (id : Int) (row : Option α) : Except MissingRow α :=
  match row with
  | some row => .ok row
  | none => .error ⟨entity, id⟩

def countryName (d : Dataset) (id : Int) : Except MissingRow String :=
  (found .country id (d.country? id)).map (·.name)

def username (d : Dataset) (id : Int) : Except MissingRow String :=
  (found .user id (d.user? id)).map (·.username)

/-! ## counts by name -/

/-- The key that a view is counted by. -/
def groupKey (dimension : GroupDimension) (v : View) : Option Int :=
  match dimension with
  | .country => v.country
  | .user => v.viewer

/-- The name that a key is counted under. -/
def groupName (d : Dataset) (dimension : GroupDimension) (id : Int) : Except MissingRow String :=
  match dimension with
  | .country => countryName d id
  | .user => username d id

/-- The views that have the key, each with the name that it is counted under. -/
def namedViews (d : Dataset) (dimension : GroupDimension) :
    List View → Except MissingRow (List (String × View))
  | [] => .ok []
  | v :: vs =>
    match groupKey dimension v with
    | none => namedViews d dimension vs
    | some id =>
      match groupName d dimension id with
      | .error e => .error e
      | .ok name => (namedViews d dimension vs).map ((name, v) :: ·)

/-- How many blogs some views are of. -/
def blogCount (views : List View) : Nat := (groupBy (fun v => some v.blog) views).size

/-- The entry of the views that are counted under a name. -/
def nameStanding (name : String) (views : List View) : Standing :=
  ⟨name, 0, .count (blogCount views), views.length⟩

/-- Views and viewed blogs by name. -/
def groupedCounts (d : Dataset) (q : ViewQuery) (dimension : GroupDimension) :
    Except MissingRow (List Row) :=
  (namedViews d dimension (q.rows d)).map fun named =>
    let groups := groupBy (fun n => some n.1) named
    ranked (groups.toList.map fun (name, views) => nameStanding name (views.map (·.2)))

/-! ## rankings -/

/-- The most rows that a ranking has. -/
def topLimit : Nat := 10

/-- What is said of a user without a country. -/
def unknownCountry : String := "Unknown"

def countryOf (d : Dataset) (u : User) : Except MissingRow String :=
  match u.country with
  | some id => countryName d id
  | none => .ok unknownCountry

def userStanding (d : Dataset) (id : Int) (views : Nat) : Except MissingRow Standing := do
  let u ← found .user id (d.user? id)
  let country ← countryOf d u
  pure ⟨u.username, id, .label country, views⟩

def blogStanding (d : Dataset) (id : Int) (views : Nat) : Except MissingRow Standing := do
  let b ← found .blog id (d.blog? id)
  let author ← username d b.author
  pure ⟨b.title, id, .label author, views⟩

/-- An entry for each key that some views have.  Of several keys that lead to no row the lowest is
told. -/
def standings (key : View → Option Int) (entry : Int → Nat → Except MissingRow Standing)
    (views : List View) : Except MissingRow (List Standing) :=
  (groupBy key views).toList.mapM fun (id, views) => entry id views.length

/-- Users, countries or blogs by their selected views. -/
def ranking (d : Dataset) (q : ViewQuery) (dimension : TopDimension) :
    Except MissingRow (List Row) :=
  match dimension with
  | .country => groupedCounts d q .country
  | .user => (standings (·.viewer) (userStanding d) (q.rows d)).map ranked
  | .blog => (standings (fun v => some v.blog) (blogStanding d) (q.rows d)).map ranked

/-- The users, countries or blogs with the most selected views. -/
def top (d : Dataset) (q : ViewQuery) (dimension : TopDimension) : Except MissingRow (List Row) :=
  (ranking d q dimension).map (·.take topLimit)

end Readership.Report
