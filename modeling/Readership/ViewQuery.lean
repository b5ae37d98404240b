import Std.Data.HashSet
import Readership.RowFilter

/-!
# Readership.ViewQuery

Selections of views.

A `ViewQuery` only records filters, all of which have to hold; `ViewQuery.rows` finds the views of
a dataset that it selects, in storage order and each key once.
-/

namespace Readership

open Calendar

structure ViewQuery where
  filters : List RowFilter := []
deriving Inhabited

namespace ViewQuery

def everything : ViewQuery := {}

/-- The views that pass one more filter; one that says nothing is not recorded. -/
def filter (q : ViewQuery) (f : RowFilter) : ViewQuery :=
  if f.isAlways then q else ⟨q.filters ++ [f]⟩

def viewedAt : FieldPath := ⟨"viewed_at", [], .viewedAt⟩

def authorId : FieldPath := ⟨"blog.author_id", [.blog], .authorId⟩

/-- The views from `start` to `finish`, both included. -/
def between (q : ViewQuery) (start finish : Instant) : ViewQuery :=
  (q.filter (.test viewedAt (.greaterOrEqual (.timestamp start)))).filter
    (.test viewedAt (.lessOrEqual (.timestamp finish)))

def authoredBy (q : ViewQuery) (author : Int) : ViewQuery :=
  q.filter (.test authorId (.exact (.integer author)))

/-- The paths of `between` and `authoredBy` are what their texts resolve to. -/
theorem resolve_viewedAt : (Entity.view.resolve "viewed_at").toOption = some viewedAt := by
  decide +kernel

theorem resolve_authorId : (Entity.view.resolve "blog.author_id").toOption = some authorId := by
  decide +kernel

/-- Whether every filter holds of the view at a position. -/
def selects (q : ViewQuery) (d : Dataset) (position : Nat) : Bool :=
  q.filters.all (·.holds d ⟨.view, position⟩)

/-- The views of a list whose keys did not occur before. -/
def distinct (seen : Std.HashSet Int) : List View → List View
  | [] => []
  | v :: vs => if v.id ∈ seen then distinct seen vs else v :: distinct (seen.insert v.id) vs

/-- The views that a query selects. -/
def rows (q : ViewQuery) (d : Dataset) : List View :=
  distinct ∅ ((d.tables.views.toList.zipIdx.filter fun (_, i) => q.selects d i).map (·.1))

def ids (q : ViewQuery) (d : Dataset) : List Int := (q.rows d).map (·.id)

def count (q : ViewQuery) (d : Dataset) : Nat := (q.rows d).length

def filterCount (q : ViewQuery) : Nat := q.filters.length

end ViewQuery

end Readership
