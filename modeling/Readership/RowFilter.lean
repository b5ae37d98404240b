import Readership.Dataset.Basic
import Readership.Lookup

/-!
# Readership.RowFilter

Boolean filters over rows.

A filter is a tree of tests on field paths.  `RowFilter.holds` evaluates it on a row of a dataset;
all of no filters holds of every row, any of none of no row.
-/

namespace Readership

inductive RowFilter where
  | always
  /-- A value at the end of a path passes a test. -/
  | test (field : FieldPath) (lookup : Lookup)
  | all (filters : List RowFilter)
  | any (filters : List RowFilter)
  | not (filter : RowFilter)
deriving Inhabited

namespace RowFilter

mutual

def holds (d : Dataset) (row : RowRef) : RowFilter → Bool
  | always => true
  | test field lookup => lookup.testAny (d.values row field)
  | all filters => holdsAll d row filters
  | any filters => holdsAny d row filters
  | not filter => !holds d row filter

def holdsAll (d : Dataset) (row : RowRef) : List RowFilter → Bool
  | [] => true
  | f :: fs => holds d row f && holdsAll d row fs

def holdsAny (d : Dataset) (row : RowRef) : List RowFilter → Bool
  | [] => false
  | f :: fs => holds d row f || holdsAny d row fs

end

theorem holdsAll_eq (d : Dataset) (row : RowRef) (fs : List RowFilter) :
    holdsAll d row fs = fs.all (holds d row) := by
  induction fs with
  | nil => rfl
  | cons f fs ih => simp [holdsAll, ih]

theorem holdsAny_eq (d : Dataset) (row : RowRef) (fs : List RowFilter) :
    holdsAny d row fs = fs.any (holds d row) := by
  induction fs with
  | nil => rfl
  | cons f fs ih => simp [holdsAny, ih]

/-- Whether a filter says nothing. -/
def isAlways : RowFilter → Bool
  | always => true
  | _ => false

end RowFilter

end Readership
