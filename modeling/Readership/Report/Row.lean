import Readership.Json.Basic

/-!
# Readership.Report.Row

Rows of reports.

Every report is a list of rows with three cells.  The first names something, the other two hold a
count or a label each; which of them counts views depends on the report.
-/

namespace Readership

inductive Cell where
  | count (n : Int)
  | label (s : String)
deriving DecidableEq, Repr, Inhabited

def Cell.text : Cell → String
  | count n => toString n
  | label s => s

def Cell.json : Cell → Json
  | count n => Json.ofInt n
  | label s => .string s

structure Row where
  /-- What the row is about. -/
  x : String
  y : Cell
  z : Cell
deriving DecidableEq, Repr, Inhabited

/-- The count of views in a row: the last cell if it is a count, else the one before it. -/
def Row.views? (r : Row) : Option Int :=
  match r.y, r.z with
  | _, .count n => some n
  | .count n, .label _ => some n
  | .label _, .label _ => none

def Row.json (r : Row) : Json :=
  Json.ofMembers [("x", .string r.x), ("y", r.y.json), ("z", r.z.json)]

end Readership
