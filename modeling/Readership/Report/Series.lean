import Readership.Growth
import Readership.Period
import Readership.Report.Grouping
import Readership.Report.Row
import Readership.ViewQuery

/-!
# Readership.Report.Series

Views and new blogs per period.

A series has a row for every period with a selected view or a given blog, the earliest first.  The
row names the period and the number of blogs created in it, counts its views and tells their growth
over the period that the baseline picks.
-/

namespace Readership.Report

open Calendar

/-- The periods of some instants, or the first that is out of range. -/
def periodsOf (g : Granularity) : List Instant → Except Period.OutOfRange (List Date)
  | [] => .ok []
  | t :: ts =>
    match Period.truncate t g with
    | .error e => .error e
    | .ok p => (periodsOf g ts).map (p :: ·)

/-- How often a period occurs. -/
def countOf (groups : Groups Date Date) (p : Date) : Nat := (members groups p).length

/-- The number of views that a period's count is compared with. -/
def reference (views : Groups Date Date) (g : Granularity) (baseline : Baseline) (before : Nat)
    (p : Date) : Except Period.OutOfRange Nat :=
  match baseline with
  | .sequential => .ok before
  | .calendar => (Period.previous p g).map (countOf views)

/-- The rows of some periods, the one before them having had `before` views. -/
def seriesRows (views blogs : Groups Date Date) (g : Granularity) (baseline : Baseline) :
    (before : Nat) → List Date → Except Period.OutOfRange (List Row)
  | _, [] => .ok []
  | before, p :: ps =>
    match reference views g baseline before p with
    | .error e => .error e
    | .ok n =>
      let current := countOf views p
      let row : Row :=
        ⟨Period.label p g (countOf blogs p), .count current, .label (Growth.text current n)⟩
      (seriesRows views blogs g baseline current ps).map (row :: ·)

/-- The series of the selected views and of some blogs. -/
def series (d : Dataset) (q : ViewQuery) (blogs : List Blog) (g : Granularity)
    (baseline : Baseline) : Except Period.OutOfRange (List Row) :=
  match periodsOf g ((q.rows d).map (·.viewedAt)) with
  | .error e => .error e
  | .ok viewPeriods =>
    match periodsOf g (blogs.map (·.createdAt)) with
    | .error e => .error e
    | .ok blogPeriods =>
      seriesRows (groupBy some viewPeriods) (groupBy some blogPeriods) g baseline 0
        (groupBy some (viewPeriods ++ blogPeriods)).keys

end Readership.Report
