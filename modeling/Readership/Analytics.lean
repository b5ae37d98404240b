import Readership.Filter.Basic
import Readership.Report.Series
import Readership.Request

/-!
# Readership.Analytics

Answers to requests.

* `groupedCounts`, `topRows` and `performanceSeries` are the three reports with their parameters
  read and their filter still a tree.
* `blogViews`, `top` and `performance` answer requests: they read the parameters in a fixed order,
  and the first that is wrong decides the error.

Every error but three is the client's: periods out of range, keys that lead to no row, and a window
that would start before the earliest date.
-/

namespace Readership

open Calendar Report

inductive AnalyticsError where
  | parameter (cause : ParameterError)
  | filter (cause : FilterError)
  /-- A period of the series is out of range. -/
  | period (cause : Period.OutOfRange)
  /-- A key that is counted by leads to no row. -/
  | missingRow (cause : MissingRow)
  /-- The window would start before the earliest date. -/
  | windowOutOfRange
deriving DecidableEq, Repr

namespace AnalyticsError

/-- What is known of an error. -/
def message : AnalyticsError → String
  | parameter cause => cause.message
  | filter cause => cause.message
  | period cause => "internal error: " ++ cause.message
  | missingRow cause => "internal error: " ++ cause.message
  | windowOutOfRange => "internal error: window out of range"

/-- Whether another request could do better. -/
def isClientError : AnalyticsError → Bool
  | parameter _ | filter _ => true
  | period _ | missingRow _ | windowOutOfRange => false

/-- What a client is told; of internal errors no detail. -/
def publicMessage (e : AnalyticsError) : String :=
  if e.isClientError then e.message else "Server error"

end AnalyticsError

namespace Analytics

/-- Lets a faulty filter stand for a failed request. -/
def narrowed (q : ViewQuery) (tree : Option Json) : Except AnalyticsError ViewQuery :=
  (q.narrow tree).mapError .filter

/-! ## reports over filter trees -/

def groupedCounts (d : Dataset) (dimension : GroupDimension) (start finish : Instant)
    (tree : Option Json) : Except AnalyticsError (List Row) := do
  let q ← narrowed (ViewQuery.everything.between start finish) tree
  (Report.groupedCounts d q dimension).mapError .missingRow

/-- A ranking, within a window if there is one. -/
def topRows (d : Dataset) (dimension : TopDimension) (window : Option (Instant × Instant))
    (tree : Option Json) : Except AnalyticsError (List Row) := do
  let q :=
    match window with
    | some (start, finish) => ViewQuery.everything.between start finish
    | none => .everything
  let q ← narrowed q tree
  (Report.top d q dimension).mapError .missingRow

/-- A series; the author narrows views and blogs, the filter views only. -/
def performanceSeries (d : Dataset) (g : Granularity) (author : Option Int) (tree : Option Json)
    (baseline : Baseline) : Except AnalyticsError (List Row) := do
  let q :=
    match author with
    | some a => ViewQuery.everything.authoredBy a
    | none => .everything
  let q ← narrowed q tree
  let blogs := d.tables.blogs.toList.filter fun b => author.all (b.author == ·)
  (Report.series d q blogs g baseline).mapError .period

/-! ## requests -/

def boundsOf (w : Window) (now : Instant) : Except AnalyticsError (Instant × Instant) :=
  match w.bounds? now with
  | some bounds => .ok bounds
  | none => .error .windowOutOfRange

def boundsOf? (w : Option Window) (now : Instant) :
    Except AnalyticsError (Option (Instant × Instant)) :=
  match w with
  | some w => (boundsOf w now).map some
  | none => .ok none

def blogViews (d : Dataset) (now : Instant) (r : BlogViewsRequest) :
    Except AnalyticsError (List Row) := do
  let dimension ← r.dimension.mapError .parameter
  let window ← r.window.mapError .parameter
  let (start, finish) ← boundsOf window now
  let tree ← (Request.loadFilters r.filters).mapError .parameter
  groupedCounts d dimension start finish tree

def top (d : Dataset) (now : Instant) (r : TopRequest) : Except AnalyticsError (List Row) := do
  let dimension ← r.dimension.mapError .parameter
  let window ← r.window.mapError .parameter
  let bounds ← boundsOf? window now
  let tree ← (Request.loadFilters r.filters).mapError .parameter
  topRows d dimension bounds tree

def performance (d : Dataset) (baseline : Baseline) (r : PerformanceRequest) :
    Except AnalyticsError (List Row) := do
  let granularity ← r.granularity.mapError .parameter
  let author ← r.author.mapError .parameter
  let tree ← (Request.loadFilters r.filters).mapError .parameter
  performanceSeries d granularity author tree baseline

/-- Checks a filter without running it. -/
def validate (filters : Option String) : Except AnalyticsError Unit := do
  match ← (Request.loadFilters filters).mapError .parameter with
  | some tree => (RowFilter.ofTree tree).mapError .filter *> pure ()
  | none => pure ()

end Analytics

end Readership
