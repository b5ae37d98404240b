import Readership.Calendar.Instant

/-!
# Readership.Period

Days, weeks, months and years as buckets of a series.

A period is named by its first date.

* `truncate` rounds an instant down to the first date of its period.
* `previous` goes from the first date of a period to that of the one before it.
* `Granularity.text` and `label` write a period: `2024-01-15`, `2024-W03`, `2024-01` or `2024`,
  and `2024-01 (2 blogs)`.

Both steps fail only where the period would begin before the earliest date.
-/

namespace Readership

open Calendar Text

/-- The length of the periods of a series. -/
inductive Granularity where
  | day
  | week
  | month
  | year
deriving DecidableEq, Repr, Inhabited

namespace Granularity

def name : Granularity → String
  | day => "day"
  | week => "week"
  | month => "month"
  | year => "year"

def all : List Granularity := [day, week, month, year]

end Granularity

namespace Period

/-- A period that would begin before the earliest date. -/
structure OutOfRange where
  /-- The date the period was computed from. -/
  date : Date
  granularity : Granularity
deriving DecidableEq, Repr

def OutOfRange.message (e : OutOfRange) : String :=
  "cannot compute " ++ e.granularity.name ++ " period for " ++ Instant.dateText e.date

/-- The first date of the period that holds a date.  Weeks begin on Monday. -/
def start? (g : Granularity) (d : Date) : Option Date :=
  match g with
  | .day => some d
  | .week => d.addDays? (-d.weekday)
  | .month => d.addDays? (1 - d.civil.day)
  | .year => Date.ofNumber? (daysBeforeYear d.year)

def truncate (t : Instant) (g : Granularity) : Except OutOfRange Date :=
  match start? g t.date with
  | some d => .ok d
  | none => .error ⟨t.date, g⟩

/-- The first date of the period before the one that begins with `d`. -/
def previous? (g : Granularity) (d : Date) : Option Date :=
  match g with
  | .day => d.addDays? (-1)
  | .week => d.addDays? (-7)
  | .month => d.subMonths? 1
  | .year => d.subMonths? 12

def previous (d : Date) (g : Granularity) : Except OutOfRange Date :=
  match previous? g d with
  | some p => .ok p
  | none => .error ⟨d, g⟩

/-! ## text -/

def text (d : Date) (g : Granularity) : String :=
  match g with
  | .day => Instant.dateText d
  | .week =>
    let w := d.week
    Instant.yearText w.year ++ "-W" ++ zeroPadded 2 w.week
  | .month =>
    let c := d.civil
    Instant.yearText c.year ++ "-" ++ zeroPadded 2 c.month
  | .year => Instant.yearText d.year

/-- A period with the number of blogs that were written in it. -/
def label (d : Date) (g : Granularity) (blogs : Nat) : String :=
  text d g ++ " (" ++ toString blogs ++ (if blogs = 1 then " blog)" else " blogs)")

end Period

end Readership
