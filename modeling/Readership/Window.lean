import Readership.Calendar.Instant

/-!
# Readership.Window

Time windows that end now.

A window spans 7, 30 or 365 days, whatever the calendar says, and includes both its ends.  It has
no start where that would come before the earliest date.
-/

namespace Readership

open Calendar

inductive Window where
  | week
  | month
  | year
deriving DecidableEq, Repr, Inhabited

namespace Window

def days : Window → Nat
  | week => 7
  | month => 30
  | year => 365

def bounds? (w : Window) (now : Instant) : Option (Instant × Instant) :=
  (now.daysBefore? w.days).map (·, now)

end Window

end Readership
