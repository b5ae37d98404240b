import Readership.Calendar.Date
import Readership.Text.Numeral

/-!
# Readership.Calendar.Instant

Points in time, to the nanosecond, in UTC.

An `Instant` is a date, a second of that day and a nanosecond.  A leap second has no second of its
own: it is the second before it with a thousand million nanoseconds more, and only the last second
of a minute may carry it.

* `Instant.rank` is one integer that orders instants as date, second and nanosecond do in turn, so
  a leap second comes after the second it extends and before the next.
* `Instant.daysBefore?` leaves a leap second first: the day it counts back from is that of the
  second after it.
* `Instant.text` writes `2024-01-31T23:59:60.500+00:00`: as many groups of three decimals as the
  fraction needs.
-/

namespace Readership.Calendar

open Text

@[ext] structure Instant where
  date : Date
  /-- Seconds since midnight. -/
  second : Nat
  /-- Nanoseconds of the second, 1000000000 or more within a leap second. -/
  nano : Nat
  second_lt : second < 86400
  nano_lt : nano < 2000000000
  second_of_leap : 1000000000 ≤ nano → second % 60 = 59
deriving DecidableEq

namespace Instant

/-- The instant with a day number, a second of that day and a nanosecond, if there is one. -/
def ofParts? (day : Int) (second nano : Nat) : Option Instant :=
  if h : second < 86400 ∧ nano < 2000000000 ∧ (1000000000 ≤ nano → second % 60 = 59) then
    (Date.ofNumber? day).map fun date => ⟨date, second, nano, h.1, h.2.1, h.2.2⟩
  else none

/-- Midnight at the start of a date. -/
def midnight (date : Date) : Instant := ⟨date, 0, 0, by decide, by decide, by decide⟩

instance : Inhabited Instant := ⟨midnight default⟩

/-- The number of the day that began with 1 January 1970. -/
def epochDay : Int := 719162

/-- The instant so many seconds after the start of 1970. -/
def ofEpochSeconds? (n : Int) : Option Instant :=
  ofParts? (epochDay + n / 86400) (n % 86400).toNat 0

/-- The instant that a clock shows which is `offset` seconds ahead of UTC. -/
def ofLocal? (date : Date) (second nano : Nat) (offset : Int) : Option Instant :=
  let s : Int := second - offset
  ofParts? (date.number + s / 86400) (s % 86400).toNat nano

/-! ## order -/

/-- Where an instant stands among all others. -/
def rank (t : Instant) : Int :=
  (t.date.number * 86400 + t.second) * 2000000000 + t.nano

instance : Ord Instant := ⟨fun a b => compare a.rank b.rank⟩

instance : LE Instant := ⟨fun a b => a.rank ≤ b.rank⟩

instance : LT Instant := ⟨fun a b => a.rank < b.rank⟩

instance (a b : Instant) : Decidable (a ≤ b) := inferInstanceAs (Decidable (a.rank ≤ b.rank))

instance (a b : Instant) : Decidable (a < b) := inferInstanceAs (Decidable (a.rank < b.rank))

theorem rank_inj {a b : Instant} : a.rank = b.rank ↔ a = b := by
  refine ⟨fun h => ?_, fun h => h ▸ rfl⟩
  obtain ⟨⟨n, _, _⟩, s, f, hs, hf, _⟩ := a
  obtain ⟨⟨n', _, _⟩, s', f', hs', hf', _⟩ := b
  simp only [rank] at h
  obtain rfl : f = f' := by omega
  obtain rfl : s = s' := by omega
  obtain rfl : n = n' := by omega
  rfl

/-! ## counting back -/

/-- The instant `n` days earlier, for a positive `n`.  A leap second counts from the second after
it. -/
def daysBefore? (t : Instant) (n : Nat) : Option Instant :=
  if t.nano < 1000000000 then ofParts? (t.date.number - n) t.second t.nano
  else
    let s := t.second + 1
    ofParts? (t.date.number + (s / 86400 : Nat) - n) (s % 86400) (t.nano - 1000000000)

/-! ## text -/

/-- A year in at least four digits, with a sign outside 0 to 9999. -/
def yearText (y : Int) : String :=
  if y < 0 then "-" ++ zeroPadded 4 y.natAbs
  else if 9999 < y then "+" ++ zeroPadded 4 y.natAbs
  else zeroPadded 4 y.natAbs

def dateText (d : Date) : String :=
  let c := d.civil
  yearText c.year ++ "-" ++ zeroPadded 2 c.month ++ "-" ++ zeroPadded 2 c.day

/-- The decimals of a second: none, three, six or nine. -/
def fractionText (nano : Nat) : String :=
  if nano = 0 then ""
  else if nano % 1000000 = 0 then "." ++ zeroPadded 3 (nano / 1000000)
  else if nano % 1000 = 0 then "." ++ zeroPadded 6 (nano / 1000)
  else "." ++ zeroPadded 9 nano

/-- Date and time of day in UTC; a leap second is second 60. -/
def text (t : Instant) : String :=
  dateText t.date ++ "T" ++ zeroPadded 2 (t.second / 3600) ++ ":" ++
    zeroPadded 2 (t.second / 60 % 60) ++ ":" ++
    zeroPadded 2 (t.second % 60 + t.nano / 1000000000) ++
    fractionText (t.nano % 1000000000) ++ "+00:00"

end Instant

end Readership.Calendar
