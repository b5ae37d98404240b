import Readership.Decimal.Dyadic
import Readership.Text.Numeral

/-!
# Readership.Growth

Growth of one count over another, in percent.

* A count that grows from zero has grown by a hundred percent, and zero over zero is no growth.
* Else the percentage is worked out in floating point and written with one decimal, rounded from
  the exact value of the float; whatever is not below zero carries a plus sign.
-/

namespace Readership

open Decimal Text

/-- What the count of a period is compared with. -/
inductive Baseline where
  /-- The row before it in the series, however long ago. -/
  | sequential
  /-- The calendar period just before it, which may have no views. -/
  | calendar
deriving DecidableEq, Repr, Inhabited

def Baseline.name : Baseline → String
  | sequential => "sequential"
  | calendar => "calendar"

namespace Growth

/-- Growth of a count over another that is not zero. -/
def percentage (current previous : Nat) : Float :=
  let c := Float.ofNat current
  let p := Float.ofNat previous
  (c - p) / p * 100.0

/-- A finite float with one decimal; a minus sign stays although all digits may be zero. -/
def oneDecimal (x : Float) : String :=
  let d := Dyadic.ofFloat x
  let tenths := roundDiv (10 * d.num) d.den
  (if d.negative then "-" else "") ++ toString (tenths / 10) ++ "." ++ toString (tenths % 10)

/-- Growth of `current` over `previous`, with its sign. -/
def text (current previous : Nat) : String :=
  if previous = 0 then
    if current = 0 then "0.0%" else "+100.0%"
  else
    let x := percentage current previous
    (if x ≥ 0.0 then "+" else "") ++ oneDecimal x ++ "%"

end Growth

end Readership
