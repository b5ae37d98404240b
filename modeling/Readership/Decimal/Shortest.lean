import Readership.Decimal.Dyadic

/-!
# Readership.Decimal.Shortest

The fewest decimal digits that read back as a float.

Between two neighbouring floats lies a point halfway; the numbers that round to a float reach from
the halfway point below it to the one above, both included when its multiple is even.  Of the
decimals in that interval `shortest` takes one with the fewest digits, and of those the nearest.

The search tries 1, 2, … 17 digits.  With a given count of digits the decimals form a grid, and if
any point of the grid lies in the interval, one of the two neighbours of the float does.
-/

namespace Readership.Decimal

/-- The number `digits · 10 ^ exponent`. -/
structure Scientific where
  digits : Nat
  exponent : Int
deriving DecidableEq, Repr

/-- A quotient `num / den` and its half gaps to the neighbouring floats, all over one
denominator. -/
structure Interval where
  num : Nat
  den : Nat
  /-- How far the interval reaches below. -/
  below : Nat
  /-- How far it reaches above. -/
  above : Nat
  /-- Whether its ends belong to it. -/
  closed : Bool

/-- The interval of numbers that round to a float.  Below a power of two the gap is half as
wide. -/
def Interval.ofDyadic (x : Dyadic) : Interval :=
  let scale := Nat.pow 2 x.q.toNat
  { num := 4 * x.m * scale
    den := 4 * Nat.pow 2 (-x.q).toNat
    below := if x.m = hiddenBit && x.q != -1074 then scale else 2 * scale
    above := 2 * scale
    closed := x.m % 2 == 0 }

/-- Whether `n · 10 ^ e`, given as `a / b`, lies in the interval. -/
def Interval.holds (i : Interval) (a b : Nat) : Bool :=
  let x := a * i.den
  let lo := (i.num - i.below) * b
  let hi := (i.num + i.above) * b
  if i.closed then lo ≤ x && x ≤ hi else lo < x && x < hi

/-- The position of the first digit of `num / den`: the greatest `k` with `10 ^ k ≤ num / den`. -/
def leadingPlace (num den : Nat) : Int :=
  if den ≤ num then (Nat.toDigits 10 (num / den)).length - 1
  else
    match (List.range 400).find? fun k => den ≤ num * Nat.pow 10 (k + 1) with
    | some k => -((k : Int) + 1)
    | none => -400

/-- The decimal with the grid `10 ^ e` that lies in the interval and nearest to its float. -/
def Interval.onGrid? (i : Interval) (e : Int) : Option Scientific :=
  let up := Nat.pow 10 e.toNat
  let down := Nat.pow 10 (-e).toNat
  let n := i.num * down / (i.den * up)
  let holds (c : Nat) := i.holds (c * up) down
  let nearest := roundDiv (i.num * down) (i.den * up)
  let other := if nearest = n then n + 1 else n
  if holds nearest then some ⟨nearest, e⟩
  else if holds other then some ⟨other, e⟩
  else none

/-- The shortest decimal that reads back as a float other than zero. -/
def shortest (x : Dyadic) : Scientific :=
  let i := Interval.ofDyadic x
  let place := leadingPlace i.num i.den
  match (List.range 17).findSome? fun (k : Nat) => i.onGrid? (place - k) with
  | some s => s
  | none => ⟨x.m, x.q⟩

/-- The same number without zeros at the end of its digits. -/
def Scientific.stripZeros (s : Scientific) : Scientific :=
  if h : s.digits ≠ 0 ∧ s.digits % 10 = 0 then
    stripZeros ⟨s.digits / 10, s.exponent + 1⟩
  else s
termination_by s.digits
decreasing_by omega

end Readership.Decimal
