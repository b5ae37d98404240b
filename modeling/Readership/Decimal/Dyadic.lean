/-!
# Readership.Decimal.Dyadic

Floats as exact numbers, and rounding of exact numbers.

A finite float is a sign and `m · 2 ^ q` for whole numbers `m` and `q` (`Dyadic.ofFloat`).  All
text of floats is computed from this pair in whole-number arithmetic, so nothing is rounded twice.
-/

namespace Readership.Decimal

/-- A sign and a whole multiple of a power of two. -/
structure Dyadic where
  negative : Bool
  /-- The multiple. -/
  m : Nat
  /-- The power of two it multiplies. -/
  q : Int
deriving DecidableEq, Repr

/-- The leading bit of a normal float, which is not stored. -/
def hiddenBit : Nat := Nat.pow 2 52

/-- The number that a finite float stands for.  Exponent field 0 marks the numbers below the
least normal one, which have no leading bit of their own. -/
def Dyadic.ofFloat (x : Float) : Dyadic :=
  let bits := x.toBits.toNat
  let field := bits / hiddenBit % Nat.pow 2 11
  let low := bits % hiddenBit
  { negative := bits / Nat.pow 2 63 == 1
    m := if field = 0 then low else low + hiddenBit
    q := (max field 1 : Nat) - 1075 }

def Dyadic.num (x : Dyadic) : Nat := x.m * Nat.pow 2 x.q.toNat

def Dyadic.den (x : Dyadic) : Nat := Nat.pow 2 (-x.q).toNat

/-- The whole number nearest to `num / den`, of two the even one. -/
def roundDiv (num den : Nat) : Nat :=
  let n := num / den
  let twice := 2 * (num % den)
  if twice < den then n
  else if den < twice then n + 1
  else n + n % 2

/-- A quotient is within half a unit of its rounding. -/
theorem roundDiv_near {num den : Nat} (h : 0 < den) :
    2 * num ≤ den * (2 * roundDiv num den + 1) ∧ den * (2 * roundDiv num den) ≤ 2 * num + den := by
  have hd := Nat.div_add_mod num den
  have hm := Nat.mod_lt num h
  simp only [roundDiv]
  generalize num / den = n at *
  generalize num % den = r at *
  split
  · constructor <;> (simp only [Nat.mul_add, Nat.mul_left_comm den 2 n]; omega)
  · split
    · constructor <;> (simp only [Nat.mul_add, Nat.mul_left_comm den 2 n]; omega)
    · rcases Nat.mod_two_eq_zero_or_one n with hn | hn <;> rw [hn] <;>
        constructor <;> (simp only [Nat.mul_add, Nat.mul_left_comm den 2 n]; omega)

end Readership.Decimal
