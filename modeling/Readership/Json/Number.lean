import Readership.Decimal.Shortest
import Readership.Text.Numeral

/-!
# Readership.Json.Number

Numbers of JSON texts.

A number without fraction and exponent is an integer as long as it fits 64 bits, signed or
unsigned; every other number, minus zero included, is a float.

* Reading a float keeps as many leading digits as fit an unsigned 64-bit word, turns them into a
  float and multiplies or divides it by a power of ten.  A number too large for a float is no
  number.
* Writing a float takes the shortest digits that read back.  They stand positionally from 1e-5
  up to 1e16 and with an exponent outside.
-/

namespace Readership.Json

open Decimal Text

inductive Number where
  | integer (n : Int)
  | real (x : Float)
deriving Repr

namespace Number

/-! ## reading -/

/-- The parts of a number as written. -/
structure Lexeme where
  negative : Bool
  /-- The digits before the point. -/
  whole : List Char
  /-- The digits after the point, if there is one. -/
  fraction : Option (List Char)
  /-- Whether the exponent is negative, and its digits, if there is one. -/
  exponent : Option (Bool × List Char)

def maxWord : Nat := 18446744073709551615

/-- Appends digits to a word for as long as it stays one; answers with the digits that did not
fit. -/
def absorb : Nat → List Char → Nat × List Char
  | n, [] => (n, [])
  | n, c :: cs =>
    let next := 10 * n + digitsValue [c]
    if next ≤ maxWord then absorb next cs else (n, c :: cs)

def powerOfTen (k : Nat) : Float := Float.ofScientific 1 false k

/-- Divides by `10 ^ k`, at most by `10 ^ 308` at a time. -/
def divideByPower (x : Float) (k : Nat) : Float :=
  if k ≤ 308 then x / powerOfTen k
  else if x == 0.0 then x
  else divideByPower (x / powerOfTen 308) (k - 308)
termination_by k

/-- The float nearest to `n · 10 ^ e` up to the rounding of each step, unless it is infinite. -/
def scale? (n : Nat) (e : Int) : Option Float :=
  let x := Float.ofNat n
  if e < 0 then some (divideByPower x e.natAbs)
  else if e ≤ 308 then
    let y := x * powerOfTen e.natAbs
    if y.isInf then none else some y
  else if n = 0 then some x
  else none

/-- The float nearest to `n · 10 ^ places` times the power of ten that is written out.  An exponent
that fits no 32-bit word is as good as infinite. -/
def scaleWritten? (n : Nat) (places : Int) : Option (Bool × List Char) → Option Float
  | none => scale? n places
  | some (negative, ds) =>
    let e := digitsValue ds
    if 2147483647 < e then (if n = 0 || negative then some 0.0 else none)
    else scale? n (if negative then places - e else places + e)

/-- The float that a lexeme with fraction or exponent, or too long for a word, stands for. -/
def Lexeme.real? (l : Lexeme) : Option Float :=
  let (n, dropped) := absorb 0 l.whole
  let fraction := l.fraction.getD []
  let (n, unread) := absorb n fraction
  let places : Int := dropped.length - (fraction.length - unread.length : Nat)
  (scaleWritten? n places l.exponent).map fun x => if l.negative then -x else x

/-- The number that a lexeme stands for, if there is one. -/
def ofLexeme? (l : Lexeme) : Option Number :=
  let n := digitsValue l.whole
  if l.fraction.isSome || l.exponent.isSome || maxWord < n then l.real?.map .real
  else if !l.negative then some (.integer n)
  else if n = 0 || !fitsWord (-(n : Int)) then some (.real (-(Float.ofNat n)))
  else some (.integer (-(n : Int)))

/-! ## text -/

/-- A float that is neither infinite nor no number. -/
def realText (x : Float) : String :=
  let d := Dyadic.ofFloat x
  let sign := if d.negative then "-" else ""
  if d.m = 0 then sign ++ "0.0"
  else
    let s := (shortest d).stripZeros
    let ds := Nat.toDigits 10 s.digits
    let point : Int := ds.length + s.exponent
    if 0 ≤ s.exponent && point ≤ 16 then
      sign ++ String.ofList (ds ++ List.replicate s.exponent.toNat '0') ++ ".0"
    else if 0 < point && point ≤ 16 then
      sign ++ String.ofList (ds.take point.toNat) ++ "." ++ String.ofList (ds.drop point.toNat)
    else if -5 < point && point ≤ 0 then
      sign ++ "0." ++ String.ofList (List.replicate (-point).toNat '0' ++ ds)
    else
      let e := point - 1
      let tail := ds.drop 1
      sign ++ String.ofList (ds.take 1) ++
        (if tail.isEmpty then "" else "." ++ String.ofList tail) ++
        "e" ++ (if e < 0 then "-" else "+") ++ toString e.natAbs

/-- A number as JSON text. -/
def text : Number → String
  | integer n => toString n
  | real x => realText x

end Number

end Readership.Json
