/-!
# Readership.Text.Numeral

Whole numbers in decimal digits.

* `digitsValue` is the value of a row of digits, `zeroPadded` writes a number with a least count
  of digits.
* `readInteger?` reads an optional sign and one or more digits, as long as the number fits a
  64-bit word.
-/

namespace Readership.Text

/-- The value of a row of decimal digits, the most significant first. -/
def digitsValue (ds : List Char) : Nat :=
  ds.foldl (fun n c => 10 * n + (c.toNat - '0'.toNat)) 0

/-- The digits of a number, with zeros in front up to a least count. -/
def zeroPadded (width n : Nat) : String :=
  String.ofList ((Nat.toDigits 10 n).leftpad width '0')

/-- Whether an integer fits a signed 64-bit word. -/
def fitsWord (n : Int) : Bool := -9223372036854775808 ≤ n && n ≤ 9223372036854775807

/-- The integer that a row of digits stands for with a sign before it, if it fits a word. -/
def signedWord? (negative : Bool) (ds : List Char) : Option Int :=
  if ds.isEmpty || !ds.all Char.isDigit then none
  else
    let n : Int := if negative then -(digitsValue ds : Int) else digitsValue ds
    if fitsWord n then some n else none

/-- Reads a word in decimal: one sign or none, then digits and nothing else. -/
def readInteger? (s : String) : Option Int :=
  match s.toList with
  | '-' :: ds => signedWord? true ds
  | '+' :: ds => signedWord? false ds
  | ds => signedWord? false ds

end Readership.Text
