import Readership.Text.Lowercase
import Readership.Value

/-!
# Readership.Lookup

Tests of single values.

A test that compares never holds of null or of a value of another type than its operand.  Text is
searched for in lower case on both sides; the needle is kept in lower case.
-/

namespace Readership

open Text

inductive Lookup where
  | exact (operand : Value)
  | isNull
  /-- Equal to one of several operands. -/
  | oneOf (operands : List Value)
  /-- Contains a needle, whatever the letter case. -/
  | contains (needle : String)
  | greater (bound : Value)
  | greaterOrEqual (bound : Value)
  | less (bound : Value)
  | lessOrEqual (bound : Value)
deriving DecidableEq, Inhabited

namespace Lookup

/-- The search for a needle given in any letter case. -/
def containing (needle : String) : Lookup := contains (lowercase needle)

/-- Whether two values can be compared and stand as asked for. -/
def ordered (p : Ordering → Bool) (a b : Value) : Bool := (a.compare? b).any p

def test : Lookup → Value → Bool
  | exact operand, v => ordered Ordering.isEq v operand
  | isNull, v => v.isNull
  | oneOf operands, v => operands.any (ordered Ordering.isEq v)
  | contains needle, v => v.text?.any fun s => Text.contains (lowercase s) needle
  | greater bound, v => ordered Ordering.isGT v bound
  | greaterOrEqual bound, v => ordered Ordering.isGE v bound
  | less bound, v => ordered Ordering.isLT v bound
  | lessOrEqual bound, v => ordered Ordering.isLE v bound

/-- Whether the values that a path takes for a row pass a test: one of them has to.  A path that
leads nowhere counts as null. -/
def testAny (lookup : Lookup) (values : List Value) : Bool :=
  match lookup with
  | isNull => values.isEmpty || values.any Value.isNull
  | _ => values.any lookup.test

/-- Only the test for null holds of null. -/
theorem test_null {lookup : Lookup} (h : lookup ≠ isNull) : lookup.test .null = false := by
  cases lookup <;> simp_all [test, ordered, Value.compare?, Value.text?]

end Lookup

end Readership
