import Readership.Text.Blank
import Readership.Text.Numeral

/-!
# Readership.Text.Reader

Small readers that take something off the front of a text.

A `Reader α` answers with what it read and the text after it, or refuses.  `Reader.all?` runs one
on a whole text: nothing may be left over.
-/

namespace Readership.Text

/-- Reads an `α` off the front of a text. -/
abbrev Reader := StateT (List Char) Option

namespace Reader

def charOf (p : Char → Bool) : Reader Char
  | c :: cs => if p c then some (c, cs) else none
  | [] => none

def char (c : Char) : Reader Unit := do
  let _ ← charOf (· == c)

/-- All blanks that stand next. -/
def blanks : Reader Unit := fun cs => some ((), trimStart cs)

/-- All characters of a class that stand next. -/
def many (p : Char → Bool) : Reader (List Char) := fun cs =>
  some (cs.takeWhile p, cs.dropWhile p)

/-- From `least` to `most` digits, as many as stand next. -/
def digits (least most : Nat) : Reader Nat := fun cs =>
  let ds := (cs.take most).takeWhile Char.isDigit
  if ds.length < least then none else some (digitsValue ds, cs.drop ds.length)

/-- Nothing but the end of the text. -/
def finish : Reader Unit
  | [] => some ((), [])
  | _ :: _ => none

/-- What stands next, without reading it. -/
def next? : Reader (Option Char) := fun cs => some (cs.head?, cs)

/-- What a reader makes of a whole text. -/
def all? {α : Type} (r : Reader α) (s : String) : Option α :=
  ((do let a ← r; finish; pure a : Reader α).run s.toList).map (·.1)

end Reader

end Readership.Text
