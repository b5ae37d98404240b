import Readership.Text.CaseTable

/-!
# Readership.Text.Lowercase

Lower case for texts of any script.

Almost every capital has one small letter.  Two do not go by the table:

* `İ` becomes an `i` with a dot above, which takes two characters;
* `Σ` becomes `ς` at the end of a word and `σ` elsewhere, so its lower case depends on what stands
  around it.
-/

namespace Readership.Text

def isCased (c : Char) : Bool := CaseTable.within CaseTable.casedRanges c.toNat

/-- Whether a character stands inside a word without having letter case. -/
def isCaseIgnorable (c : Char) : Bool := CaseTable.within CaseTable.ignorableRanges c.toNat

/-- Whether a word goes on here: the first character that cannot be ignored has letter case. -/
def wordGoesOn (cs : List Char) : Bool :=
  match cs.dropWhile isCaseIgnorable with
  | c :: _ => isCased c
  | [] => false

/-- The lower case of a character that stands alone. -/
def lowerChar (c : Char) : List Char :=
  if c.toNat < 0x80 then [c.toLower]
  else if c = 'İ' then ['i', '\u0307']
  else
    match CaseTable.lowerRuns.find? (·.has c.toNat) with
    | some run => [Char.ofNat (c.toNat + run.shift).toNat]
    | none => [c]

/-- The lower case of a text; `before` are the characters in front of it, the nearest first. -/
def lowerAfter (before : List Char) : List Char → List Char
  | [] => []
  | c :: cs =>
    (if c = 'Σ' then [if wordGoesOn before && !wordGoesOn cs then 'ς' else 'σ']
      else lowerChar c) ++ lowerAfter (c :: before) cs

def lowercase (s : String) : String := String.ofList (lowerAfter [] s.toList)

/-- Whether characters stand in a row somewhere within others. -/
def occursIn (needle : List Char) : List Char → Bool
  | [] => needle.isEmpty
  | c :: cs => needle.isPrefixOf (c :: cs) || occursIn needle cs

theorem occursIn_iff {needle cs : List Char} : occursIn needle cs ↔ needle <:+: cs := by
  induction cs with
  | nil => simp [occursIn]
  | cons c cs ih => simp [occursIn, ih, List.infix_cons_iff]

def contains (text needle : String) : Bool := occursIn needle.toList text.toList

end Readership.Text
