import Readership.Calendar.Instant
import Readership.Text.Reader

/-!
# Readership.Calendar.Notation

Reading instants.

Two notations are in use, and both are forms of `2024-01-31T23:59:60.5+01:00`.

* The relaxed one, for data and clocks (`Instant.ofRelaxed?`): blanks may stand before each part,
  fields may be short, a signed year may have any number of digits, and the offset may be `UTC`
  or lack its colon.
* The strict one, for operands of filters (`Instant.ofOperand?`): each field has its full width
  and nothing surrounds it.  A date alone stands for its midnight; there blanks may precede each
  number.

In both, second 60 is a leap second, decimals beyond the ninth are cut off, and the instant must
lie within the range of dates once its offset is taken off.
-/

namespace Readership.Calendar

open Text

namespace Notation

/-- Second of the day and nanosecond of a time that a clock can show. -/
def timeOfDay? (hour minute second nano : Nat) : Option (Nat × Nat) :=
  if hour < 24 && minute < 60 && second ≤ 60 then
    some (hour * 3600 + minute * 60 + min second 59,
      nano + if second = 60 then 1000000000 else 0)
  else none

/-- A point and one or more decimals, as nanoseconds; without a point there are none. -/
def fraction : Reader Nat := do
  if (← Reader.next?) == some '.' then
    Reader.char '.'
    let ds ← Reader.many Char.isDigit
    if ds.isEmpty then failure
    pure (digitsValue ((ds ++ List.replicate 9 '0').take 9))
  else pure 0

/-- The offset of a clock from UTC in seconds: `Z`, or a sign, two digits of hours, a separator
and two digits of minutes.  The sign may be the minus sign proper. -/
def offset (separator : Reader Unit) : Reader Int := do
  let c ← Reader.charOf fun c => c == 'Z' || c == 'z' || c == '+' || c == '-' || c == '\u2212'
  if c == 'Z' || c == 'z' then pure 0
  else
    let hours ← Reader.digits 2 2
    separator
    let minutes ← Reader.digits 2 2
    if hours < 24 && minutes < 60 then
      let seconds : Int := hours * 3600 + minutes * 60
      pure (if c == '+' then seconds else -seconds)
    else failure

/-- A year with a sign has any number of digits, one without at most four. -/
def year : Reader Int := do
  match ← Reader.next? with
  | some '-' =>
    Reader.char '-'
    let n ← fun cs => Reader.digits 1 cs.length cs
    pure (-(n : Int))
  | some '+' =>
    Reader.char '+'
    let n ← fun cs => Reader.digits 1 cs.length cs
    pure n
  | _ => Reader.digits 1 4

/-- A field of one or two digits after any blanks. -/
def shortField : Reader Nat := do
  Reader.blanks
  Reader.digits 1 2

/-- A separator after any blanks. -/
def spaced (c : Char) : Reader Unit := do
  Reader.blanks
  Reader.char c

/-- `T` or a space, between date and time. -/
def timeMark : Reader Unit := do
  let _ ← Reader.charOf fun c => c == 'T' || c == 't' || c == ' '

/-! ## the relaxed notation -/

/-- `UTC` in any letter case, or an offset with or without a separator. -/
def relaxedOffset : Reader Int := fun cs =>
  if (cs.take 3).map Char.toUpper == ['U', 'T', 'C'] then some (0, cs.drop 3)
  else offset (do let _ ← Reader.many fun c => c == ':' || isBlank c) cs

def relaxed : Reader Instant := do
  Reader.blanks
  let y ← year
  spaced '-'
  let m ← shortField
  spaced '-'
  let d ← shortField
  timeMark
  let hour ← shortField
  spaced ':'
  let minute ← shortField
  spaced ':'
  let second ← shortField
  let nano ← fraction
  Reader.blanks
  let offset ← relaxedOffset
  Reader.blanks
  let date ← Date.ofCivil? ⟨y, m, d⟩
  let (second, nano) ← timeOfDay? hour minute second nano
  Instant.ofLocal? date second nano offset

/-! ## the strict notation -/

def strict : Reader Instant := do
  let y ← Reader.digits 4 4
  Reader.char '-'
  let m ← Reader.digits 2 2
  Reader.char '-'
  let d ← Reader.digits 2 2
  timeMark
  let hour ← Reader.digits 2 2
  Reader.char ':'
  let minute ← Reader.digits 2 2
  Reader.char ':'
  let second ← Reader.digits 2 2
  let nano ← fraction
  let offset ← offset (Reader.char ':')
  let date ← Date.ofCivil? ⟨y, m, d⟩
  let (second, nano) ← timeOfDay? hour minute second nano
  Instant.ofLocal? date second nano offset

/-- A date alone: the hyphens follow the numbers directly. -/
def dateOnly : Reader Date := do
  Reader.blanks
  let y ← year
  Reader.char '-'
  let m ← shortField
  Reader.char '-'
  let d ← shortField
  Date.ofCivil? ⟨y, m, d⟩

end Notation

def Instant.ofRelaxed? (s : String) : Option Instant := Notation.relaxed.all? s

/-- Reads an instant in the strict notation, or a date as its midnight. -/
def Instant.ofOperand? (s : String) : Option Instant :=
  Notation.strict.all? s <|> (Notation.dateOnly.all? s).map Instant.midnight

end Readership.Calendar
