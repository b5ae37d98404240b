import Mathlib.Algebra.Ring.Nat
import Mathlib.Data.List.TakeWhile
import Readership.Calendar.Notation
import Readership.Proofs.CivilDays
import Readership.Proofs.IntegerText

/-!
# Readership.Proofs.InstantText

Instants and dates are read back from their texts.

In the years that are written in four digits, what `Instant.text` and
`Instant.dateText` write is what `Instant.ofOperand?` reads:

* `Instant.ofOperand?_text` -- an instant, to the nanosecond and with its leap
  second, in the strict notation;
* `Instant.ofOperand?_dateText` -- a date, as its midnight.

A reader of several parts is taken through one part at a time
(`Reader.bind_eq`).  Numbers are padded to a fixed width, so each part ends
where the next one begins (`Reader.digits_zeroPadded`).
-/

namespace Readership.Text

/-! ## padded numbers -/

section
variable {width n : Nat}

theorem toList_zeroPadded (width n : Nat) :
    (zeroPadded width n).toList =
      List.replicate (width - (Nat.toDigits 10 n).length) '0' ++ Nat.toDigits 10 n := by
  rw [zeroPadded, String.toList_ofList]
  rfl

theorem isDigit_of_mem_zeroPadded {c : Char} (h : c ∈ (zeroPadded width n).toList) :
    c.isDigit = true := by
  rw [toList_zeroPadded, List.mem_append] at h
  rcases h with hzero | hdigit
  · rw [List.eq_of_mem_replicate hzero]
    rfl
  · exact Nat.isDigit_of_mem_toDigits (by decide) (by decide) hdigit

/-- A number below a power of ten is padded to exactly that many digits. -/
theorem length_zeroPadded (hwidth : 0 < width) (hn : n < 10 ^ width) :
    (zeroPadded width n).toList.length = width := by
  have hlength := (Nat.length_toDigits_le_iff (b := 10) (by decide) hwidth).2 hn
  rw [toList_zeroPadded, List.length_append, List.length_replicate]
  omega

theorem digitsValue_eq_ofDigitChars (ds : List Char) :
    digitsValue ds = Nat.ofDigitChars 10 ds 0 := by
  rw [digitsValue, Nat.ofDigitChars_eq_foldl]

/-- Zeros in front do not count. -/
theorem digitsValue_zeroPadded (width n : Nat) : digitsValue (zeroPadded width n).toList = n := by
  rw [toList_zeroPadded, digitsValue_eq_ofDigitChars, Nat.ofDigitChars_append,
    Nat.ofDigitChars_replicate_zero, Nat.mul_zero, Nat.ofDigitChars_ten_toDigits]

/-- Zeros behind move the digits up. -/
theorem digitsValue_append_zeros (ds : List Char) (k : Nat) :
    digitsValue (ds ++ List.replicate k '0') = digitsValue ds * 10 ^ k := by
  rw [digitsValue_eq_ofDigitChars, Nat.ofDigitChars_append, Nat.ofDigitChars_replicate_zero,
    ← digitsValue_eq_ofDigitChars, Nat.mul_comm]

end

/-! ## readers, part by part -/

namespace Reader

section
variable {α β : Type} {cs rest : List Char}

/-- Once its first part is read, a reader goes on with the rest. -/
theorem bind_eq {r : Reader α} {a : α} (h : r cs = some (a, rest)) (f : α → Reader β) :
    (r >>= f) cs = f a rest := by
  change (r cs).bind _ = _
  rw [h]
  rfl

/-- A reader whose first part is refused is refused. -/
theorem bind_eq_none {r : Reader α} (h : r cs = none) (f : α → Reader β) :
    (r >>= f) cs = none := by
  change (r cs).bind _ = _
  rw [h]
  rfl

/-- What needs no reading takes nothing off the text. -/
theorem lift_eq {o : Option α} {a : α} (h : o = some a) (cs : List Char) :
    (liftM o : Reader α) cs = some (a, cs) := by
  rw [h]
  rfl

theorem all?_eq_some {r : Reader α} {s : String} {a : α} (h : r s.toList = some (a, [])) :
    r.all? s = some a := by
  rw [all?, StateT.run, bind_eq h]
  rfl

theorem all?_eq_none {r : Reader α} {s : String} (h : r s.toList = none) : r.all? s = none := by
  rw [all?, StateT.run, bind_eq_none h]
  rfl

end

variable {cs ds rest : List Char}

theorem char_cons (c : Char) (cs : List Char) : char c (c :: cs) = some ((), cs) := by
  have hof : charOf (· == c) (c :: cs) = some (c, cs) := by
    rw [charOf, beq_self_eq_true, if_pos rfl]
  rw [char, bind_eq hof]
  rfl

/-- No blanks are skipped in front of a digit. -/
theorem blanks_of_isDigit {c : Char} (h : c.isDigit = true) (cs : List Char) :
    blanks (c :: cs) = some ((), c :: cs) := by
  rw [blanks, trimStart, List.dropWhile_cons_of_neg (by simp [isBlank_of_isDigit h])]

theorem digits_append {least most : Nat} (hds : ∀ c ∈ ds, c.isDigit = true)
    (hlength : ds.length = most) (hleast : least ≤ most) (rest : List Char) :
    digits least most (ds ++ rest) = some (digitsValue ds, rest) := by
  subst hlength
  have htake : ((ds ++ rest).take ds.length).takeWhile Char.isDigit = ds := by
    rw [List.take_left', List.takeWhile_eq_self_iff.2 hds]
    rfl
  simp only [digits, htake]
  rw [if_neg (by omega), List.drop_left' rfl]

/-- A padded number is read back up to its last digit. -/
theorem digits_zeroPadded {least width n : Nat} (hwidth : 0 < width) (hleast : least ≤ width)
    (hn : n < 10 ^ width) (rest : List Char) :
    digits least width ((zeroPadded width n).toList ++ rest) = some (n, rest) := by
  rw [digits_append (fun _ => isDigit_of_mem_zeroPadded) (length_zeroPadded hwidth hn) hleast,
    digitsValue_zeroPadded]

/-- A padded number begins with a digit. -/
theorem exists_cons_zeroPadded {width n : Nat} (hwidth : 0 < width) (hn : n < 10 ^ width) :
    ∃ c cs, (zeroPadded width n).toList = c :: cs ∧ c.isDigit = true := by
  have hlength := length_zeroPadded hwidth hn
  cases hs : (zeroPadded width n).toList with
  | nil =>
      rw [hs, List.length_nil] at hlength
      omega
  | cons c cs => exact ⟨c, cs, rfl, isDigit_of_mem_zeroPadded (hs ▸ List.mem_cons_self)⟩

end Reader

end Readership.Text

namespace Readership.Calendar

open Text

namespace Notation

/-! ## the parts of a time -/

/-- Decimals are read back as nanoseconds, however many of the nine are
written. -/
theorem fraction_zeroPadded {k n : Nat} (hk : 0 < k) (hnine : k ≤ 9) (hn : n < 10 ^ k) {c : Char}
    (hc : c.isDigit = false) (rest : List Char) :
    fraction ('.' :: ((zeroPadded k n).toList ++ c :: rest)) =
      some (n * 10 ^ (9 - k), c :: rest) := by
  have hdigits : ∀ c ∈ (zeroPadded k n).toList, c.isDigit = true := fun _ =>
    isDigit_of_mem_zeroPadded
  have hlength := length_zeroPadded hk hn
  have hmany : Reader.many Char.isDigit ((zeroPadded k n).toList ++ c :: rest) =
      some ((zeroPadded k n).toList, c :: rest) := by
    rw [Reader.many, List.takeWhile_append_of_pos hdigits, List.dropWhile_append_of_pos hdigits,
      List.takeWhile_cons_of_neg (by simp [hc]), List.dropWhile_cons_of_neg (by simp [hc]),
      List.append_nil]
  have hempty : (zeroPadded k n).toList.isEmpty = false := by
    rw [List.isEmpty_eq_false_iff, ← List.length_pos_iff, hlength]
    exact hk
  have hnano : digitsValue (((zeroPadded k n).toList ++ List.replicate 9 '0').take 9) =
      n * 10 ^ (9 - k) := by
    rw [List.take_append, hlength, List.take_of_length_le (by omega), List.take_replicate,
      Nat.min_eq_left (by omega), digitsValue_append_zeros, digitsValue_zeroPadded]
  rw [fraction, Reader.bind_eq (show Reader.next? _ = some (some '.', _) from rfl),
    if_pos (beq_self_eq_true _), Reader.bind_eq (Reader.char_cons _ _), Reader.bind_eq hmany]
  simp only [hempty, Bool.false_eq_true, if_false, hnano]
  rfl

/-- Without a point there are no nanoseconds. -/
theorem fraction_of_ne_point {c : Char} (hc : c ≠ '.') (rest : List Char) :
    fraction (c :: rest) = some (0, c :: rest) := by
  rw [fraction, Reader.bind_eq (show Reader.next? _ = some (some c, _) from rfl),
    if_neg (by simpa using hc)]
  rfl

/-- The decimals of an instant are read back, all groups of three of them. -/
theorem fraction_fractionText {nano : Nat} (hnano : nano < 1000000000) (rest : List Char) :
    fraction ((Instant.fractionText nano).toList ++ '+' :: rest) = some (nano, '+' :: rest) := by
  have hpoint (s : String) : ("." ++ s).toList = '.' :: s.toList := by simp
  rw [Instant.fractionText]
  split
  · next hzero =>
    rw [hzero]
    exact fraction_of_ne_point (by decide) rest
  split
  · rw [hpoint, List.cons_append,
      fraction_zeroPadded (by decide) (by decide) (by omega) (by decide)]
    congr 2
    omega
  split
  · rw [hpoint, List.cons_append,
      fraction_zeroPadded (by decide) (by decide) (by omega) (by decide)]
    congr 2
    omega
  · rw [hpoint, List.cons_append,
      fraction_zeroPadded (by decide) (by decide) (by omega) (by decide), Nat.pow_zero,
      Nat.mul_one]

/-- A second of the day is found again by hour, minute and second, of which a
leap second is the sixtieth. -/
theorem timeOfDay?_eq (t : Instant) :
    timeOfDay? (t.second / 3600) (t.second / 60 % 60) (t.second % 60 + t.nano / 1000000000)
      (t.nano % 1000000000) = some (t.second, t.nano) := by
  have hsecond := t.second_lt
  have hnano := t.nano_lt
  by_cases hleap : 1000000000 ≤ t.nano
  · have hlast := t.second_of_leap hleap
    have hsixty : t.second % 60 + t.nano / 1000000000 = 60 := by omega
    rw [timeOfDay?, hsixty, if_pos (by simp; omega), if_pos rfl]
    congr 2 <;> omega
  · have hwhole : t.second % 60 + t.nano / 1000000000 = t.second % 60 := by omega
    rw [timeOfDay?, hwhole, if_pos (by simp; omega), if_neg (by omega)]
    congr 2 <;> omega

/-- Without an offset, an instant is what the clock shows. -/
theorem ofLocal?_zero (t : Instant) : Instant.ofLocal? t.date t.second t.nano 0 = some t := by
  have hsecond := t.second_lt
  have hday : t.date.number + ((t.second : Int) - 0) / 86400 = t.date.number := by omega
  have hclock : (((t.second : Int) - 0) % 86400).toNat = t.second := by omega
  simp only [Instant.ofLocal?, hday, hclock]
  rw [Instant.ofParts?, dif_pos ⟨t.second_lt, t.nano_lt, t.second_of_leap⟩, Date.ofNumber?_number]
  rfl

/-! ## the parts of a date -/

theorem year_zeroPadded {n : Nat} (hn : n < 10 ^ 4) (rest : List Char) :
    year ((zeroPadded 4 n).toList ++ rest) = some ((n : Int), rest) := by
  obtain ⟨c, cs, hcs, hdigit⟩ := Reader.exists_cons_zeroPadded (by decide) hn
  have hread := Reader.digits_zeroPadded (by decide) (show 1 ≤ 4 by decide) hn rest
  obtain ⟨hminus, hplus⟩ := isDigit_ne_sign hdigit
  rw [hcs, List.cons_append] at hread ⊢
  rw [year, Reader.bind_eq (show Reader.next? _ = some (some c, _) from rfl)]
  simp only [Option.some.injEq, hminus, hplus, imp_self]
  rw [Reader.bind_eq hread]
  rfl

theorem shortField_zeroPadded {n : Nat} (hn : n < 10 ^ 2) (rest : List Char) :
    shortField ((zeroPadded 2 n).toList ++ rest) = some (n, rest) := by
  obtain ⟨c, cs, hcs, hdigit⟩ := Reader.exists_cons_zeroPadded (by decide) hn
  have hread := Reader.digits_zeroPadded (by decide) (show 1 ≤ 2 by decide) hn rest
  rw [hcs, List.cons_append] at hread ⊢
  rw [shortField, Reader.bind_eq (Reader.blanks_of_isDigit hdigit _), hread]

end Notation

/-! ## dates -/

/-- What it means that the year of a date is written in four digits. -/
def Date.HasShortYear (d : Date) : Prop := 0 ≤ d.year ∧ d.year ≤ 9999

instance (d : Date) : Decidable d.HasShortYear :=
  inferInstanceAs (Decidable (0 ≤ d.year ∧ d.year ≤ 9999))

namespace Date.HasShortYear

variable {d : Date} (h : d.HasShortYear)
include h

/-- The fields of such a date have their full width. -/
theorem fields_lt : d.year.toNat < 10 ^ 4 ∧ d.civil.month < 10 ^ 2 ∧ d.civil.day < 10 ^ 2 := by
  obtain ⟨-, hhigh⟩ := h
  obtain ⟨hmonth, hday⟩ := Civil.month_day_lt d.number
  exact ⟨by omega, hmonth, hday⟩

theorem ofCivil?_eq :
    ofCivil? ⟨(d.year.toNat : Int), d.civil.month, d.civil.day⟩ = some d := by
  rw [Int.toNat_of_nonneg h.1]
  exact d.ofCivil?_civil

end Date.HasShortYear

namespace Instant

/-- A year of four digits is written without a sign. -/
theorem yearText_of_short {y : Int} (hlow : 0 ≤ y) (hhigh : y ≤ 9999) :
    yearText y = zeroPadded 4 y.toNat := by
  have habs : y.natAbs = y.toNat := by omega
  rw [yearText, if_neg (by omega), if_neg (by omega), habs]

theorem toList_dateText {d : Date} (h : d.HasShortYear) :
    (dateText d).toList = (zeroPadded 4 d.year.toNat).toList ++
      '-' :: ((zeroPadded 2 d.civil.month).toList ++ '-' :: (zeroPadded 2 d.civil.day).toList) := by
  have hyear : yearText d.civil.year = zeroPadded 4 d.year.toNat := yearText_of_short h.1 h.2
  rw [dateText, hyear]
  simp [String.toList_append]

/-- Nothing after a date in the strict notation is no instant. -/
theorem strict_dateText {d : Date} (h : d.HasShortYear) :
    Notation.strict (dateText d).toList = none := by
  obtain ⟨hyear, hmonth, hday⟩ := h.fields_lt
  have hlast := Reader.digits_zeroPadded (by decide) (show 2 ≤ 2 by decide) hday []
  rw [List.append_nil] at hlast
  rw [toList_dateText h, Notation.strict,
    Reader.bind_eq (Reader.digits_zeroPadded (by decide) (by decide) hyear _),
    Reader.bind_eq (Reader.char_cons _ _),
    Reader.bind_eq (Reader.digits_zeroPadded (by decide) (by decide) hmonth _),
    Reader.bind_eq (Reader.char_cons _ _), Reader.bind_eq hlast]
  exact Reader.bind_eq_none rfl _

theorem dateOnly_dateText {d : Date} (h : d.HasShortYear) :
    Notation.dateOnly (dateText d).toList = some (d, []) := by
  obtain ⟨hyear, hmonth, hday⟩ := h.fields_lt
  obtain ⟨c, cs, hcs, hdigit⟩ := Reader.exists_cons_zeroPadded (by decide) hyear
  have hlast := Notation.shortField_zeroPadded hday []
  rw [List.append_nil] at hlast
  have hblanks (rest : List Char) :
      Reader.blanks ((zeroPadded 4 d.year.toNat).toList ++ rest) =
        some ((), (zeroPadded 4 d.year.toNat).toList ++ rest) := by
    rw [hcs]
    exact Reader.blanks_of_isDigit hdigit _
  rw [toList_dateText h, Notation.dateOnly, Reader.bind_eq (hblanks _),
    Reader.bind_eq (Notation.year_zeroPadded hyear _), Reader.bind_eq (Reader.char_cons _ _),
    Reader.bind_eq (Notation.shortField_zeroPadded hmonth _),
    Reader.bind_eq (Reader.char_cons _ _), Reader.bind_eq hlast]
  exact Reader.lift_eq h.ofCivil?_eq []

/-- **A date is read back from its text**, as its midnight. -/
theorem ofOperand?_dateText {d : Date} (h : d.HasShortYear) :
    ofOperand? (dateText d) = some (midnight d) := by
  rw [ofOperand?, Reader.all?_eq_none (strict_dateText h),
    Reader.all?_eq_some (dateOnly_dateText h)]
  rfl

/-! ## instants -/

theorem toList_text {t : Instant} (h : t.date.HasShortYear) :
    t.text.toList = (zeroPadded 4 t.date.year.toNat).toList ++
      '-' :: ((zeroPadded 2 t.date.civil.month).toList ++
      '-' :: ((zeroPadded 2 t.date.civil.day).toList ++
      'T' :: ((zeroPadded 2 (t.second / 3600)).toList ++
      ':' :: ((zeroPadded 2 (t.second / 60 % 60)).toList ++
      ':' :: ((zeroPadded 2 (t.second % 60 + t.nano / 1000000000)).toList ++
      ((fractionText (t.nano % 1000000000)).toList ++
      '+' :: ['0', '0', ':', '0', '0'])))))) := by
  rw [text]
  simp [String.toList_append, toList_dateText h]

theorem strict_text {t : Instant} (h : t.date.HasShortYear) :
    Notation.strict t.text.toList = some (t, []) := by
  obtain ⟨hyear, hmonth, hday⟩ := h.fields_lt
  have hsecond := t.second_lt
  have hnano := t.nano_lt
  have hmark (rest : List Char) : Notation.timeMark ('T' :: rest) = some ((), rest) := rfl
  have hoffset : Notation.offset (Reader.char ':') ('+' :: ['0', '0', ':', '0', '0']) =
      some (0, []) := by decide
  rw [toList_text h, Notation.strict,
    Reader.bind_eq (Reader.digits_zeroPadded (by decide) (by decide) hyear _),
    Reader.bind_eq (Reader.char_cons _ _),
    Reader.bind_eq (Reader.digits_zeroPadded (by decide) (by decide) hmonth _),
    Reader.bind_eq (Reader.char_cons _ _),
    Reader.bind_eq (Reader.digits_zeroPadded (by decide) (by decide) hday _),
    Reader.bind_eq (hmark _),
    Reader.bind_eq (Reader.digits_zeroPadded (by decide) (by decide) (by omega) _),
    Reader.bind_eq (Reader.char_cons _ _),
    Reader.bind_eq (Reader.digits_zeroPadded (by decide) (by decide) (by omega) _),
    Reader.bind_eq (Reader.char_cons _ _),
    Reader.bind_eq (Reader.digits_zeroPadded (by decide) (by decide) (by omega) _),
    Reader.bind_eq (Notation.fraction_fractionText (by omega) _), Reader.bind_eq hoffset,
    Reader.bind_eq (Reader.lift_eq h.ofCivil?_eq []),
    Reader.bind_eq (Reader.lift_eq (Notation.timeOfDay?_eq t) [])]
  exact Reader.lift_eq (Notation.ofLocal?_zero t) []

/-- **An instant is read back from its text.** -/
theorem ofOperand?_text {t : Instant} (h : t.date.HasShortYear) : ofOperand? t.text = some t := by
  rw [ofOperand?, Reader.all?_eq_some (strict_text h)]
  rfl

end Instant

end Readership.Calendar
