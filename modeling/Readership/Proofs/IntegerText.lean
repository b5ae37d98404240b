import Mathlib.Algebra.Ring.Int.Defs
import Readership.Text.Blank
import Readership.Text.Numeral

/-!
# Readership.Proofs.IntegerText

Which texts are integers.

`IsInteger` says it without reading: blanks, an optional sign, one or more
digits and blanks again, of a value that fits a 64-bit word.  Reading a trimmed
text finds exactly these (`readInteger?_trim_eq_some_iff`): trimming cuts the
blanks off both ends (`exists_blanks_trimChars`) and nothing else
(`trimChars_of_not_blank`), and what is left is read from its first character.
-/

namespace Readership.Text

/-! ## what is left of a text without blanks -/

theorem exists_blanks_trimStart (cs : List Char) :
    ∃ before, (∀ c ∈ before, isBlank c) ∧ cs = before ++ trimStart cs := by
  refine ⟨cs.takeWhile isBlank, fun c hc => ?_, List.takeWhile_append_dropWhile.symm⟩
  exact List.all_eq_true.1 List.all_takeWhile c hc

/-- A text is what trimming leaves of it, with blanks before and after. -/
theorem exists_blanks_trimChars (cs : List Char) :
    ∃ before after, (∀ c ∈ before, isBlank c) ∧ (∀ c ∈ after, isBlank c) ∧
      cs = before ++ trimChars cs ++ after := by
  obtain ⟨before, hbefore, hcs⟩ := exists_blanks_trimStart cs
  obtain ⟨after, hafter, hrest⟩ := exists_blanks_trimStart (trimStart cs).reverse
  refine ⟨before, after.reverse, hbefore, fun c hc => hafter c (List.mem_reverse.1 hc), ?_⟩
  have hback : trimStart cs = trimChars cs ++ after.reverse := by
    rw [trimChars, ← List.reverse_append, ← hrest, List.reverse_reverse]
  rw [List.append_assoc, ← hback]
  exact hcs

theorem trimStart_of_not_blank {cs : List Char} (h : ∀ c ∈ cs, isBlank c = false) :
    trimStart cs = cs := by
  cases cs with
  | nil => rfl
  | cons c cs => simp [trimStart, h c List.mem_cons_self]

/-- Of a text without blanks all is left. -/
theorem trimChars_of_not_blank {cs : List Char} (h : ∀ c ∈ cs, isBlank c = false) :
    trimChars cs = cs := by
  have hreverse : ∀ c ∈ cs.reverse, isBlank c = false := fun c hc => h c (List.mem_reverse.1 hc)
  rw [trimChars, trimStart_of_not_blank h, trimStart_of_not_blank hreverse, List.reverse_reverse]

/-! ## reading -/

/-- The integer of a sign and digits. -/
def signedValue (sign digits : List Char) : Int :=
  if sign = ['-'] then -(digitsValue digits : Int) else digitsValue digits

/-- Whether characters are a sign and digits of an integer that fits a 64-bit
word. -/
structure IsNumeral (sign digits : List Char) (n : Int) : Prop where
  sign_mem : sign ∈ [[], ['+'], ['-']]
  digits_ne_nil : digits ≠ []
  digits_all : ∀ c ∈ digits, c.isDigit = true
  value_eq : n = signedValue sign digits
  fits : -2 ^ 63 ≤ n ∧ n < 2 ^ 63

/-- Whether a text is an integer, with any blanks around it. -/
def IsInteger (s : String) (n : Int) : Prop :=
  ∃ before sign digits after, s.toList = before ++ (sign ++ digits) ++ after ∧
    (∀ c ∈ before, isBlank c) ∧ (∀ c ∈ after, isBlank c) ∧ IsNumeral sign digits n

theorem fitsWord_iff {n : Int} : fitsWord n = true ↔ -2 ^ 63 ≤ n ∧ n < 2 ^ 63 := by
  rw [fitsWord, Bool.and_eq_true, decide_eq_true_eq, decide_eq_true_eq]
  omega

theorem signedWord?_eq_some_iff {sign digits : List Char} (hsign : sign ∈ [[], ['+'], ['-']])
    {n : Int} :
    signedWord? (decide (sign = ['-'])) digits = some n ↔ IsNumeral sign digits n := by
  have hvalue :
      (if decide (sign = ['-']) then -(digitsValue digits : Int) else digitsValue digits) =
        signedValue sign digits := by
    rw [signedValue]
    simp only [decide_eq_true_eq]
  rw [signedWord?, hvalue]
  constructor
  · intro h
    split at h <;> try contradiction
    next hdigits =>
    simp only [Bool.or_eq_true, not_or, Bool.not_eq_true', List.isEmpty_iff,
      Bool.not_eq_false, List.all_eq_true] at hdigits
    dsimp only at h
    split at h <;> try contradiction
    next hfits =>
    obtain rfl := Option.some.inj h
    exact ⟨hsign, hdigits.1, hdigits.2, rfl, fitsWord_iff.1 hfits⟩
  · intro h
    have hdigits : (digits.isEmpty || !digits.all Char.isDigit) = false := by
      simpa using ⟨h.digits_ne_nil, h.digits_all⟩
    have hfits : fitsWord (signedValue sign digits) = true := fitsWord_iff.2 (h.value_eq ▸ h.fits)
    simp [hdigits, hfits, h.value_eq]

theorem isDigit_ne_sign {c : Char} (h : c.isDigit = true) : c ≠ '-' ∧ c ≠ '+' := by
  constructor
  · rintro rfl
    contradiction
  · rintro rfl
    contradiction

theorem toNat_of_isDigit {c : Char} (h : c.isDigit = true) : 48 ≤ c.toNat ∧ c.toNat ≤ 57 := by
  simpa [Char.isDigit, UInt32.le_iff_toNat_le] using h

theorem isBlank_of_isDigit {c : Char} (h : c.isDigit = true) : isBlank c = false := by
  have hrange := toNat_of_isDigit h
  rw [← Bool.not_eq_true]
  simp only [isBlank, Bool.or_eq_true, Bool.and_eq_true, decide_eq_true_eq, beq_iff_eq]
  omega

/-- A text is read as the integer of its sign and its digits. -/
theorem readInteger?_eq_some_iff {s : String} {n : Int} :
    readInteger? s = some n ↔
      ∃ sign digits, s.toList = sign ++ digits ∧ IsNumeral sign digits n := by
  constructor
  · intro h
    unfold readInteger? at h
    split at h
    · next ds hs => exact ⟨['-'], ds, hs, (signedWord?_eq_some_iff (by simp)).1 h⟩
    · next ds hs => exact ⟨['+'], ds, hs, (signedWord?_eq_some_iff (by simp)).1 h⟩
    · next ds _ _ => exact ⟨[], _, rfl, (signedWord?_eq_some_iff (by simp)).1 h⟩
  · intro h
    obtain ⟨sign, digits, hs, hn⟩ := h
    have hword := (signedWord?_eq_some_iff hn.sign_mem).2 hn
    obtain ⟨d, ds, rfl⟩ := List.exists_cons_of_ne_nil hn.digits_ne_nil
    obtain ⟨hminus, hplus⟩ := isDigit_ne_sign (hn.digits_all d List.mem_cons_self)
    have hsign := hn.sign_mem
    simp only [List.mem_cons, List.not_mem_nil, or_false] at hsign
    rw [readInteger?, hs]
    rcases hsign with rfl | rfl | rfl
    · split
      · next he => exact (hminus (List.cons.inj he).1).elim
      · next he => exact (hplus (List.cons.inj he).1).elim
      · exact hword
    · exact hword
    · exact hword

/-- Signs and digits are no blanks. -/
theorem isBlank_of_isNumeral {sign digits : List Char} {n : Int} (h : IsNumeral sign digits n) :
    ∀ c ∈ sign ++ digits, isBlank c = false := by
  intro c hc
  rcases List.mem_append.1 hc with hsign | hdigit
  · have hmem := h.sign_mem
    simp only [List.mem_cons, List.not_mem_nil, or_false] at hmem
    rcases hmem with rfl | rfl | rfl
    · contradiction
    · obtain rfl := List.mem_singleton.1 hsign
      decide
    · obtain rfl := List.mem_singleton.1 hsign
      decide
  · exact isBlank_of_isDigit (h.digits_all c hdigit)

/-- The texts of integers are those that are read once they are trimmed. -/
theorem readInteger?_trim_eq_some_iff {s : String} {n : Int} :
    readInteger? (trim s) = some n ↔ IsInteger s n := by
  rw [readInteger?_eq_some_iff, trim, String.toList_ofList]
  constructor
  · intro h
    obtain ⟨sign, digits, htrim, hn⟩ := h
    obtain ⟨before, after, hbefore, hafter, hs⟩ := exists_blanks_trimChars s.toList
    exact ⟨before, sign, digits, after, htrim ▸ hs, hbefore, hafter, hn⟩
  · intro h
    obtain ⟨before, sign, digits, after, hs, hbefore, hafter, hn⟩ := h
    refine ⟨sign, digits, ?_, hn⟩
    rw [hs, trimChars_append_right hafter, trimChars_append_left hbefore,
      trimChars_of_not_blank (isBlank_of_isNumeral hn)]

end Readership.Text
