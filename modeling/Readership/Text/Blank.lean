/-!
# Readership.Text.Blank

White space, and cutting it off both ends of a text.

* `isBlank` holds of the characters with the Unicode property `White_Space`.
* `trim` drops the blanks before the first and after the last other character, so blanks added
  at either end make no difference (`trimChars_append_left`, `trimChars_append_right`).
-/

namespace Readership.Text

/-- Whether a character has the Unicode property `White_Space`. -/
def isBlank (c : Char) : Bool :=
  let n := c.toNat
  (9 ≤ n && n ≤ 13) || n == 0x20 || n == 0x85 || n == 0xA0 || n == 0x1680 ||
    (0x2000 ≤ n && n ≤ 0x200A) || n == 0x2028 || n == 0x2029 || n == 0x202F || n == 0x205F ||
    n == 0x3000

/-- What is left of a text from its first character that is not blank. -/
def trimStart (cs : List Char) : List Char := cs.dropWhile isBlank

def trimChars (cs : List Char) : List Char :=
  (trimStart (trimStart cs).reverse).reverse

/-- A text without the blanks at its ends. -/
def trim (s : String) : String := String.ofList (trimChars s.toList)

/-- Whether a text holds nothing but blanks. -/
def isBlankText (s : String) : Bool := s.toList.all isBlank

/-! ## blanks at the ends make no difference -/

theorem trimStart_append {ws cs : List Char} (h : ∀ c ∈ ws, isBlank c) :
    trimStart (ws ++ cs) = trimStart cs := by
  rw [trimStart, List.dropWhile_append_of_pos h, trimStart]

theorem trimStart_eq_nil_iff {cs : List Char} : trimStart cs = [] ↔ ∀ c ∈ cs, isBlank c := by
  induction cs with
  | nil => simp [trimStart]
  | cons c cs ih =>
    by_cases hc : isBlank c <;> simp_all [trimStart]

/-- A text that is not all blank keeps what follows its first other character. -/
theorem trimStart_append_of_ne_nil {cs : List Char} (h : trimStart cs ≠ []) (ds : List Char) :
    trimStart (cs ++ ds) = trimStart cs ++ ds := by
  induction cs with
  | nil => exact absurd rfl h
  | cons c cs ih =>
    by_cases hc : isBlank c
    · simp only [trimStart, List.cons_append, List.dropWhile_cons, hc, if_true] at h ⊢
      exact ih h
    · simp [trimStart, hc]

theorem trimChars_append_left {ws cs : List Char} (h : ∀ c ∈ ws, isBlank c) :
    trimChars (ws ++ cs) = trimChars cs := by
  simp only [trimChars, trimStart_append h]

theorem trimChars_append_right {ws cs : List Char} (h : ∀ c ∈ ws, isBlank c) :
    trimChars (cs ++ ws) = trimChars cs := by
  have hr : ∀ c ∈ ws.reverse, isBlank c := fun c hc => h c (List.mem_reverse.1 hc)
  by_cases hn : trimStart cs = []
  · rw [trimChars, trimStart_append (trimStart_eq_nil_iff.1 hn), trimStart_eq_nil_iff.2 h,
      trimChars, hn]
  · rw [trimChars, trimStart_append_of_ne_nil hn, List.reverse_append, trimStart_append hr,
      trimChars]

end Readership.Text
