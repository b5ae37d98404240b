import Mathlib.Data.List.Forall2
import Readership.Text.Lowercase

/-!
# Readership.Proofs.Lowercasing

Lower case of a text that stands within another one.

Every character but `Σ` has its lower case by itself.  A `Σ` takes its form from
the nearest characters on either side that cannot be ignored, and these may lie
outside the text.  So a text within another one need not be lowered as it is
alone:

* it is where each `Σ` in it takes the form it has in the text alone
  (`KeepsSigmas.lowerWithin_eq`);
* that is so wherever the text stands if each `Σ` finds its neighbours within the
  text (`infix_lowerAfter_iff`), as `settlesSigmas` decides.

A `Σ` that looks beyond the text can be turned by a single capital: one in front
makes it final, one behind takes that from it.  Such a letter turns the others the
same way or not at all, so that one of the two forms gets rarer than it is in the
text alone (`count_lowerWithin_lt`), and the lower case of the text has no place.
-/

namespace Readership.Text

/-! ## words -/

/-- Characters that can be ignored leave it to those behind them. -/
theorem wordGoesOn_append (cs ds : List Char) :
    wordGoesOn (cs ++ ds) = if cs.all isCaseIgnorable then wordGoesOn ds else wordGoesOn cs := by
  induction cs with
  | nil => rfl
  | cons c cs ih =>
      cases hc : isCaseIgnorable c with
      | false => simp [wordGoesOn, hc]
      | true => simpa [wordGoesOn, hc] using ih

theorem wordGoesOn_of_all {cs : List Char} (h : cs.all isCaseIgnorable = true) :
    wordGoesOn cs = false := by
  rw [← List.append_nil cs, wordGoesOn_append, if_pos h]
  rfl

/-- A capital carries a word on past characters that can be ignored. -/
theorem wordGoesOn_concat (cs : List Char) :
    wordGoesOn (cs ++ ['A']) = (cs.all isCaseIgnorable || wordGoesOn cs) := by
  have hcapital : wordGoesOn ['A'] = true := by decide +kernel
  rw [wordGoesOn_append, hcapital]
  cases cs.all isCaseIgnorable <;> rfl

/-! ## the forms of sigma -/

/-- The lower case of a `Σ`; `before` are the characters in front of it, the
nearest first, and `after` those behind. -/
def sigma (before after : List Char) : Char :=
  if wordGoesOn before && !wordGoesOn after then 'ς' else 'σ'

/-- Whether these characters decide on the form of the `Σ` between them. -/
def settlesSigma (before after : List Char) : Bool :=
  wordGoesOn after ||
    !before.all isCaseIgnorable && (!wordGoesOn before || !after.all isCaseIgnorable)

section
variable {before after : List Char}

/-- What stands further out does not matter to a `Σ` that is settled. -/
theorem sigma_append_append (h : settlesSigma before after = true) (outer outer' : List Char) :
    sigma (before ++ outer) (after ++ outer') = sigma before after := by
  have hbefore := @wordGoesOn_of_all before
  have hafter := @wordGoesOn_of_all after
  rw [sigma, sigma, wordGoesOn_append, wordGoesOn_append]
  grind [settlesSigma]

/-- A `Σ` that is not settled can be turned, by a capital in front or by one behind. -/
theorem sigma_of_not_settlesSigma (h : settlesSigma before after = false) :
    sigma before after = 'σ' ∧ sigma (before ++ ['A']) after = 'ς' ∨
      sigma before after = 'ς' ∧ sigma before (after ++ ['A']) = 'σ' := by
  have hbefore := @wordGoesOn_of_all before
  simp only [sigma, wordGoesOn_concat]
  grind [settlesSigma]

/-- A capital in front of a text takes the final form from no `Σ`. -/
theorem sigma_concat_left (h : sigma (before ++ ['A']) after = 'σ') :
    sigma before after = 'σ' := by
  rw [sigma, wordGoesOn_concat] at h
  grind [sigma]

/-- A capital behind a text gives the final form to no `Σ`. -/
theorem sigma_concat_right (h : sigma before (after ++ ['A']) = 'ς') :
    sigma before after = 'ς' := by
  rw [sigma, wordGoesOn_concat] at h
  grind [sigma]

end

/-! ## parts of texts -/

/-- The lower case of a part of a text; `before` are the characters in front of
it, the nearest first, and `after` those behind. -/
def lowerWithin (before after : List Char) : List Char → List Char
  | [] => []
  | c :: cs =>
    (if c = 'Σ' then [sigma before (cs ++ after)] else lowerChar c) ++
      lowerWithin (c :: before) after cs

theorem lowerWithin_append (before after cs ds : List Char) :
    lowerWithin before after (cs ++ ds) =
      lowerWithin before (ds ++ after) cs ++ lowerWithin (cs.reverse ++ before) after ds := by
  induction cs generalizing before with
  | nil => rfl
  | cons c cs ih => simp [lowerWithin, ih]

/-- A text is a part with nothing behind it. -/
theorem lowerAfter_eq_lowerWithin (before cs : List Char) :
    lowerAfter before cs = lowerWithin before [] cs := by
  induction cs generalizing before with
  | nil => rfl
  | cons c cs ih => rw [lowerAfter, lowerWithin, ih, List.append_nil, sigma]

/-- The lower case of a text is put together from those of its parts. -/
theorem lowerAfter_append_append (before cs after : List Char) :
    lowerAfter [] (before ++ cs ++ after) =
      lowerWithin [] (cs ++ after) before ++ lowerWithin before.reverse after cs ++
        lowerWithin (before ++ cs).reverse [] after := by
  simp [lowerAfter_eq_lowerWithin, lowerWithin_append]

/-- What holds at each `Σ` of a text, with `l` in front of it and `r` behind, holds
at the first character, if it is one, and at each `Σ` of the rest. -/
theorem forall_sigma_cons_iff {P : List Char → List Char → Prop} {c : Char} {cs : List Char} :
    (∀ l r, c :: cs = l ++ 'Σ' :: r → P l r) ↔
      (c = 'Σ' → P [] cs) ∧ ∀ l r, cs = l ++ 'Σ' :: r → P (c :: l) r := by
  constructor
  · intro h
    refine ⟨fun hc => h [] cs (by rw [hc, List.nil_append]), fun l r hcs => ?_⟩
    exact h (c :: l) r (by rw [hcs, List.cons_append])
  · rintro ⟨hhead, htail⟩ l r hcs
    cases l with
    | nil =>
        obtain ⟨hc, rfl⟩ := List.cons_eq_cons.1 hcs
        exact hhead hc
    | cons b l =>
        obtain ⟨rfl, rfl⟩ := List.cons_eq_cons.1 hcs
        exact htail l r rfl

/-- Two places of one text: the lower cases are related as the forms of each `Σ` are. -/
theorem forall₂_lowerWithin {R : Char → Char → Prop} (hrefl : ∀ c, R c c)
    {cs before after before' after' : List Char}
    (h : ∀ l r, cs = l ++ 'Σ' :: r →
      R (sigma (l.reverse ++ before) (r ++ after)) (sigma (l.reverse ++ before') (r ++ after'))) :
    List.Forall₂ R (lowerWithin before after cs) (lowerWithin before' after' cs) := by
  induction cs generalizing before before' with
  | nil => exact .nil
  | cons c cs ih =>
      obtain ⟨hhead, htail⟩ := forall_sigma_cons_iff.1 h
      have hrest : List.Forall₂ R (lowerWithin (c :: before) after cs)
          (lowerWithin (c :: before') after' cs) := by
        apply ih
        intro l r hcs
        simpa using htail l r hcs
      rw [lowerWithin, lowerWithin]
      apply List.rel_append _ hrest
      by_cases hc : c = 'Σ'
      · rw [if_pos hc, if_pos hc]
        exact .cons (hhead hc) .nil
      · rw [if_neg hc, if_neg hc]
        exact List.forall₂_same.2 fun c _ => hrefl c

/-! ## texts within others -/

/-- That each `Σ` of a text has the form there that it has in the text alone. -/
def KeepsSigmas (before cs after : List Char) : Prop :=
  ∀ l r, cs = l ++ 'Σ' :: r →
    sigma (l.reverse ++ before.reverse) (r ++ after) = sigma l.reverse r

theorem KeepsSigmas.lowerWithin_eq {before cs after : List Char} (h : KeepsSigmas before cs after) :
    lowerWithin before.reverse after cs = lowerAfter [] cs := by
  rw [lowerAfter_eq_lowerWithin, ← List.forall₂_eq_eq_eq]
  apply forall₂_lowerWithin fun _ => rfl
  intro l r hcs
  simpa using h l r hcs

/-- A text is found by its lower case where it keeps its forms. -/
theorem KeepsSigmas.infix_lowerAfter {before cs after : List Char}
    (h : KeepsSigmas before cs after) :
    lowerAfter [] cs <:+: lowerAfter [] (before ++ cs ++ after) := by
  rw [lowerAfter_append_append, h.lowerWithin_eq]
  exact List.infix_append _ _ _

/-- Whether each `Σ` of a text is settled within the text; `before` are the
characters in front of it, the nearest first. -/
def settlesSigmas (before : List Char) : List Char → Bool
  | [] => true
  | c :: cs => (c != 'Σ' || settlesSigma before cs) && settlesSigmas (c :: before) cs

theorem settlesSigmas_iff {before cs : List Char} : settlesSigmas before cs = true ↔
    ∀ l r, cs = l ++ 'Σ' :: r → settlesSigma (l.reverse ++ before) r = true := by
  induction cs generalizing before with
  | nil => simp [settlesSigmas]
  | cons c cs ih =>
      rw [forall_sigma_cons_iff, settlesSigmas, Bool.and_eq_true, Bool.or_eq_true, bne_iff_ne, ih,
        imp_iff_not_or]
      simp

theorem keepsSigmas_of_settlesSigmas {cs : List Char} (h : settlesSigmas [] cs = true)
    (before after : List Char) : KeepsSigmas before cs after := by
  intro l r hcs
  have hsettled := settlesSigmas_iff.1 h l r hcs
  rw [List.append_nil] at hsettled
  exact sigma_append_append hsettled _ _

theorem settlesSigmas_of_not_mem {cs : List Char} (h : 'Σ' ∉ cs) :
    settlesSigmas [] cs = true := by
  apply settlesSigmas_iff.2
  rintro l r rfl
  simp at h

/-- Related texts: where one has a character, so has the other. -/
theorem count_le_of_forall₂ {ch : Char} {cs ds : List Char}
    (h : List.Forall₂ (fun c d => c = ch → d = ch) cs ds) : cs.count ch ≤ ds.count ch := by
  induction h with
  | nil => exact Nat.le_refl _
  | @cons c d cs ds hcd _ ih =>
      by_cases hc : c = ch
      · rw [hcd hc, hc, List.count_cons_self, List.count_cons_self]
        exact Nat.succ_le_succ ih
      · rw [List.count_cons_of_ne hc]
        exact Nat.le_trans ih List.count_le_count_cons

/-- Of two places of one text, a form is no more frequent in the first if each `Σ`
that has it there has it in the second as well. -/
theorem count_lowerWithin_le {ch : Char} {cs before after before' after' : List Char}
    (h : ∀ l r, cs = l ++ 'Σ' :: r →
      sigma (l.reverse ++ before) (r ++ after) = ch →
        sigma (l.reverse ++ before') (r ++ after') = ch) :
    (lowerWithin before after cs).count ch ≤ (lowerWithin before' after' cs).count ch :=
  count_le_of_forall₂ (forall₂_lowerWithin (fun _ => id) h)

/-- It is less frequent there if some `Σ` has it in the second only. -/
theorem count_lowerWithin_lt {ch : Char} {cs before after before' after' l r : List Char}
    (h : ∀ l r, cs = l ++ 'Σ' :: r →
      sigma (l.reverse ++ before) (r ++ after) = ch →
        sigma (l.reverse ++ before') (r ++ after') = ch)
    (hcs : cs = l ++ 'Σ' :: r) (hold : sigma (l.reverse ++ before') (r ++ after') = ch)
    (hnew : sigma (l.reverse ++ before) (r ++ after) ≠ ch) :
    (lowerWithin before after cs).count ch < (lowerWithin before' after' cs).count ch := by
  subst hcs
  have hl : (lowerWithin before ('Σ' :: r ++ after) l).count ch ≤
      (lowerWithin before' ('Σ' :: r ++ after') l).count ch := by
    apply count_lowerWithin_le
    rintro l r' rfl
    simpa using h l (r' ++ 'Σ' :: r) (by simp)
  have hr : (lowerWithin ('Σ' :: (l.reverse ++ before)) after r).count ch ≤
      (lowerWithin ('Σ' :: (l.reverse ++ before')) after' r).count ch := by
    apply count_lowerWithin_le
    rintro l' r rfl
    simpa using h (l ++ 'Σ' :: l') r (by simp)
  have hsigma : List.count ch [sigma (l.reverse ++ before) (r ++ after)] = 0 :=
    List.count_eq_zero.2 fun hmem => hnew (List.mem_singleton.1 hmem).symm
  simp only [lowerWithin_append, lowerWithin, if_true, hold, List.count_append, hsigma,
    List.count_singleton_self]
  omega

/-- Where a form occurs less often in a text than alone, and not around it, there
is no place for the lower case of the text. -/
theorem not_infix_lowerAfter (ch : Char) {before cs after : List Char}
    (hlt : (lowerWithin before.reverse after cs).count ch < (lowerAfter [] cs).count ch)
    (hbefore : ch ∉ lowerWithin [] (cs ++ after) before)
    (hafter : ch ∉ lowerWithin (before ++ cs).reverse [] after) :
    ¬ lowerAfter [] cs <:+: lowerAfter [] (before ++ cs ++ after) := by
  intro hinfix
  have hle := hinfix.sublist.count_le ch
  rw [lowerAfter_append_append, List.count_append, List.count_append,
    List.count_eq_zero.2 hbefore, List.count_eq_zero.2 hafter] at hle
  omega

/-- Next to a capital, a text that leaves a `Σ` open is not found by its lower case. -/
theorem exists_not_infix_lowerAfter {cs : List Char} (h : settlesSigmas [] cs = false) :
    ∃ ds, cs <:+: ds ∧ ¬ lowerAfter [] cs <:+: lowerAfter [] ds := by
  have hopen : ∃ l r, cs = l ++ 'Σ' :: r ∧ settlesSigma l.reverse r = false := by
    rw [← Bool.not_eq_true, settlesSigmas_iff] at h
    push Not at h
    simpa using h
  have hcapital (before after : List Char) : lowerWithin before after ['A'] = ['a'] := by
    simp [lowerWithin, show lowerChar 'A' = ['a'] by decide]
  obtain ⟨l, r, hcs, hopen⟩ := hopen
  obtain ⟨halone, hturned⟩ | ⟨halone, hturned⟩ := sigma_of_not_settlesSigma hopen
  · -- in front, the capital makes some `Σ` final and takes that from none
    refine ⟨['A'] ++ cs ++ [], List.infix_append _ _ _, not_infix_lowerAfter 'σ' ?_ ?_ ?_⟩
    · rw [lowerAfter_eq_lowerWithin]
      apply count_lowerWithin_lt _ hcs (by simpa using halone) (by simp [hturned])
      intro l r _
      simpa using sigma_concat_left
    · simp [hcapital]
    · simp [lowerWithin]
  · -- behind, it takes that from some `Σ` and gives it to none
    refine ⟨[] ++ cs ++ ['A'], List.infix_append _ _ _, not_infix_lowerAfter 'ς' ?_ ?_ ?_⟩
    · rw [lowerAfter_eq_lowerWithin]
      apply count_lowerWithin_lt _ hcs (by simpa using halone) (by simp [hturned])
      intro l r _
      simpa using sigma_concat_right
    · simp [lowerWithin]
    · simp [hcapital]

/-- A text is found by its lower case wherever it stands exactly if each `Σ` in it
is settled within it. -/
theorem infix_lowerAfter_iff {cs : List Char} :
    (∀ ds, cs <:+: ds → lowerAfter [] cs <:+: lowerAfter [] ds) ↔
      settlesSigmas [] cs = true := by
  constructor
  · intro h
    by_contra hopen
    obtain ⟨ds, hds, hnot⟩ := exists_not_infix_lowerAfter (Bool.not_eq_true _ ▸ hopen)
    exact hnot (h ds hds)
  · rintro h _ ⟨before, after, rfl⟩
    exact (keepsSigmas_of_settlesSigmas h before after).infix_lowerAfter

/-- A `Σ` at the start of a word is settled by the letter behind it, one at the end
of a word is not. -/
example : settlesSigmas [] "ΣΟΦΙΑ".toList = true ∧ settlesSigmas [] "ΟΔΟΣ".toList = false := by
  decide +kernel

end Readership.Text
