import Mathlib.Algebra.GroupWithZero.Nat
import Mathlib.Data.List.Dedup
import Readership.Report.Grouping

/-!
# Readership.Proofs.Grouping

Which groups there are, and that they share the items out among them.

* `mem_keys_groupBy` -- there is a group for each key that some item has;
* `length_members_groupBy` -- its size is the number of items with that key;
* `toList_groupBy` -- so the list of all groups is told by their keys;
* `size_groupBy` -- there are as many groups as different keys;
* `sum_map_countP` -- distinct keys that cover all items count each item once.
-/

namespace Readership.Report

section
variable {α κ : Type} [Ord κ] [Std.TransOrd κ] [Std.LawfulEqOrd κ]

theorem mem_addTo (key : α → Option κ) (a : α) (groups : Groups κ α) (k : κ) :
    k ∈ addTo key a groups ↔ key a = some k ∨ k ∈ groups := by
  cases hk : key a with
  | none => simp [addTo, hk]
  | some k' => simp [addTo, hk, Std.TreeMap.mem_insert]

theorem mem_keys_groupBy (key : α → Option κ) (items : List α) (k : κ) :
    k ∈ (groupBy key items).keys ↔ ∃ a ∈ items, key a = some k := by
  rw [Std.TreeMap.mem_keys]
  induction items with
  | nil => simp [groupBy]
  | cons a items ih =>
      have hstep : groupBy key (a :: items) = addTo key a (groupBy key items) := rfl
      rw [hstep, mem_addTo, ih]
      simp only [List.mem_cons, exists_eq_or_imp]

theorem length_members_groupBy [DecidableEq κ] (key : α → Option κ) (items : List α) (k : κ) :
    (members (groupBy key items) k).length = items.countP (key · = some k) := by
  rw [members_groupBy, List.countP_eq_length_filter]

theorem toList_groupBy [DecidableEq κ] (key : α → Option κ) (items : List α) :
    (groupBy key items).toList =
      (groupBy key items).keys.map fun k => (k, items.filter (key · = some k)) := by
  have hgroup : ∀ x ∈ (groupBy key items).toList, (x.1, items.filter (key · = some x.1)) = x := by
    rintro ⟨k, group⟩ hmem
    have hget : (groupBy key items)[k]? = some group :=
      Std.TreeMap.mem_toList_iff_getElem?_eq_some.1 hmem
    rw [← members_groupBy, members, Std.TreeMap.getD_eq_getD_getElem?, hget, Option.getD_some]
  rw [← Std.TreeMap.map_fst_toList_eq_keys, List.map_map]
  exact ((List.map_congr_left hgroup).trans (List.map_id' _)).symm

theorem size_groupBy [DecidableEq κ] (key : α → Option κ) (items : List α) :
    (groupBy key items).size = (items.filterMap key).dedup.length := by
  have hperm : (groupBy key items).keys.Perm (items.filterMap key).dedup := by
    rw [List.perm_ext_iff_of_nodup Std.TreeMap.nodup_keys (List.nodup_dedup _)]
    intro k
    rw [mem_keys_groupBy, List.mem_dedup, List.mem_filterMap]
  rw [← Std.TreeMap.length_keys, hperm.length_eq]

end

section
variable {α κ : Type} [DecidableEq κ]

/-- Items counted by distinct keys are all counted, and once, where each has
one of the keys.  The induction takes the items of one key away at a time. -/
theorem sum_map_countP (key : α → Option κ) {ks : List κ} (hnodup : ks.Nodup) {items : List α}
    (hkey : ∀ a ∈ items, ∃ k ∈ ks, key a = some k) :
    (ks.map fun k => items.countP (key · = some k)).sum = items.length := by
  induction ks generalizing items with
  | nil =>
      cases items with
      | nil => rfl
      | cons a items =>
          obtain ⟨k, hk, -⟩ := hkey a List.mem_cons_self
          contradiction
  | cons k ks ih =>
      rw [List.nodup_cons] at hnodup
      have hothers : ∀ k' ∈ ks, items.countP (key · = some k') =
          (items.filter fun a => ¬ key a = some k).countP (key · = some k') := by
        intro k' hk'
        have hne : k' ≠ k := fun he => hnodup.1 (he ▸ hk')
        rw [List.countP_filter]
        apply List.countP_congr
        intro a _
        by_cases ha : key a = some k' <;> simp [ha, hne]
      have hrest : ∀ a ∈ items.filter fun a => ¬ key a = some k, ∃ k' ∈ ks, key a = some k' := by
        intro a ha
        obtain ⟨hmem, hak⟩ := List.mem_filter.1 ha
        obtain ⟨k', hk', hkey'⟩ := hkey a hmem
        rcases List.mem_cons.1 hk' with rfl | hks
        · simp [hkey'] at hak
        · exact ⟨k', hks, hkey'⟩
      rw [List.map_cons, List.sum_cons, List.map_congr_left hothers, ih hnodup.2 hrest,
        ← List.countP_eq_length_filter, List.length_eq_countP_add_countP fun a => key a = some k]
      simp

/-- Where items may lack a key, those that have one are counted. -/
theorem sum_map_countP_isSome (key : α → Option κ) {ks : List κ} (hnodup : ks.Nodup)
    {items : List α} (hkey : ∀ a ∈ items, ∀ k, key a = some k → k ∈ ks) :
    (ks.map fun k => items.countP (key · = some k)).sum = items.countP fun a => (key a).isSome := by
  have hcover : ∀ a ∈ items.filter fun a => (key a).isSome, ∃ k ∈ ks, key a = some k := by
    intro a ha
    obtain ⟨hmem, hsome⟩ := List.mem_filter.1 ha
    obtain ⟨k, hk⟩ := Option.isSome_iff_exists.1 hsome
    exact ⟨k, hkey a hmem k hk, hk⟩
  have hcount (k : κ) : items.countP (key · = some k) =
      (items.filter fun a => (key a).isSome).countP (key · = some k) := by
    rw [List.countP_filter]
    apply List.countP_congr
    intro a _
    by_cases ha : key a = some k <;> simp [ha]
  rw [List.countP_eq_length_filter, ← sum_map_countP key hnodup hcover]
  simp only [hcount]

end

end Readership.Report
