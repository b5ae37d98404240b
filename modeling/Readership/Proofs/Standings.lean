import Readership.Report.Ranking

/-!
# Readership.Proofs.Standings

The order in which entries are ranked.

One entry ranks above another for more views or, with as many views, for the
earlier name (`Standing.Above`); ranking sorts by that and then by the id
(`isLE_order_iff`).  What the sorted list looks like depends on what tells its
entries apart:

* `pairwise_above_rank` -- their names: each ranks above all that follow;
* `pairwise_before_rank` -- their ids: lower ids come first among entries that
  are equal otherwise;
* `pairwise_not_above_rank` -- nothing: no entry ranks above one before it.
-/

namespace Readership.Report

namespace Standing

/-- More views, or as many and the earlier name. -/
def Above (a b : Standing) : Prop := b.views < a.views ∨ a.views = b.views ∧ a.name < b.name

/-- More views, then the earlier name, then the lower id. -/
def Before (a b : Standing) : Prop :=
  Above a b ∨ a.views = b.views ∧ a.name = b.name ∧ a.id < b.id

variable {a b : Standing}

theorem not_above_of_above (h : Above a b) : ¬ Above b a := by
  rintro (hviews | ⟨hviews, hname⟩)
  · rcases h with h | ⟨h, -⟩ <;> omega
  · rcases h with h | ⟨-, h⟩
    · omega
    · exact String.lt_asymm h hname

theorem not_above_of_eq (hviews : a.views = b.views) (hname : a.name = b.name) : ¬ Above b a := by
  rintro (h | ⟨-, h⟩)
  · omega
  · rw [hname] at h
    exact String.lt_irrefl _ h

theorem views_le_of_not_above (h : ¬ Above b a) : b.views ≤ a.views := by
  rw [Above, not_or] at h
  omega

/-- Neither of two entries ranks above the other only where they tell of the
same name and as many views. -/
theorem eq_of_not_above (h : ¬ Above b a) (h' : ¬ Above a b) :
    a.views = b.views ∧ a.name = b.name := by
  have hviews : a.views = b.views :=
    Nat.le_antisymm (views_le_of_not_above h') (views_le_of_not_above h)
  refine ⟨hviews, String.le_antisymm ?_ ?_⟩
  · exact String.not_lt.1 fun hlt => h (.inr ⟨hviews.symm, hlt⟩)
  · exact String.not_lt.1 fun hlt => h' (.inr ⟨hviews, hlt⟩)

/-! ## the order -/

instance : Std.TransCmp order :=
  inferInstanceAs (Std.TransCmp (compareLex
    (compareLex (fun a b => compareOn Standing.views b a) (compareOn Standing.name))
    (compareOn Standing.id)))

theorem isLE_order_iff : (order a b).isLE ↔
    Above a b ∨ a.views = b.views ∧ a.name = b.name ∧ a.id ≤ b.id := by
  have hviews : compare b.views a.views = .eq ↔ a.views = b.views := by
    rw [Nat.compare_eq_eq, eq_comm]
  have hname : compare a.name b.name = .lt ↔ a.name < b.name := compareOfLessAndEq_eq_lt
  rw [order, Ordering.isLE_then_iff_or, Ordering.then_eq_lt, Ordering.then_eq_eq, Above,
    Nat.compare_eq_lt, hviews, hname, Std.compare_eq_iff_eq, Std.isLE_compare, and_assoc]

end Standing

open Standing

theorem rank_perm (entries : List Standing) : (rank entries).Perm entries :=
  List.mergeSort_perm _ _

theorem pairwise_rank (entries : List Standing) :
    (rank entries).Pairwise fun a b => (order a b).isLE := by
  apply List.pairwise_mergeSort
  · exact fun a b c => Std.TransCmp.isLE_trans
  · intro a b
    have hswap : order b a = (order a b).swap := Std.OrientedCmp.eq_swap
    rw [hswap]
    cases order a b <;> rfl

theorem pairwise_above_rank {entries : List Standing} (h : (entries.map (·.name)).Nodup) :
    (rank entries).Pairwise Above := by
  have hnames : (rank entries).Pairwise fun a b => a.name ≠ b.name :=
    List.pairwise_map.1 (((rank_perm entries).map _).nodup_iff.2 h)
  refine (pairwise_rank entries).imp₂ (fun a b hle hne => ?_) hnames
  rcases isLE_order_iff.1 hle with habove | ⟨-, hname, -⟩
  · exact habove
  · contradiction

theorem pairwise_before_rank {entries : List Standing} (h : (entries.map (·.id)).Nodup) :
    (rank entries).Pairwise Before := by
  have hids : (rank entries).Pairwise fun a b => a.id ≠ b.id :=
    List.pairwise_map.1 (((rank_perm entries).map _).nodup_iff.2 h)
  refine (pairwise_rank entries).imp₂ (fun a b hle hne => ?_) hids
  rcases isLE_order_iff.1 hle with habove | ⟨hviews, hname, hid⟩
  · exact .inl habove
  · exact .inr ⟨hviews, hname, by omega⟩

theorem pairwise_not_above_rank (entries : List Standing) :
    (rank entries).Pairwise fun a b => ¬ Above b a := by
  refine (pairwise_rank entries).imp fun hle => ?_
  rcases isLE_order_iff.1 hle with habove | ⟨hviews, hname, -⟩
  · exact not_above_of_above habove
  · exact not_above_of_eq hviews hname

end Readership.Report
