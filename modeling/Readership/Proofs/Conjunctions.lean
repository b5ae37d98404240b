import Readership.Proofs.FilterMeaning
import Readership.Proofs.Nodes

/-!
# Readership.Proofs.Conjunctions

Trees that join nodes by `and`.

* A conjunction is a filter exactly if each of its nodes is one, and stands for
  all of their filters (`RowFilter.ofTree_conjunction_eq_ok_iff`).
* Narrowing by it leaves the views that pass each of these filters
  (`ViewQuery.selects_filter_all`), as narrowing by one after the other does.

Null and the object without keys are whole trees only: they are no nodes.
-/

namespace Readership

namespace RowFilter

/-- Nodes are filters one by one where they can be read together and typed
together. -/
theorem map_ofTree_eq_iff {nodes : List Json} (hnodes : ∀ j ∈ nodes, j ≠ .null ∧ j ≠ .object [])
    {fs : List RowFilter} :
    nodes.map ofTree = fs.map .ok ↔
      ∃ ps, Predicate.ofNodes nodes = .ok ps ∧ Predicate.toRowFilters ps = .ok fs := by
  simp only [Predicate.ofNodes_eq_ok_iff, Predicate.toRowFilters_eq_ok_iff]
  apply map_two_steps_eq_ok_iff
  intro j hj f
  rw [ofTree_eq_ok_iff, Predicate.ofTree_eq_ofNode (hnodes j hj).1 (hnodes j hj).2]

/-- A conjunction is a filter exactly if its nodes are. -/
theorem ofTree_conjunction_eq_ok_iff {nodes : List Json} (hne : nodes ≠ [])
    (hnodes : ∀ j ∈ nodes, j ≠ .null ∧ j ≠ .object []) {f : RowFilter} :
    ofTree (FilterNode.conjunction nodes) = .ok f ↔
      ∃ fs, nodes.map ofTree = fs.map .ok ∧ .all fs = f := by
  have hread : Predicate.ofTree (FilterNode.conjunction nodes) =
      (Predicate.ofNodes nodes).map Predicate.allOf :=
    (Predicate.ofTree_cons _ _).trans (Predicate.ofNode_conjunction nodes)
  -- of no predicates `allOf` would make the filter that says nothing
  have hall {ps : List Predicate} (hps : Predicate.ofNodes nodes = .ok ps) :
      (Predicate.allOf ps).toRowFilter = (Predicate.toRowFilters ps).map .all := by
    rw [Predicate.ofNodes_eq_ok_iff] at hps
    cases ps with
    | nil => exact absurd (List.map_eq_nil_iff.1 hps) hne
    | cons p ps => rfl
  simp only [ofTree_eq_ok_iff, hread, map_ofTree_eq_iff hnodes, map_eq_ok_iff]
  constructor
  · rintro ⟨_, ⟨ps, hps, rfl⟩, hf⟩
    rw [hall hps] at hf
    obtain ⟨fs, hfs, rfl⟩ := map_eq_ok_iff.1 hf
    exact ⟨fs, ⟨ps, hps, hfs⟩, rfl⟩
  · rintro ⟨fs, ⟨ps, hps, hfs⟩, rfl⟩
    exact ⟨_, ⟨ps, hps, rfl⟩, by rw [hall hps, hfs]; rfl⟩

end RowFilter

namespace ViewQuery

theorem narrow_eq_ok (q : ViewQuery) {tree : Json} {f : RowFilter}
    (h : RowFilter.ofTree tree = .ok f) : q.narrow (some tree) = .ok (q.filter f) := by
  rw [narrow, h]
  rfl

/-- All of some filters are as many conditions. -/
theorem selects_filter_all (q : ViewQuery) (fs : List RowFilter) (d : Dataset) (i : Nat) :
    (q.filter (.all fs)).selects d i = (q.selects d i && fs.all (·.holds d ⟨.view, i⟩)) := by
  rw [selects_filter, RowFilter.holds, RowFilter.holdsAll_eq]

end ViewQuery

end Readership
