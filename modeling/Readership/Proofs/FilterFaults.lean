import Readership.Proofs.Authors
import Readership.Proofs.Leaves
import Readership.Proofs.Parameters
import Readership.Proofs.WellTyped

/-!
# Readership.Proofs.FilterFaults

What is wrong with a filter, told from its text.

A text holds a tree where it is JSON (`treeOf?`).  A tree has faults of shape, node
by node, and of typing, condition by condition; reading it ends with the first of
them (`RowFilter.faultOf?_ofTree`).  So reading the text ends with the first of
`filterFaults`, and where it has none the views that are left are those that the
tree holds of (`Analytics.rows_selected_none`).
-/

namespace Readership

open Text

/-! ## trees -/

/-- What is wrong with the shape of a whole tree, node by node. -/
def shapeFaults : Json → List StructureError
  | .null => []
  | .object [] => []
  | tree => (FilterNode.preorder tree).filterMap FilterNode.fault?

/-- What is wrong with a whole tree: its shape comes first, and then the types of
its conditions from left to right. -/
def treeFaults (tree : Json) : List FilterError :=
  (shapeFaults tree).map .shape ++
    ((FilterNode.conditions tree).flatMap (·.faults)).map .typing

theorem faultOf?_predicateOfTree (tree : Json) :
    faultOf? (Predicate.ofTree tree) = (shapeFaults tree).head? := by
  by_cases hnull : tree = .null
  · subst hnull
    rfl
  by_cases hempty : tree = .object []
  · subst hempty
    rfl
  have hshape : shapeFaults tree = (FilterNode.preorder tree).filterMap FilterNode.fault? := by
    unfold shapeFaults
    split <;> first | contradiction | rfl
  rw [hshape, List.head?_filterMap, Predicate.ofTree_eq_ofNode hnull hempty,
    FilterNode.faultOf?_ofNode_eq_findSome?]

/-- A tree is refused with the first of its faults. -/
theorem RowFilter.faultOf?_ofTree (tree : Json) :
    faultOf? (ofTree tree) = (treeFaults tree).head? := by
  have hbind : ofTree tree = ((Predicate.ofTree tree).mapError .shape).bind fun p =>
      p.toRowFilter.mapError .typing := by
    rw [ofTree]
    cases Predicate.ofTree tree with
    | error e => rfl
    | ok p =>
        simp only [Except.mapError, Except.bind]
        cases p.toRowFilter <;> rfl
  rw [hbind]
  apply faultOf?_bind
  · rw [faultOf?_mapError, faultOf?_predicateOfTree, List.head?_map]
  · intro p hp
    rw [mapError_eq_ok_iff] at hp
    rw [faultOf?_mapError, Predicate.faultOf?_toRowFilter, Predicate.conditions_of_ofTree hp,
      List.head?_map, List.head?_flatMap]

/-! ## texts -/

/-- The tree that the text of a filter holds.  A blank text holds none. -/
def treeOf? (filters : Option String) : Option Json := (filters.map trim).bind Json.read?

/-- What is wrong with the filter of a request: its text is no JSON, or there is
something wrong with the tree that it holds. -/
def filterFaults (filters : Option String) : List AnalyticsError :=
  (Request.faults none .filtersNotJson (fun s => (Json.read? (trim s)).isSome) filters).map
      .parameter ++
    (treeOf? filters).elim [] fun tree => (treeFaults tree).map .filter

/-- The tree that is read is the one that the text holds. -/
theorem Request.eq_treeOf?_of_loadFilters {filters : Option String} {tree : Option Json}
    (h : loadFilters filters = .ok tree) : tree = treeOf? filters := by
  cases tree with
  | none =>
      rcases given?_eq_none_iff.1 (optional_eq_none_iff.1 h) with rfl | hblank
      · rfl
      · rw [treeOf?, hblank]
        decide +kernel
  | some tree =>
      obtain ⟨t, ht, hread⟩ := optional_eq_some_iff.1 h
      rw [treeOf?, (given?_eq_some_iff.1 ht).1, Option.bind_some]
      rw [readTree] at hread
      cases hjson : Json.read? t with
      | none => simp [hjson] at hread
      | some j => simpa [hjson] using hread.symm

namespace Analytics

theorem faultOf?_filterOf (filters : Option String) :
    faultOf? (filterOf filters) = (filterFaults filters).head? := by
  rw [filterOf, filterFaults]
  apply faultOf?_bind
  · rw [faultOf?_mapError, Request.loadFilters,
      Request.faultOf?_optional Request.faultOf?_readTree, List.head?_map]
  · intro tree htree
    rw [mapError_eq_ok_iff] at htree
    rw [← Request.eq_treeOf?_of_loadFilters htree]
    cases tree with
    | none => rfl
    | some tree =>
        rw [filterOfTree, faultOf?_map, faultOf?_mapError, RowFilter.faultOf?_ofTree,
          Option.elim_some, List.head?_map]

/-- Whatever a selection is reported on, its filter is read before. -/
theorem faultOf?_answer {α : Type} (q : ViewQuery) (report : ViewQuery → Except AnalyticsError α)
    (filters : Option String) {gs : List AnalyticsError}
    (hreport : ∀ f, filterOf filters = .ok f → faultOf? (report (f.elim q q.filter)) = gs.head?) :
    faultOf? (answer q report filters) = (filterFaults filters ++ gs).head? := by
  rw [answer_eq]
  exact faultOf?_bind (faultOf?_filterOf filters) hreport

theorem filterOfTree_treeOf? {filters : Option String} {f : Option RowFilter}
    (h : filterOf filters = .ok f) : filterOfTree (treeOf? filters) = .ok f := by
  rw [filterOf] at h
  cases hload : Request.loadFilters filters with
  | error e =>
      rw [hload] at h
      contradiction
  | ok tree =>
      rw [hload] at h
      rwa [← Request.eq_treeOf?_of_loadFilters hload]

/-- The filter that is read leaves the views that its tree holds of. -/
theorem rows_selected_none (d : Dataset) {filters : Option String} {f : Option RowFilter}
    (hf : filterOf filters = .ok f) :
    (selected f none).rows d = (d.tables.views.toList.zipIdx.filter fun (_, i) =>
      (treeOf? filters).all (FilterNode.satTree d.tables ⟨.view, i⟩)).map (·.1) := by
  have htree := filterOfTree_treeOf? hf
  cases hasked : treeOf? filters with
  | none =>
      rw [hasked] at htree
      obtain rfl : none = f := Except.ok.inj htree
      exact ViewQuery.rows_eq_filter _ d
  | some tree =>
      rw [hasked, filterOfTree] at htree
      obtain ⟨g, hg, rfl⟩ := map_eq_ok_iff.1 htree
      have hrows : (selected (some g) none).rows d =
          ((ViewQuery.everything.filter g).kept d).map (·.1) := ViewQuery.rows_eq_filter _ d
      rw [hrows, ViewQuery.kept]
      simp only [ViewQuery.selects_filter, ViewQuery.selects_everything, Bool.true_and,
        RowFilter.holds_ofTree (mapError_eq_ok_iff.1 hg), Option.all_some]

end Analytics

end Readership
