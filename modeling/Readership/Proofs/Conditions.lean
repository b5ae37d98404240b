import Readership.Filter.Basic
import Readership.Proofs.FilterGrammar
import Readership.Proofs.PathText
import Readership.Proofs.Selection

/-!
# Readership.Proofs.Conditions

Filters that are a single condition.

`Condition.node` writes a condition as a node of a filter tree.  It is read
back and typed exactly if its path leads to a field and its operand fits the
field (`narrow_node_eq_ok_iff`); the values at the end of the path then decide
which views it selects (`mem_ids_test`).
-/

namespace Readership

open Text

namespace Condition

/-- The node that a condition is read from. -/
def node (c : Condition) : Json :=
  .object [("field", .string c.path), ("op", .string c.op.name), ("value", c.operand)]

/-- The node of a condition is read back, unless its path is blank. -/
theorem ofTree_node (c : Condition) :
    Predicate.ofTree c.node =
      if isBlankText c.path then .error .emptyField else .ok (.condition c) := by
  have hshape : FilterNode.shape c.node =
      .condition (.string c.path) (.string c.op.name) (some c.operand) := rfl
  have hentries : ofEntries (.string c.path) (.string c.op.name) (some c.operand) =
      if isBlankText c.path then .error .emptyField else .ok c := by
    simp only [ofEntries, Operator.ofName?_name]
  rw [Predicate.ofTree_eq_ofNode (by simp [node]) (by simp [node]), Predicate.ofNode_eq, hshape]
  simp only [hentries]
  split <;> rfl

/-- A condition stands for a test on the field that its path leads to. -/
theorem toRowFilter_eq_ok_iff {c : Condition} {f : RowFilter} :
    c.toRowFilter = .ok f ↔ ∃ field l, Entity.view.resolve c.path = .ok field ∧
      field.lookup c.op c.operand = .ok l ∧ .test field l = f := by
  rw [toRowFilter]
  cases Entity.view.resolve c.path with
  | error e => simp
  | ok field => simp [map_eq_ok_iff]

end Condition

/-- The tree of a condition is a filter where the condition is: its path is
not blank then. -/
theorem RowFilter.ofTree_node_eq_ok_iff {c : Condition} {f : RowFilter} :
    ofTree c.node = .ok f ↔ c.toRowFilter = .ok f := by
  rw [ofTree, c.ofTree_node]
  cases hblank : isBlankText c.path with
  | false =>
      simp only [Bool.false_eq_true, if_false, Predicate.toRowFilter]
      cases c.toRowFilter <;> simp
  | true =>
      constructor
      · simp
      · intro h
        obtain ⟨field, l, hfield, -⟩ := Condition.toRowFilter_eq_ok_iff.1 h
        rw [Entity.isBlankText_of_resolve hfield] at hblank
        contradiction

namespace ViewQuery

/-- A selection can be narrowed by a condition whose path leads to a field
that its operand fits. -/
theorem narrow_node_eq_ok_iff {q q' : ViewQuery} {c : Condition} :
    q.narrow (some c.node) = .ok q' ↔ ∃ field l, Entity.view.resolve c.path = .ok field ∧
      field.lookup c.op c.operand = .ok l ∧ q.filter (.test field l) = q' := by
  rw [narrow, map_eq_ok_iff]
  simp only [RowFilter.ofTree_node_eq_ok_iff, Condition.toRowFilter_eq_ok_iff]
  constructor
  · rintro ⟨f, ⟨field, l, hfield, hl, rfl⟩, hq⟩
    exact ⟨field, l, hfield, hl, hq⟩
  · rintro ⟨field, l, hfield, hl, hq⟩
    exact ⟨_, ⟨field, l, hfield, hl, rfl⟩, hq⟩

/-- A test alone selects a view by the values at the end of its path. -/
theorem mem_ids_test {field : FieldPath} {l : Lookup} {d : Dataset} {i : Nat} {v : View}
    (hv : d.tables.views[i]? = some v) :
    v.id ∈ (everything.filter (.test field l)).ids d ↔
      l.testAny (d.values ⟨.view, i⟩ field) = true := by
  rw [mem_ids_iff _ hv, selects_filter, RowFilter.holds]
  rfl

end ViewQuery

end Readership
