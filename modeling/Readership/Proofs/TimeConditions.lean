import Readership.Proofs.Conditions
import Readership.Proofs.InstantText

/-!
# Readership.Proofs.TimeConditions

Conditions on the time of a view.

`Condition.onTime` compares the time of a view with a written instant or date.
It is a filter whenever the text can be read (`RowFilter.ofTree_onTime`), and
holds of the views whose time stands so to the instant
(`RowFilter.holds_viewedAt`): no relation is followed on the way.
-/

namespace Readership

open Calendar

/-! ## instants in order -/

namespace Lookup

variable {a t : Instant}

theorem test_greaterOrEqual_timestamp :
    (greaterOrEqual (.timestamp a)).test (.timestamp t) = decide (a ≤ t) := by
  rw [Bool.eq_iff_iff, decide_eq_true_eq]
  exact Std.isGE_compare (a := t.rank) (b := a.rank)

theorem test_lessOrEqual_timestamp :
    (lessOrEqual (.timestamp a)).test (.timestamp t) = decide (t ≤ a) := by
  rw [Bool.eq_iff_iff, decide_eq_true_eq]
  exact Std.isLE_compare (a := t.rank) (b := a.rank)

theorem test_less_timestamp :
    (less (.timestamp a)).test (.timestamp t) = decide (t < a) := by
  have hlt : (compare t.rank a.rank).isLT = true ↔ t.rank < a.rank := by
    rw [Ordering.isLT_iff_eq_lt, Std.compare_eq_lt]
  rw [Bool.eq_iff_iff, decide_eq_true_eq]
  exact hlt

end Lookup

/-! ## conditions -/

/-- The condition that the time of a view stands to a written instant as an
operator says. -/
def Condition.onTime (op : Operator) (s : String) : Condition := ⟨"viewed_at", op, .string s⟩

namespace RowFilter

open ViewQuery

/-- An ordering operator and a text that holds an instant make a filter. -/
theorem ofTree_onTime (op : Operator) {test : Value → Lookup}
    (htest : ∀ j, viewedAt.lookup op j = viewedAt.comparing op test j) {s : String} {t : Instant}
    (hs : Instant.ofOperand? s = some t) :
    ofTree (Condition.onTime op s).node = .ok (.test viewedAt (test (.timestamp t))) := by
  have hfield : Entity.view.resolve "viewed_at" = .ok viewedAt :=
    toOption_eq_some_iff.1 resolve_viewedAt
  have hoperand : viewedAt.operand op (.string s) = .ok (.timestamp t) := by
    simp [FieldPath.operand, FieldPath.type, viewedAt, Column.type, FieldType.operand?, hs]
  have hlookup : viewedAt.lookup op (.string s) = .ok (test (.timestamp t)) := by
    rw [htest, FieldPath.comparing, if_pos (by rfl), hoperand]
    rfl
  rw [ofTree_node_eq_ok_iff, Condition.toRowFilter_eq_ok_iff]
  exact ⟨viewedAt, _, hfield, hlookup, rfl⟩

/-- A test of the time of a view is one of its own row. -/
theorem holds_viewedAt {d : Dataset} {i : Nat} {v : View} (hv : d.tables.views[i]? = some v)
    {l : Lookup} (hl : l ≠ .isNull) :
    (test viewedAt l).holds d ⟨.view, i⟩ = l.test (.timestamp v.viewedAt) := by
  have hread : d.tables.read ⟨.view, i⟩ .viewedAt = .timestamp v.viewedAt := by
    simp [Tables.read, hv, View.read]
  have hvalues : d.values ⟨.view, i⟩ viewedAt = [.timestamp v.viewedAt] := by
    simp [Dataset.values, viewedAt, Dataset.reach, Dataset.read, hread]
  rw [holds, hvalues]
  cases l <;> first | contradiction | simp [Lookup.testAny]

end RowFilter

end Readership
