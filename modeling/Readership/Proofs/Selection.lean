import Readership.Proofs.Integrity
import Readership.ViewQuery

/-!
# Readership.Proofs.Selection

What a selection of views holds, in terms of its filters.

Views are passed over when their key occurred before, which never happens in
a dataset (`rows_eq_filter`): a selection is the table of views, filtered.  So
the filters at the position of a view decide whether it is selected
(`mem_ids_iff`), and one more filter is one more condition (`selects_filter`).
A filter that a view passes or not whatever its position filters the selected
views themselves (`rows_filter`).
-/

namespace Readership

namespace ViewQuery

/-- Nothing is passed over where all keys differ. -/
theorem distinct_eq_self {seen : Std.HashSet Int} {vs : List View}
    (hnodup : (vs.map (·.id)).Nodup) (hseen : ∀ v ∈ vs, v.id ∉ seen) : distinct seen vs = vs := by
  induction vs generalizing seen with
  | nil => rfl
  | cons v vs ih =>
      rw [List.map_cons, List.nodup_cons] at hnodup
      rw [List.forall_mem_cons] at hseen
      have hrest : ∀ w ∈ vs, w.id ∉ seen.insert v.id := by
        intro w hw hmem
        rcases Std.HashSet.mem_insert.1 hmem with he | hs
        · exact hnodup.1 (List.mem_map.2 ⟨w, hw, (eq_of_beq he).symm⟩)
        · exact hseen.2 w hw hs
      rw [distinct, if_neg hseen.1, ih hnodup.2 hrest]

/-- The positions that a selection keeps, with their views. -/
def kept (q : ViewQuery) (d : Dataset) : List (View × Nat) :=
  d.tables.views.toList.zipIdx.filter fun (_, i) => q.selects d i

/-- The kept views stand in the order of their table. -/
theorem map_kept_sublist (q : ViewQuery) (d : Dataset) :
    ((q.kept d).map (·.1)).Sublist d.tables.views.toList := by
  have hsub := (List.filter_sublist (p := fun (_, i) => q.selects d i)
    (l := d.tables.views.toList.zipIdx)).map (·.1)
  rwa [List.zipIdx_map_fst] at hsub

theorem nodup_ids_kept (q : ViewQuery) (d : Dataset) :
    (((q.kept d).map (·.1)).map (·.id)).Nodup := by
  have hids : (d.tables.views.toList.map (·.id)).Nodup := d.sound.nodup_ids .view
  exact ((q.map_kept_sublist d).map _).nodup hids

/-- The views that a selection holds are those that its filters keep. -/
theorem rows_eq_filter (q : ViewQuery) (d : Dataset) : q.rows d = (q.kept d).map (·.1) :=
  distinct_eq_self (q.nodup_ids_kept d) (by simp)

theorem rows_sublist (q : ViewQuery) (d : Dataset) : (q.rows d).Sublist d.tables.views.toList := by
  rw [rows_eq_filter]
  exact q.map_kept_sublist d

theorem mem_views_of_mem_rows {q : ViewQuery} {d : Dataset} {v : View} (h : v ∈ q.rows d) :
    v ∈ d.tables.views.toList :=
  (q.rows_sublist d).subset h

theorem ids_eq_map_kept (q : ViewQuery) (d : Dataset) :
    q.ids d = (q.kept d).map (·.1.id) := by
  rw [ids, rows_eq_filter, List.map_map]
  rfl

/-- The position of a view decides whether its id is selected, since no other
view has it. -/
theorem mem_ids_iff (q : ViewQuery) {d : Dataset} {i : Nat} {v : View}
    (hv : d.tables.views[i]? = some v) : v.id ∈ q.ids d ↔ q.selects d i = true := by
  have hget : d.tables.views.toList[i]? = some v := by rw [Array.getElem?_toList, hv]
  have hi : (v, i) ∈ d.tables.views.toList.zipIdx := List.mk_mem_zipIdx_iff_getElem?.2 hget
  rw [ids_eq_map_kept, List.mem_map]
  constructor
  · rintro ⟨⟨w, j⟩, hmem, hid⟩
    obtain ⟨hj, hselects⟩ := List.mem_filter.1 hmem
    have hgetj : d.tables.views.toList[j]? = some w := List.mk_mem_zipIdx_iff_getElem?.1 hj
    have hidj : (d.tables.ids .view)[j]? = (d.tables.ids .view)[i]? := by
      simp only [Tables.ids, List.getElem?_map, hgetj, hget, Option.map_some]
      exact congrArg some hid
    have hlt : j < (d.tables.ids .view).length := by
      rw [Tables.ids, List.length_map]
      exact (List.getElem?_eq_some_iff.1 hgetj).1
    obtain rfl : j = i := (List.getElem?_inj hlt (d.sound.nodup_ids .view)).1 hidj
    exact hselects
  · exact fun hselects => ⟨(v, i), List.mem_filter.2 ⟨hi, hselects⟩, rfl⟩

/-- A selected id is that of a view. -/
theorem exists_view_of_mem_ids {q : ViewQuery} {d : Dataset} {id : Int} (h : id ∈ q.ids d) :
    ∃ (i : Nat) (v : View), d.tables.views[i]? = some v ∧ v.id = id := by
  obtain ⟨v, hv, rfl⟩ := List.mem_map.1 h
  obtain ⟨i, hi⟩ := Array.mem_iff_getElem?.1 (Array.mem_toList_iff.1 (mem_views_of_mem_rows hv))
  exact ⟨i, v, hi, rfl⟩

/-- Two selections agree where they select the same views. -/
theorem ids_eq_ids_iff (q q' : ViewQuery) (d : Dataset) :
    q.ids d = q'.ids d ↔
      ∀ (i : Nat) (v : View), d.tables.views[i]? = some v →
        (v.id ∈ q.ids d ↔ v.id ∈ q'.ids d) := by
  constructor
  · intro h i v _
    rw [h]
  · intro h
    rw [ids_eq_map_kept, ids_eq_map_kept, kept, kept]
    congr 1
    apply List.filter_congr
    rintro ⟨v, i⟩ hmem
    have hv : d.tables.views[i]? = some v := by
      rw [← Array.getElem?_toList]
      exact List.mk_mem_zipIdx_iff_getElem?.1 hmem
    rw [Bool.eq_iff_iff, ← q.mem_ids_iff hv, ← q'.mem_ids_iff hv]
    exact h i v hv

@[simp] theorem selects_everything (d : Dataset) (i : Nat) : everything.selects d i = true := rfl

/-- One more filter is one more condition, recorded or not. -/
theorem selects_filter (q : ViewQuery) (f : RowFilter) (d : Dataset) (i : Nat) :
    (q.filter f).selects d i = (q.selects d i && f.holds d ⟨.view, i⟩) := by
  unfold filter selects
  split
  · next h =>
    cases f <;> first | contradiction | simp [RowFilter.holds]
  · simp

theorem kept_everything (d : Dataset) : everything.kept d = d.tables.views.toList.zipIdx :=
  List.filter_eq_self.2 fun (_, i) _ => selects_everything d i

theorem rows_everything (d : Dataset) : everything.rows d = d.tables.views.toList := by
  rw [rows_eq_filter, kept_everything, List.zipIdx_map_fst]

/-- Selections that keep the same positions hold the same views. -/
theorem rows_congr {q q' : ViewQuery} {d : Dataset} (h : ∀ i, q.selects d i = q'.selects d i) :
    q.rows d = q'.rows d := by
  rw [rows_eq_filter, rows_eq_filter, kept, kept]
  simp only [h]

/-- A filter that tells stored views by themselves leaves those of a selection
that it tells. -/
theorem rows_filter {f : RowFilter} {p : View → Bool} {d : Dataset}
    (h : ∀ (i : Nat) (v : View), d.tables.views[i]? = some v → f.holds d ⟨.view, i⟩ = p v)
    (q : ViewQuery) : (q.filter f).rows d = (q.rows d).filter p := by
  have hkept : (q.filter f).kept d = (q.kept d).filter (p ∘ Prod.fst) := by
    rw [kept, kept, List.filter_filter]
    apply List.filter_congr
    rintro ⟨v, i⟩ hmem
    have hv : d.tables.views[i]? = some v := by
      rw [← Array.getElem?_toList]
      exact List.mk_mem_zipIdx_iff_getElem?.1 hmem
    simp only [selects_filter, h i v hv, Function.comp_apply]
    exact Bool.and_comm _ _
  rw [rows_eq_filter, rows_eq_filter, hkept, List.filter_map]

/-- Any filter tells stored views, by the ids that it leaves of all views. -/
theorem rows_filter_eq (q : ViewQuery) (f : RowFilter) (d : Dataset) :
    (q.filter f).rows d = (q.rows d).filter fun v => v.id ∈ (everything.filter f).ids d := by
  apply rows_filter
  intro i v hv
  rw [Bool.eq_iff_iff, decide_eq_true_eq, mem_ids_iff _ hv, selects_filter, selects_everything,
    Bool.true_and]

/-- A filter to the contrary leaves the other views. -/
theorem rows_filter_not (q : ViewQuery) (f : RowFilter) (d : Dataset) :
    (q.filter (.not f)).rows d =
      (q.rows d).filter fun v => v.id ∉ (everything.filter f).ids d := by
  apply rows_filter
  intro i v hv
  rw [RowFilter.holds, Bool.eq_iff_iff, decide_eq_true_eq, mem_ids_iff _ hv, selects_filter,
    selects_everything, Bool.true_and, Bool.not_eq_true', Bool.not_eq_true]

end ViewQuery

end Readership
