import Readership.Proofs.Join

/-!
# Readership.Proofs.References

The rows that the keys of a dataset lead to.

A lookup by id finds a row of the table with that id (`LooksUp.eq_some_iff`), and
no other row has it (`LooksUp.eq_of_id`).  The keys that views, blogs and users
hold are all ids (`mem_ids_of_view`, `mem_ids_of_blog`, `mem_ids_of_user`), so
that no lookup through them comes back empty (`LooksUp.exists_of_mem`).
-/

namespace Readership

/-! ## lookups -/

namespace LooksUp

variable {α : Type} {lookup : Int → Option α} {table : Array α} {idOf : α → Int}

theorem eq_some_iff (h : LooksUp lookup table idOf) {id : Int} {row : α} :
    lookup id = some row ↔ row ∈ table.toList ∧ idOf row = id := by
  rw [← Option.mem_toList, h.toList_eq, List.mem_filter, decide_eq_true_eq]

/-- Rows of one id are the same. -/
theorem eq_of_id (h : LooksUp lookup table idOf) {row row' : α} (hrow : row ∈ table.toList)
    (hrow' : row' ∈ table.toList) (hid : idOf row = idOf row') : row = row' := by
  have hfound := h.eq_some_iff.2 ⟨hrow, hid⟩
  rw [h.eq_some_iff.2 ⟨hrow', rfl⟩] at hfound
  exact (Option.some.inj hfound).symm

theorem exists_of_mem (h : LooksUp lookup table idOf) {id : Int}
    (hid : id ∈ table.toList.map idOf) : ∃ row, lookup id = some row := by
  obtain ⟨row, hrow, rfl⟩ := List.mem_map.1 hid
  exact ⟨row, h.eq_some_iff.2 ⟨hrow, rfl⟩⟩

end LooksUp

namespace Dataset

variable {d : Dataset} {id : Int}

/-! ## keys -/

theorem mem_ids_of_view {v : View} (hv : v ∈ d.tables.views.toList) :
    v.blog ∈ d.tables.ids .blog ∧ (∀ id, v.viewer = some id → id ∈ d.tables.ids .user) ∧
      ∀ id, v.country = some id → id ∈ d.tables.ids .country := by
  obtain ⟨i, hi⟩ := Array.mem_iff_getElem?.1 (Array.mem_toList_iff.1 hv)
  refine ⟨?_, fun id h => ?_, fun id h => ?_⟩
  · exact d.sound.mem_ids ⟨.view, i⟩ .blog _ (by simp [Tables.foreignKey?, hi])
  · exact d.sound.mem_ids ⟨.view, i⟩ .viewer _ (by simp [Tables.foreignKey?, hi, h])
  · exact d.sound.mem_ids ⟨.view, i⟩ .country _ (by simp [Tables.foreignKey?, hi, h])

theorem mem_ids_of_blog {b : Blog} (hb : b ∈ d.tables.blogs.toList) :
    b.author ∈ d.tables.ids .user := by
  obtain ⟨i, hi⟩ := Array.mem_iff_getElem?.1 (Array.mem_toList_iff.1 hb)
  exact d.sound.mem_ids ⟨.blog, i⟩ .author _ (by simp [Tables.foreignKey?, hi])

theorem mem_ids_of_user {u : User} (hu : u ∈ d.tables.users.toList) (h : u.country = some id) :
    id ∈ d.tables.ids .country := by
  obtain ⟨i, hi⟩ := Array.mem_iff_getElem?.1 (Array.mem_toList_iff.1 hu)
  exact d.sound.mem_ids ⟨.user, i⟩ .country _ (by simp [Tables.foreignKey?, hi, h])

end Dataset

end Readership
