import Readership.Proofs.StorageOrder

/-!
# Readership.Proofs.Answers

Reports as functions of the selected views.

* How the views were selected does not matter (`groupedCounts_congr`,
  `top_congr`, `isUserTop_congr`).
* Counts by name and rankings are there for every selection of views of a
  dataset, because the keys of its rows lead to rows (`exists_groupedCounts`,
  `exists_top`).
-/

namespace Readership.Report

section
variable {d : Dataset} {q q' : ViewQuery} (h : q.rows d = q'.rows d)
include h

theorem groupedCounts_congr (dimension : GroupDimension) :
    groupedCounts d q dimension = groupedCounts d q' dimension := by
  rw [groupedCounts, groupedCounts, h]

theorem top_congr (dimension : TopDimension) : top d q dimension = top d q' dimension := by
  cases dimension with
  | country => rw [top, top, ranking, ranking, groupedCounts_congr h]
  | user => rw [top, top, ranking, ranking, h]
  | blog => rw [top, top, ranking, ranking, h]

theorem isUserTop_congr {rows : List Row} : IsUserTop d q rows ↔ IsUserTop d q' rows := by
  rw [IsUserTop, IsUserTop, h]

end

theorem exists_groupedCounts (d : Dataset) (q : ViewQuery) (dimension : GroupDimension) :
    ∃ rows, groupedCounts d q dimension = .ok rows := by
  rw [groupedCounts, namedViews_eq fun _ => ViewQuery.mem_views_of_mem_rows]
  exact ⟨_, rfl⟩

theorem exists_top (d : Dataset) (q : ViewQuery) (dimension : TopDimension) :
    ∃ rows, top d q dimension = .ok rows := by
  cases dimension with
  | country =>
      obtain ⟨rows, hrows⟩ := exists_groupedCounts d q .country
      exact ⟨rows.take topLimit, by rw [top, ranking, hrows]; rfl⟩
  | user =>
      obtain ⟨rows, hrows, -⟩ := exists_isUserTop d q
      exact ⟨rows, hrows⟩
  | blog =>
      obtain ⟨entries, hentries, -⟩ := exists_standings
        (fun v => some v.blog) (blogStanding d) (TellsBlog d.tables)
        fun v hv id hid => blogStanding_eq_ok (Option.some.inj hid ▸
          (Dataset.mem_ids_of_view (ViewQuery.mem_views_of_mem_rows hv)).1)
      exact ⟨(ranked entries).take topLimit, by rw [top, ranking, hentries]; rfl⟩

end Readership.Report

namespace Readership.Analytics

open Calendar Report

theorem groupedCounts_eq_bind (d : Dataset) (dimension : GroupDimension) (start finish : Instant)
    (tree : Option Json) :
    groupedCounts d dimension start finish tree =
      (narrowed (windowed (some (start, finish))) tree).bind fun q =>
        (Report.groupedCounts d q dimension).mapError .missingRow := rfl

end Readership.Analytics
