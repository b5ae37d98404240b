import Readership.Proofs.Answers
import Readership.Proofs.Conjunctions
import Readership.Proofs.TimeConditions

/-!
# Readership.Proofs.WindowFilter

A window as part of a filter.

A report within a window counts the views from its start to its finish, both
included.  `windowTree` says so in a filter tree, with both instants as they
are shown to people.  That loses nothing: an instant of a year from 0 to 9999
is read back from its text.  So a report of all times that is narrowed by the
tree is the one within the window.
-/

namespace Readership

open Calendar Report

/-- The tree that asks for the views of a window, and of these for what another
tree asks. -/
def windowTree (start finish : Instant) (tree : Json) : Json :=
  FilterNode.conjunction [(Condition.onTime .gte (Value.timestamp start).display).node,
    (Condition.onTime .lte (Value.timestamp finish).display).node, tree]

namespace ViewQuery

/-- The tree of a window asks for the filters of the window. -/
theorem ofTree_windowTree {start finish : Instant}
    (hstart : Instant.ofOperand? (Value.timestamp start).display = some start)
    (hfinish : Instant.ofOperand? (Value.timestamp finish).display = some finish)
    {tree : Json} (hnull : tree ≠ .null) (hempty : tree ≠ .object []) {f : RowFilter}
    (hf : RowFilter.ofTree tree = .ok f) :
    RowFilter.ofTree (windowTree start finish tree) =
      .ok (.all [.test viewedAt (.greaterOrEqual (.timestamp start)),
        .test viewedAt (.lessOrEqual (.timestamp finish)), f]) := by
  have hgte := RowFilter.ofTree_onTime .gte (fun _ => rfl) hstart
  have hlte := RowFilter.ofTree_onTime .lte (fun _ => rfl) hfinish
  rw [windowTree, RowFilter.ofTree_conjunction_eq_ok_iff (by simp)]
  · exact ⟨_, by simp [hgte, hlte, hf], rfl⟩
  · simp [Condition.node, hnull, hempty]

/-- Filters that are asked for together select what they select one after the
other. -/
theorem rows_between_filter (q : ViewQuery) (start finish : Instant) (f : RowFilter)
    (d : Dataset) :
    ((q.between start finish).filter f).rows d =
      (q.filter (.all [.test viewedAt (.greaterOrEqual (.timestamp start)),
        .test viewedAt (.lessOrEqual (.timestamp finish)), f])).rows d := by
  apply rows_congr
  intro i
  rw [selects_filter_all]
  simp [between, selects_filter, Bool.and_assoc]

end ViewQuery

namespace Analytics

open ViewQuery

/-- **A window is a filter**: two instants of years from 0 to 9999, also in the
wrong order or within leap seconds, are read back from their texts.  Written as
conditions in front of a filter that can be used, they select the views that the
filter leaves of the window, and every report that has a window answers alike;
of the lists of top users that are possible the same are. -/
theorem window_eq_filter (d : Dataset) {start finish : Instant}
    (hstart : start.date.HasShortYear) (hfinish : finish.date.HasShortYear)
    {members : List (String × Json)} (hmembers : members ≠ []) {f : RowFilter}
    (hf : RowFilter.ofTree (.object members) = .ok f) :
    let tree := Json.object members
    let whole := windowTree start finish tree
    Instant.ofOperand? (Value.timestamp start).display = some start ∧
    Instant.ofOperand? (Value.timestamp finish).display = some finish ∧
    ∃ q q', (everything.between start finish).narrow (some tree) = .ok q ∧
      everything.narrow (some whole) = .ok q' ∧ q.rows d = q'.rows d ∧
      (∀ dimension, ∃ rows, groupedCounts d dimension start finish (some tree) = .ok rows ∧
        Report.groupedCounts d q' dimension = .ok rows) ∧
      (∀ dimension, ∃ rows, topRows d dimension (some (start, finish)) (some tree) = .ok rows ∧
        topRows d dimension none (some whole) = .ok rows) ∧
      ∀ answer, IsUserAnswer d (some (start, finish)) (some tree) answer ↔
        IsUserAnswer d none (some whole) answer := by
  intro tree whole
  have hs : Instant.ofOperand? (Value.timestamp start).display = some start :=
    Instant.ofOperand?_text hstart
  have he : Instant.ofOperand? (Value.timestamp finish).display = some finish :=
    Instant.ofOperand?_text hfinish
  let q := (everything.between start finish).filter f
  let q' := everything.filter (.all [.test viewedAt (.greaterOrEqual (.timestamp start)),
    .test viewedAt (.lessOrEqual (.timestamp finish)), f])
  have hq : (everything.between start finish).narrow (some tree) = .ok q := narrow_eq_ok _ hf
  have hq' : everything.narrow (some whole) = .ok q' :=
    narrow_eq_ok _ (ofTree_windowTree hs he (by simp [tree]) (by simpa [tree] using hmembers) hf)
  have hrows : q.rows d = q'.rows d := rows_between_filter everything start finish f d
  have hnarrowed : narrowed (windowed (some (start, finish))) (some tree) = .ok q := by
    rw [narrowed, windowed, hq]
    rfl
  have hnarrowed' : narrowed (windowed none) (some whole) = .ok q' := by
    rw [narrowed, windowed, hq']
    rfl
  refine ⟨hs, he, q, q', hq, hq', hrows, fun dimension => ?_, fun dimension => ?_, fun answer => ?_⟩
  · obtain ⟨rows, h⟩ := exists_groupedCounts d q' dimension
    refine ⟨rows, ?_, h⟩
    rw [groupedCounts_eq_bind, hnarrowed, Except.bind, groupedCounts_congr hrows, h]
    rfl
  · obtain ⟨rows, h⟩ := exists_top d q' dimension
    refine ⟨rows, ?_, ?_⟩
    · rw [topRows_eq_bind, hnarrowed, Except.bind, top_congr hrows, h]
      rfl
    · rw [topRows_eq_bind, hnarrowed', Except.bind, h]
      rfl
  · simp only [IsUserAnswer, hnarrowed, hnarrowed', isUserTop_congr hrows]

/-- A window from within a leap second to the midnight after it. -/
theorem window_eq_filter_sample :
    let start : Instant := ⟨⟨738915, by decide, by decide⟩, 86399, 1500000000, by decide,
      by decide, by decide⟩
    let finish := Instant.midnight ⟨738916, by decide, by decide⟩
    let tree := Json.object [("not", .object [("field", .string "viewer"), ("op", .string "eq"),
      ("value", .null)])]
    let whole := windowTree start finish tree
    start.date.HasShortYear ∧ finish.date.HasShortYear ∧
    (Value.timestamp start).display = "2024-01-31T23:59:60.500+00:00" ∧
    Instant.ofOperand? "2024-01-31T23:59:60.500+00:00" = some start ∧
    ∃ d q q' f, Dataset.ofTables .sample = .ok d ∧ RowFilter.ofTree tree = .ok f ∧
      (everything.between start finish).narrow (some tree) = .ok q ∧
      everything.narrow (some whole) = .ok q' ∧ q.rows d = q'.rows d ∧ q'.ids d = [1] ∧
      topRows d .user (some (start, finish)) (some tree) = topRows d .user none (some whole) := by
  intro start finish tree whole
  have hstart : start.date.HasShortYear := by decide +kernel
  have hfinish : finish.date.HasShortYear := by decide +kernel
  obtain ⟨d, hd⟩ := Dataset.exists_ofTables Tables.sound_sample
  have hsome : (RowFilter.ofTree tree).toOption.isSome := by decide +kernel
  obtain ⟨f, hf⟩ := Option.isSome_iff_exists.1 hsome
  rw [toOption_eq_some_iff] at hf
  obtain ⟨hread, -, q, q', hq, hq', hrows, -, htop, -⟩ :=
    window_eq_filter d hstart hfinish (by decide) hf
  have hids : q'.ids d = [1] := by
    obtain ⟨g, hg, rfl⟩ := map_eq_ok_iff.1 hq'
    simp only [ids_eq_map_kept, kept, selects_filter, selects_everything, Bool.true_and,
      RowFilter.holds_ofTree hg, Dataset.tables_of_ofTables hd]
    decide +kernel
  have htext : (Value.timestamp start).display = "2024-01-31T23:59:60.500+00:00" := by
    decide +kernel
  obtain ⟨rows, htop, htop'⟩ := htop .user
  exact ⟨hstart, hfinish, htext, htext ▸ hread, d, q, q', f, hd, hf, hq, hq', hrows, hids,
    htop.trans htop'.symm⟩

end Analytics

end Readership
