import Readership.Proofs.Conjunctions
import Readership.Proofs.Parts

/-!
# Readership.Proofs.Negation

A filter tree and its negation.

* `RowFilter.ofTree_negation` -- where a node is a filter, its negation is one,
  to the contrary of it.
* `ViewQuery.Split` says that two selections share out the views of a third.
  The two trees do that to every selection (`split_filter_not`), although a
  condition and its opposite do not: neither of them need hold of a view whose
  path leads to null.
* Reports on the shares make up the report on the whole
  (`exists_groupedCounts_of_split`, `exists_series_iff_of_split`,
  `countsIn_of_split`).

Null and the object without keys are filters that have no negation.
-/

namespace Readership

/-- A node that is a filter has a negation, which is a filter. -/
theorem RowFilter.ofTree_negation {members : List (String × Json)} (hne : members ≠ [])
    {f : RowFilter} (h : ofTree (.object members) = .ok f) :
    ofTree (FilterNode.negation (.object members)) = .ok (.not f) := by
  obtain ⟨p, hp, hf⟩ := ofTree_eq_ok_iff.1 h
  rw [Predicate.ofTree_eq_ofNode (by simp) (by simpa using hne)] at hp
  refine ofTree_eq_ok_iff.2 ⟨.not p, ?_, ?_⟩
  · exact (Predicate.ofTree_cons _ _).trans (Predicate.ofNode_negation_eq_ok_iff.2 ⟨p, hp, rfl⟩)
  · rw [Predicate.toRowFilter, hf]
    rfl

namespace ViewQuery

/-! ## selections that share out another -/

/-- What it means that two selections share out the views of a third: no view is
in both, and the third holds those that are in one of the two, in the order of
their table. -/
structure Split (d : Dataset) (q part rest : ViewQuery) : Prop where
  disjoint : (part.rows d).Disjoint (rest.rows d)
  rows_eq : q.rows d = d.tables.views.toList.filter fun v => v ∈ part.rows d ∨ v ∈ rest.rows d

/-- What is within a list without repetitions is what the list keeps of it. -/
theorem eq_filter_mem_of_sublist {α : Type} [DecidableEq α] {part all : List α}
    (h : part.Sublist all) (hnodup : all.Nodup) : part = all.filter (· ∈ part) := by
  have hsub : part.Sublist (all.filter (· ∈ part)) := by
    have hfilter := h.filter (· ∈ part)
    rwa [List.filter_eq_self.2 (by simp)] at hfilter
  have hperm : part.Perm (all.filter (· ∈ part)) := by
    rw [List.perm_ext_iff_of_nodup (h.nodup hnodup) (hnodup.filter _)]
    intro a
    rw [List.mem_filter, decide_eq_true_eq]
    exact (and_iff_right_of_imp fun ha => h.subset ha).symm
  exact hsub.eq_of_length hperm.length_eq

/-- A selection holds the stored views that it holds, in their order. -/
theorem rows_eq_filter_mem (q : ViewQuery) (d : Dataset) :
    q.rows d = d.tables.views.toList.filter (· ∈ q.rows d) :=
  eq_filter_mem_of_sublist (q.rows_sublist d) (List.Nodup.of_map _ (d.sound.nodup_ids .view))

namespace Split

variable {d : Dataset} {q part rest : ViewQuery} (h : Split d q part rest)
include h

/-- The one share holds the views of the whole that it holds. -/
theorem rows_part : part.rows d = (q.rows d).filter (· ∈ part.rows d) := by
  rw [h.rows_eq, List.filter_filter]
  conv_lhs => rw [rows_eq_filter_mem]
  apply List.filter_congr
  intro v _
  rw [Bool.eq_iff_iff]
  simp only [Bool.and_eq_true, decide_eq_true_eq]
  tauto

/-- The other share holds those that the one does not. -/
theorem rows_rest : rest.rows d = (q.rows d).filter fun v => ! decide (v ∈ part.rows d) := by
  rw [h.rows_eq, List.filter_filter]
  conv_lhs => rw [rows_eq_filter_mem]
  apply List.filter_congr
  intro v _
  have hnot : v ∈ rest.rows d → v ∉ part.rows d := fun hrest hpart => h.disjoint hpart hrest
  rw [Bool.eq_iff_iff]
  simp only [Bool.and_eq_true, Bool.not_eq_true', decide_eq_true_eq, decide_eq_false_iff_not]
  tauto

/-- A view of the whole is in a share. -/
theorem mem_iff (v : View) : v ∈ q.rows d ↔ v ∈ part.rows d ∨ v ∈ rest.rows d := by
  rw [h.rows_eq, List.mem_filter, decide_eq_true_eq]
  refine and_iff_right_of_imp ?_
  rintro (hv | hv)
  · exact (part.rows_sublist d).subset hv
  · exact (rest.rows_sublist d).subset hv

end Split

/-- Narrowing to a filter and to the contrary of it shares out a selection. -/
theorem split_filter_not (d : Dataset) (q : ViewQuery) (f : RowFilter) :
    Split d q (q.filter f) (q.filter (.not f)) := by
  have hmem (v : View) : v ∈ (q.filter f).rows d ∨ v ∈ (q.filter (.not f)).rows d ↔
      v ∈ q.rows d := by
    rw [rows_filter_eq, rows_filter_not, List.mem_filter, List.mem_filter, decide_eq_true_eq,
      decide_eq_true_eq]
    tauto
  constructor
  · rw [rows_filter_eq, rows_filter_not]
    intro v hpart hrest
    exact of_decide_eq_true (List.mem_filter.1 hrest).2
      (of_decide_eq_true (List.mem_filter.1 hpart).2)
  · simp only [hmem]
    exact q.rows_eq_filter_mem d

end ViewQuery

namespace Report

open Calendar ViewQuery

section
variable {d : Dataset} {q part rest : ViewQuery} (h : Split d q part rest)
include h

/-- The shares count each view of a name once, and each blog once or twice. -/
theorem exists_groupedCounts_of_split (dimension : GroupDimension) :
    ∃ rows rows₁ rows₂, groupedCounts d q dimension = .ok rows ∧
      groupedCounts d part dimension = .ok rows₁ ∧ groupedCounts d rest dimension = .ok rows₂ ∧
      ∀ x, ∃ y y₁ y₂ z₁ z₂ : Nat,
        CountsFor rows₁ x y₁ z₁ ∧ CountsFor rows₂ x y₂ z₂ ∧ CountsFor rows x y (z₁ + z₂) ∧
        max y₁ y₂ ≤ y ∧ y ≤ y₁ + y₂ := by
  obtain ⟨_, rows, hrows, hgrouped⟩ := exists_isGrouped d q dimension
  obtain ⟨_, rows₁, hrows₁, hgrouped₁⟩ := exists_isGrouped d part dimension
  obtain ⟨_, rows₂, hrows₂, hgrouped₂⟩ := exists_isGrouped d rest dimension
  let name := nameIn d.tables dimension
  refine ⟨rows, rows₁, rows₂, hrows, hrows₁, hrows₂, fun x =>
    ⟨blogsUnder name (q.rows d) x, _, _, _, _, hgrouped₁.countsFor x, hgrouped₂.countsFor x,
      ?_, ?_, ?_⟩⟩
  · have hviews := viewsUnder_eq_add name (q.rows d) (· ∈ part.rows d) x
    rw [← h.rows_part, ← h.rows_rest] at hviews
    rw [← hviews]
    exact hgrouped.countsFor x
  · have hpart : (part.rows d).Sublist (q.rows d) := h.rows_part ▸ List.filter_sublist
    have hrest : (rest.rows d).Sublist (q.rows d) := h.rows_rest ▸ List.filter_sublist
    exact max_le (blogsUnder_le_of_sublist hpart x) (blogsUnder_le_of_sublist hrest x)
  · have hblogs := blogsUnder_le_add name (q.rows d) (· ∈ part.rows d) x
    rwa [← h.rows_part, ← h.rows_rest] at hblogs

variable {blogs : List Blog} {g : Granularity} {baseline : Baseline}

/-- There is a series of the whole exactly if there is one of each share. -/
theorem exists_series_iff_of_split :
    (∃ rows, series d q blogs g baseline = .ok rows) ↔
      (∃ rows, series d part blogs g baseline = .ok rows) ∧
        ∃ rows, series d rest blogs g baseline = .ok rows := by
  simp only [exists_series_iff, h.mem_iff]
  constructor
  · rintro ⟨hviews, hblogs⟩
    exact ⟨⟨fun v hv => hviews v (.inl hv), hblogs⟩, fun v hv => hviews v (.inr hv), hblogs⟩
  · rintro ⟨⟨hpart, hblogs⟩, hrest, -⟩
    exact ⟨fun v hv => hv.elim (hpart v) (hrest v), hblogs⟩

/-- The shares count each view of a period once; the blogs are not shared out. -/
theorem countsIn_of_split {ps ps₁ ps₂ : List Date} {rows rows₁ rows₂ : List Row}
    (s : IsSeries (q.rows d) blogs g baseline ps rows)
    (s₁ : IsSeries (part.rows d) blogs g baseline ps₁ rows₁)
    (s₂ : IsSeries (rest.rows d) blogs g baseline ps₂ rows₂) (p : Date) :
    ∃ n₁ n₂ b : Nat, CountsIn g ps₁ rows₁ p n₁ b ∧ CountsIn g ps₂ rows₂ p n₂ b ∧
      CountsIn g ps rows p (n₁ + n₂) b := by
  refine ⟨_, _, _, s₁.countsIn p, s₂.countsIn p, ?_⟩
  have hviews := countIn_eq_add (g := g) (·.viewedAt) (q.rows d) (· ∈ part.rows d) p
  rw [← h.rows_part, ← h.rows_rest] at hviews
  have hall := s.countsIn p
  rwa [viewsIn, hviews] at hall

end

/-- **A filter and its negation**: where a tree that is a node narrows a
selection, its negation does so too, and the two share out the views.  So in
counts by name the views of a name add up, and its different blogs are between
the greater of their two numbers and the sum.  In series, which are there for
the whole if for both, the views of a period add up. -/
theorem narrow_negation_split (q : ViewQuery) {members : List (String × Json)}
    (hne : members ≠ []) {part : ViewQuery} (h : q.narrow (some (.object members)) = .ok part) :
    ∃ rest, q.narrow (some (FilterNode.negation (.object members))) = .ok rest ∧
      ∀ d, Split d q part rest ∧
        (∀ dimension, ∃ rows rows₁ rows₂, groupedCounts d q dimension = .ok rows ∧
          groupedCounts d part dimension = .ok rows₁ ∧
          groupedCounts d rest dimension = .ok rows₂ ∧
          ∀ x, ∃ y y₁ y₂ z₁ z₂ : Nat,
            CountsFor rows₁ x y₁ z₁ ∧ CountsFor rows₂ x y₂ z₂ ∧ CountsFor rows x y (z₁ + z₂) ∧
            max y₁ y₂ ≤ y ∧ y ≤ y₁ + y₂) ∧
        ∀ blogs g baseline,
          ((∃ rows, series d q blogs g baseline = .ok rows) ↔
            (∃ rows, series d part blogs g baseline = .ok rows) ∧
              ∃ rows, series d rest blogs g baseline = .ok rows) ∧
          ∀ rows rows₁ rows₂, series d q blogs g baseline = .ok rows →
            series d part blogs g baseline = .ok rows₁ →
            series d rest blogs g baseline = .ok rows₂ →
            ∃ ps ps₁ ps₂, IsSeries (q.rows d) blogs g baseline ps rows ∧
              IsSeries (part.rows d) blogs g baseline ps₁ rows₁ ∧
              IsSeries (rest.rows d) blogs g baseline ps₂ rows₂ ∧
              ∀ p, ∃ n₁ n₂ b : Nat, CountsIn g ps₁ rows₁ p n₁ b ∧
                CountsIn g ps₂ rows₂ p n₂ b ∧ CountsIn g ps rows p (n₁ + n₂) b := by
  obtain ⟨f, hf, rfl⟩ := map_eq_ok_iff.1 h
  refine ⟨_, q.narrow_eq_ok (RowFilter.ofTree_negation hne hf), fun d => ?_⟩
  have hsplit := split_filter_not d q f
  refine ⟨hsplit, exists_groupedCounts_of_split hsplit, fun blogs g baseline =>
    ⟨exists_series_iff_of_split hsplit, fun rows rows₁ rows₂ hrows hrows₁ hrows₂ => ?_⟩⟩
  obtain ⟨ps, s⟩ := exists_isSeries hrows
  obtain ⟨ps₁, s₁⟩ := exists_isSeries hrows₁
  obtain ⟨ps₂, s₂⟩ := exists_isSeries hrows₂
  exact ⟨ps, ps₁, ps₂, s, s₁, s₂, countsIn_of_split hsplit s s₁ s₂⟩

/-- The second view has no viewer: it fails a condition on the viewer and the
opposite condition too, but meets the negation of either. -/
theorem narrow_negation_split_sample :
    let members (op : String) := [("field", Json.string "viewer.id"), ("op", .string op),
      ("value", .number (.integer 2))]
    let q := ViewQuery.everything
    ∃ d part opposite rest, Dataset.ofTables .sample = .ok d ∧
      q.narrow (some (.object (members "lt"))) = .ok part ∧
      q.narrow (some (.object (members "gte"))) = .ok opposite ∧
      q.narrow (some (FilterNode.negation (.object (members "lt")))) = .ok rest ∧
      part.ids d = [1] ∧ opposite.ids d = [] ∧ rest.ids d = [2] ∧ Split d q part rest := by
  intro members q
  obtain ⟨d, hd⟩ := Dataset.exists_ofTables Tables.sound_sample
  have hids {tree : Json} {narrowed : ViewQuery} (h : q.narrow (some tree) = .ok narrowed) :
      narrowed.ids d = (Tables.sample.views.toList.zipIdx.filter fun x =>
        FilterNode.satTree .sample ⟨.view, x.2⟩ tree).map (·.1.id) := by
    obtain ⟨f, hf, rfl⟩ := map_eq_ok_iff.1 h
    rw [ids_eq_map_kept, kept]
    simp only [q, selects_filter, selects_everything, Bool.true_and, RowFilter.holds_ofTree hf,
      Dataset.tables_of_ofTables hd]
  have hread (op : String) (h : op ∈ ["lt", "gte"]) :
      ∃ narrowed, q.narrow (some (.object (members op))) = .ok narrowed := by
    have hsome : ∀ op ∈ ["lt", "gte"],
        (q.narrow (some (.object (members op)))).toOption.isSome := by decide +kernel
    obtain ⟨narrowed, hnarrowed⟩ := Option.isSome_iff_exists.1 (hsome op h)
    exact ⟨narrowed, toOption_eq_some_iff.1 hnarrowed⟩
  obtain ⟨part, hpart⟩ := hread "lt" (by decide)
  obtain ⟨opposite, hopposite⟩ := hread "gte" (by decide)
  obtain ⟨rest, hrest, hshare⟩ := narrow_negation_split q (by simp [members]) hpart
  refine ⟨d, part, opposite, rest, hd, hpart, hopposite, hrest, ?_, ?_, ?_, (hshare d).1⟩
  · rw [hids hpart]
    decide +kernel
  · rw [hids hopposite]
    decide +kernel
  · rw [hids hrest]
    decide +kernel

end Report

end Readership
