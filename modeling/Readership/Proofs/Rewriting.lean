import Readership.Proofs.FilterMeaning
import Readership.Proofs.Nodes

/-!
# Readership.Proofs.Rewriting

Filter trees that can stand for each other.

`FilterNode.Interchangeable` says that two trees narrow the same selections, and to
the same views.  Two facts about the nodes decide it: which of them can be used
(`Usable`), and which rows they hold of (`sat`).  Both are told of a conjunction,
a disjunction and a negation from their parts, whatever these are, so laws of
Boolean algebra carry over (`interchangeable_of`).

* Any of no nodes holds of every row.  So a disjunction can be taken apart within
  another one only if it has parts (`disjunction_append`), and there has to be a node
  for negation to change places with `and` and `or` (`negation_conjunction`,
  `negation_disjunction`).
* Null and the object without keys are filters as whole trees and refused as
  nodes, so they are not interchangeable with anything that is made of them.
-/

namespace Readership

namespace Predicate

theorem exists_toRowFilter_allOf_iff {ps : List Predicate} :
    (∃ f, (allOf ps).toRowFilter = .ok f) ↔ ∃ fs, toRowFilters ps = .ok fs := by
  cases ps with
  | nil => exact iff_of_true ⟨.always, rfl⟩ ⟨[], rfl⟩
  | cons p ps => simp [allOf, toRowFilter, map_eq_ok_iff]

theorem exists_toRowFilter_anyOf_iff {ps : List Predicate} :
    (∃ f, (anyOf ps).toRowFilter = .ok f) ↔ ∃ fs, toRowFilters ps = .ok fs := by
  cases ps with
  | nil => exact iff_of_true ⟨.always, rfl⟩ ⟨[], rfl⟩
  | cons p ps => simp [anyOf, toRowFilter, map_eq_ok_iff]

end Predicate

namespace FilterNode

open Predicate

/-! ## nodes that can be used -/

/-- What it means that a node can be read and typed. -/
def Usable (j : Json) : Prop := ∃ p, ofNode j = .ok p ∧ ∃ f, p.toRowFilter = .ok f

section
variable {j : Json} {js : List Json}

/-- Nodes can be read and typed together where each of them can be used. -/
theorem forall_usable_iff :
    (∀ j ∈ js, Usable j) ↔ ∃ ps, ofNodes js = .ok ps ∧ ∃ fs, toRowFilters ps = .ok fs := by
  simp only [ofNodes_eq_ok_iff, toRowFilters_eq_ok_iff]
  induction js with
  | nil => exact iff_of_true (by simp) ⟨[], rfl, [], rfl⟩
  | cons j js ih =>
      rw [List.forall_mem_cons, ih]
      constructor
      · rintro ⟨⟨p, hp, f, hf⟩, ps, hps, fs, hfs⟩
        exact ⟨p :: ps, by simp [hp, hps], f :: fs, by simp [hf, hfs]⟩
      · rintro ⟨ps, hps, fs, hfs⟩
        obtain ⟨p, ps, rfl⟩ := List.exists_cons_of_ne_nil (l := ps) (by rintro rfl; contradiction)
        obtain ⟨f, fs, rfl⟩ := List.exists_cons_of_ne_nil (l := fs) (by rintro rfl; contradiction)
        simp only [List.map_cons, List.cons.injEq] at hps hfs
        exact ⟨⟨p, hps.1, f, hfs.1⟩, ps, hps.2, fs, hfs.2⟩

theorem usable_conjunction_iff : Usable (conjunction js) ↔ ∀ j ∈ js, Usable j := by
  rw [forall_usable_iff, Usable, ofNode_conjunction]
  simp [map_eq_ok_iff, exists_toRowFilter_allOf_iff]

theorem usable_disjunction_iff : Usable (disjunction js) ↔ ∀ j ∈ js, Usable j := by
  rw [forall_usable_iff, Usable, ofNode_disjunction]
  simp [map_eq_ok_iff, exists_toRowFilter_anyOf_iff]

theorem usable_negation_iff : Usable (negation j) ↔ Usable j := by
  simp only [Usable, ofNode_negation_eq_ok_iff]
  simp [toRowFilter, map_eq_ok_iff]

end

/-! ## what nodes that are made of nodes hold of -/

section
variable (t : Tables) (row : RowRef)

theorem sat_conjunction (js : List Json) : sat t row (conjunction js) = js.all (sat t row) :=
  sat_eq_satOperation (c := .and) rfl (.inr ⟨js, rfl⟩)

theorem sat_disjunction (js : List Json) :
    sat t row (disjunction js) = (js.isEmpty || js.any (sat t row)) :=
  sat_eq_satOperation (c := .or) rfl (.inr ⟨js, rfl⟩)

theorem sat_negation (j : Json) : sat t row (negation j) = !sat t row j :=
  sat_eq_satOperation (c := .not) rfl (.inl rfl)

end

/-! ## trees that can stand for each other -/

/-- What it means that it makes no difference by which of two trees a selection is
narrowed. -/
structure Interchangeable (a b : Json) : Prop where
  narrow_iff : ∀ q : ViewQuery,
    (∃ qa, q.narrow (some a) = .ok qa) ↔ ∃ qb, q.narrow (some b) = .ok qb
  rows_eq : ∀ (q qa qb : ViewQuery) (d : Dataset), q.narrow (some a) = .ok qa →
    q.narrow (some b) = .ok qb → qa.rows d = qb.rows d

/-- A tree that is a node, if anything: neither null nor the object without keys. -/
def IsNode (j : Json) : Prop := j ≠ .null ∧ j ≠ .object []

theorem isNode_cons (m : String × Json) (members : List (String × Json)) :
    IsNode (.object (m :: members)) := ⟨by simp, by simp⟩

theorem satTree_eq_sat {j : Json} (h : IsNode j) (t : Tables) (row : RowRef) :
    satTree t row j = sat t row j := by
  unfold satTree
  split
  · exact (h.1 rfl).elim
  · exact (h.2 rfl).elim
  · rfl

theorem exists_narrow_iff {j : Json} (h : IsNode j) (q : ViewQuery) :
    (∃ q', q.narrow (some j) = .ok q') ↔ Usable j := by
  simp only [ViewQuery.narrow, map_eq_ok_iff, RowFilter.ofTree_eq_ok_iff,
    ofTree_eq_ofNode h.1 h.2, Usable]
  constructor
  · rintro ⟨_, f, ⟨p, hp, hf⟩, -⟩
    exact ⟨p, hp, f, hf⟩
  · rintro ⟨p, hp, f, hf⟩
    exact ⟨_, f, ⟨p, hp, hf⟩, rfl⟩

/-- Nodes are interchangeable where they can be used alike and hold of the same
rows. -/
theorem interchangeable_of {a b : Json} (ha : IsNode a) (hb : IsNode b)
    (husable : Usable a ↔ Usable b) (hsat : ∀ t row, sat t row a = sat t row b) :
    Interchangeable a b where
  narrow_iff q := by rw [exists_narrow_iff ha, exists_narrow_iff hb, husable]
  rows_eq q qa qb d hqa hqb := by
    apply ViewQuery.rows_congr
    intro i
    rw [ViewQuery.selects_narrow hqa, ViewQuery.selects_narrow hqb, satTree_eq_sat ha,
      satTree_eq_sat hb, hsat]

/-! ## laws -/

section
variable {f : Json} {fs xs ys : List Json}

theorem negation_negation (hf : IsNode f) : Interchangeable (negation (negation f)) f :=
  interchangeable_of (isNode_cons _ _) hf (by rw [usable_negation_iff, usable_negation_iff])
    fun t row => by rw [sat_negation, sat_negation, Bool.not_not]

theorem conjunction_singleton (hf : IsNode f) : Interchangeable (conjunction [f]) f :=
  interchangeable_of (isNode_cons _ _) hf (by simp [usable_conjunction_iff])
    fun t row => by simp [sat_conjunction]

theorem disjunction_singleton (hf : IsNode f) : Interchangeable (disjunction [f]) f :=
  interchangeable_of (isNode_cons _ _) hf (by simp [usable_disjunction_iff])
    fun t row => by simp [sat_disjunction]

/-- Neither the order nor the number of equal parts matters to a conjunction. -/
theorem conjunction_congr (h : ∀ f, f ∈ xs ↔ f ∈ ys) :
    Interchangeable (conjunction xs) (conjunction ys) :=
  interchangeable_of (isNode_cons _ _) (isNode_cons _ _) (by simp only [usable_conjunction_iff, h])
    fun t row => by
      rw [sat_conjunction, sat_conjunction, Bool.eq_iff_iff, List.all_eq_true, List.all_eq_true]
      simp only [h]

/-- Neither the order nor the number of equal parts matters to a disjunction. -/
theorem disjunction_congr (h : ∀ f, f ∈ xs ↔ f ∈ ys) :
    Interchangeable (disjunction xs) (disjunction ys) :=
  interchangeable_of (isNode_cons _ _) (isNode_cons _ _) (by simp only [usable_disjunction_iff, h])
    fun t row => by
      rw [sat_disjunction, sat_disjunction, Bool.eq_iff_iff]
      simp only [Bool.or_eq_true, List.isEmpty_iff, List.any_eq_true,
        List.eq_nil_iff_forall_not_mem, h]

/-- A conjunction within a conjunction can be taken apart. -/
theorem conjunction_append :
    Interchangeable (conjunction (conjunction xs :: ys)) (conjunction (xs ++ ys)) :=
  interchangeable_of (isNode_cons _ _) (isNode_cons _ _)
    (by simp only [usable_conjunction_iff, List.forall_mem_cons, List.forall_mem_append])
    fun t row => by
      rw [sat_conjunction, sat_conjunction, List.all_cons, sat_conjunction, List.all_append]

/-- A disjunction with parts can be taken apart within a disjunction. -/
theorem disjunction_append (hxs : xs ≠ []) :
    Interchangeable (disjunction (disjunction xs :: ys)) (disjunction (xs ++ ys)) :=
  interchangeable_of (isNode_cons _ _) (isNode_cons _ _)
    (by simp only [usable_disjunction_iff, List.forall_mem_cons, List.forall_mem_append])
    fun t row => by
      have hparts : xs.isEmpty = false := List.isEmpty_eq_false_iff.2 hxs
      have hall : (xs ++ ys).isEmpty = false := List.isEmpty_eq_false_iff.2 (by simp [hxs])
      rw [sat_disjunction, sat_disjunction, List.isEmpty_cons, List.any_cons, sat_disjunction,
        hparts, hall, List.any_append]
      simp only [Bool.false_or]

/-- The contrary of all is the contrary of one. -/
theorem negation_conjunction (hfs : fs ≠ []) :
    Interchangeable (negation (conjunction fs)) (disjunction (fs.map negation)) :=
  interchangeable_of (isNode_cons _ _) (isNode_cons _ _)
    (by simp [usable_negation_iff, usable_conjunction_iff, usable_disjunction_iff])
    fun t row => by
      simp [sat_negation, sat_conjunction, sat_disjunction, hfs, Function.comp_def,
        List.not_all_eq_any_not]

/-- The contrary of one is the contrary of all. -/
theorem negation_disjunction (hfs : fs ≠ []) :
    Interchangeable (negation (disjunction fs)) (conjunction (fs.map negation)) :=
  interchangeable_of (isNode_cons _ _) (isNode_cons _ _)
    (by simp [usable_negation_iff, usable_conjunction_iff, usable_disjunction_iff])
    fun t row => by
      simp [sat_negation, sat_conjunction, sat_disjunction, hfs, Function.comp_def,
        List.not_any_eq_all_not]

end

/-- **Boolean rewriting**: two negations cancel, and all or any of one node is that
node.  Parts can be put in another order, repeated, and taken out of a conjunction
within a conjunction or a disjunction with parts within a disjunction.  Negation
turns all of some nodes into any of their negations and the other way round.  None
of this changes by what a selection can be narrowed or which views are left. -/
theorem interchangeable_laws :
    (∀ f, f ≠ .null → f ≠ .object [] → Interchangeable (negation (negation f)) f ∧
      Interchangeable (conjunction [f]) f ∧ Interchangeable (disjunction [f]) f) ∧
    (∀ xs ys, (∀ f, f ∈ xs ↔ f ∈ ys) → Interchangeable (conjunction xs) (conjunction ys) ∧
      Interchangeable (disjunction xs) (disjunction ys)) ∧
    (∀ xs ys, Interchangeable (conjunction (conjunction xs :: ys)) (conjunction (xs ++ ys))) ∧
    (∀ xs ys, xs ≠ [] →
      Interchangeable (disjunction (disjunction xs :: ys)) (disjunction (xs ++ ys))) ∧
    ∀ fs, fs ≠ [] →
      Interchangeable (negation (conjunction fs)) (disjunction (fs.map negation)) ∧
      Interchangeable (negation (disjunction fs)) (conjunction (fs.map negation)) := by
  refine ⟨fun f hnull hempty => ?_, fun xs ys h => ⟨conjunction_congr h, disjunction_congr h⟩,
    fun xs ys => conjunction_append, fun xs ys => disjunction_append,
    fun fs hfs => ⟨negation_conjunction hfs, negation_disjunction hfs⟩⟩
  have hf : IsNode f := ⟨hnull, hempty⟩
  exact ⟨negation_negation hf, conjunction_singleton hf, disjunction_singleton hf⟩

end FilterNode

end Readership
