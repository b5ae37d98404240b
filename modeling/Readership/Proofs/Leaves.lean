import Readership.Proofs.Conditions
import Readership.Proofs.FilterMeaning

/-!
# Readership.Proofs.Leaves

The conditions of a filter tree, and what the tree owes to them.

A tree reads rows through its conditions alone, which stand at its leaves
(`FilterNode.conditions`).  So two rows, of two sets of tables maybe, need to be
compared condition by condition only:

* `satTree_congr` -- where every condition holds of both rows or of neither, so
  does the tree;
* `satTree_mono` -- where every condition that holds of the one row holds of the
  other, so does the tree, unless some part of it is negated.

Both are inductions on the grammar of nodes, and so about trees that are filters
(`wellFormed_of_ofTree`).
-/

namespace Readership

namespace FilterNode

/-! ## leaves -/

/-- The condition that a node is, if it is one. -/
def condition? (j : Json) : Option Condition :=
  match shape j with
  | .condition (.string path) (.string name) (some operand) =>
    (Operator.ofName? name).map fun op => ⟨path, op, operand⟩
  | _ => none

/-- The conditions of a tree in reading order. -/
def conditions (j : Json) : List Condition := (preorder j).filterMap condition?

/-- Whether a node asks for the contrary of its part. -/
def isNegation (j : Json) : Bool :=
  match shape j with
  | .operation .not _ => true
  | _ => false

theorem conditions_eq (j : Json) :
    conditions j = (condition? j).toList ++ (parts j).flatMap conditions := by
  rw [conditions, preorder_eq, List.filterMap_cons, List.filterMap_flatMap]
  cases condition? j <;> rfl

/-- The condition of a node is one of its tree. -/
theorem mem_conditions_self {j : Json} {c : Condition} (h : condition? j = some c) :
    c ∈ conditions j := by
  rw [conditions_eq, h]
  exact List.mem_append_left _ (List.mem_singleton_self c)

theorem mem_conditions_of_part {j part : Json} (h : part ∈ parts j) {c : Condition}
    (hc : c ∈ conditions part) : c ∈ conditions j := by
  rw [conditions_eq]
  exact List.mem_append_right _ (List.mem_flatMap_of_mem h hc)

theorem mem_preorder_self (j : Json) : j ∈ preorder j := by
  rw [preorder_eq]
  exact List.mem_cons_self

theorem mem_preorder_of_part {j part node : Json} (h : part ∈ parts j)
    (hnode : node ∈ preorder part) : node ∈ preorder j := by
  rw [preorder_eq]
  exact List.mem_cons_of_mem _ (List.mem_flatMap_of_mem h hnode)

/-! ## what a node says, given what its parts do -/

/-- A well-formed node asks a condition of a row, or else all of its parts, one
of them unless there is none, or the contrary of its only part. -/
theorem sat_cases {j : Json} (h : WellFormed j) :
    (∃ c, condition? j = some c ∧
      ∀ t row, sat t row j = meetsAt t row c.path c.op.name c.operand) ∨
    (∀ t row, sat t row j = (parts j).all (sat t row)) ∨
    (∀ t row, sat t row j = ((parts j).isEmpty || (parts j).any (sat t row))) ∨
    (isNegation j = true ∧ ∃ part ∈ parts j, ∀ t row, sat t row j = !sat t row part) := by
  cases h with
  | @condition members path name field _ op name_mem value =>
      obtain ⟨operand, hoperand⟩ := Option.isSome_iff_exists.1 value
      obtain ⟨o, ho⟩ := Option.isSome_iff_exists.1 (mem_operatorNames_iff.1 name_mem)
      have hshape := shape_eq_condition_iff.2 ⟨field, op, hoperand⟩
      have hname : o.name = name := Operator.name_of_ofName? ho
      exact .inl ⟨⟨path, o, operand⟩, by simp [condition?, hshape, ho],
        fun t row => by rw [sat_eq_meetsAt hshape, hname]⟩
  | @list members key items no_condition key_eq only _ =>
      rcases key_eq with rfl | rfl
      · have hshape := shape_eq_operation_iff (c := .and).2 ⟨no_condition, only⟩
        have hparts : parts (.object members) = items := by simp [parts, hshape]
        refine .inr (.inl fun t row => ?_)
        rw [hparts, sat_eq_satOperation hshape (.inr ⟨items, rfl⟩), satOperation]
      · have hshape := shape_eq_operation_iff (c := .or).2 ⟨no_condition, only⟩
        have hparts : parts (.object members) = items := by simp [parts, hshape]
        refine .inr (.inr (.inl fun t row => ?_))
        rw [hparts, sat_eq_satOperation hshape (.inr ⟨items, rfl⟩), satOperation]
  | @not members part no_condition only hpart =>
      have hshape := shape_eq_operation_iff (c := .not).2 ⟨no_condition, only⟩
      have hmem : part ∈ parts (.object members) := by
        cases hpart <;> simp [parts, hshape]
      refine .inr (.inr (.inr ⟨by simp [isNegation, hshape], part, hmem, fun t row => ?_⟩))
      rw [sat_eq_satOperation hshape (.inl rfl), satOperation]

/-! ## comparing rows condition by condition -/

section
variable {t t' : Tables} {row row' : RowRef}

/-- A condition is met alike where its path takes the same values. -/
theorem meetsAt_congr {path name : String} {operand : Json}
    (h : ∀ field, Entity.view.resolve path = .ok field →
      t.scanValues row field = t'.scanValues row' field) :
    meetsAt t row path name operand = meetsAt t' row' path name operand := by
  unfold meetsAt
  split
  · next field hfield => rw [h field hfield]
  · rfl

/-- Rows that meet the same conditions of a node meet the node alike. -/
theorem sat_congr {j : Json} (hj : WellFormed j)
    (h : ∀ c ∈ conditions j, meetsAt t row c.path c.op.name c.operand =
      meetsAt t' row' c.path c.op.name c.operand) : sat t row j = sat t' row' j := by
  induction j using preorder.induct with
  | case1 j ih =>
      have hparts : ∀ part ∈ parts j, sat t row part = sat t' row' part := fun part hpart =>
        ih part hpart (((wellFormed_iff j).1 hj).2 part hpart) fun c hc =>
          h c (mem_conditions_of_part hpart hc)
      obtain ⟨c, hc, hsat⟩ | hsat | hsat | ⟨-, part, hpart, hsat⟩ := sat_cases hj
      · rw [hsat, hsat, h c (mem_conditions_self hc)]
      · simpa [hsat] using congrArg (List.all · id) (List.map_congr_left hparts)
      · simpa [hsat] using congrArg (fun l => l.isEmpty || l.any id) (List.map_congr_left hparts)
      · rw [hsat, hsat, hparts part hpart]

/-- Without negation, a node holds where more of its conditions do. -/
theorem sat_mono {j : Json} (hj : WellFormed j)
    (hneg : ∀ node ∈ preorder j, isNegation node = false)
    (h : ∀ c ∈ conditions j, meetsAt t row c.path c.op.name c.operand = true →
      meetsAt t' row' c.path c.op.name c.operand = true) :
    sat t row j = true → sat t' row' j = true := by
  induction j using preorder.induct with
  | case1 j ih =>
      have hparts : ∀ part ∈ parts j, sat t row part = true → sat t' row' part = true :=
        fun part hpart => ih part hpart (((wellFormed_iff j).1 hj).2 part hpart)
          (fun node hnode => hneg node (mem_preorder_of_part hpart hnode))
          fun c hc => h c (mem_conditions_of_part hpart hc)
      obtain ⟨c, hc, hsat⟩ | hsat | hsat | ⟨hnot, -⟩ := sat_cases hj
      · rw [hsat, hsat]
        exact h c (mem_conditions_self hc)
      · rw [hsat, hsat, List.all_eq_true, List.all_eq_true]
        exact fun hall part hpart => hparts part hpart (hall part hpart)
      · rw [hsat, hsat]
        simp only [Bool.or_eq_true, List.any_eq_true]
        grind
      · -- no node of the tree is a negation, and `j` is one of them
        have hself := hneg j (mem_preorder_self j)
        rw [hnot] at hself
        contradiction

end

/-! ## whole trees -/

/-- A tree that is a filter says nothing, or is a well-formed node. -/
theorem wellFormed_of_ofTree {tree : Json} {f : RowFilter} (h : RowFilter.ofTree tree = .ok f) :
    (∀ t row, satTree t row tree = true) ∨
      WellFormed tree ∧ ∀ t row, satTree t row tree = sat t row tree := by
  obtain ⟨p, hp, -⟩ := RowFilter.ofTree_eq_ok_iff.1 h
  obtain ⟨rfl | rfl, -⟩ | hnode := Predicate.ofTree_eq_ok_iff.1 hp
  · exact .inl fun t row => rfl
  · exact .inl fun t row => rfl
  · have hwf := exists_ofNode_iff.1 ⟨p, hnode⟩
    refine .inr ⟨hwf, fun t row => ?_⟩
    unfold satTree
    split
    · contradiction
    · contradiction
    · rfl

section
variable {t t' : Tables} {row row' : RowRef} {tree : Json} {f : RowFilter}

theorem satTree_congr (hf : RowFilter.ofTree tree = .ok f)
    (h : ∀ c ∈ conditions tree, meetsAt t row c.path c.op.name c.operand =
      meetsAt t' row' c.path c.op.name c.operand) : satTree t row tree = satTree t' row' tree := by
  obtain hall | ⟨hwf, hsat⟩ := wellFormed_of_ofTree hf
  · rw [hall, hall]
  · rw [hsat, hsat]
    exact sat_congr hwf h

theorem satTree_mono (hf : RowFilter.ofTree tree = .ok f)
    (hneg : ∀ node ∈ preorder tree, isNegation node = false)
    (h : ∀ c ∈ conditions tree, meetsAt t row c.path c.op.name c.operand = true →
      meetsAt t' row' c.path c.op.name c.operand = true) :
    satTree t row tree = true → satTree t' row' tree = true := by
  obtain hall | ⟨hwf, hsat⟩ := wellFormed_of_ofTree hf
  · exact fun _ => hall t' row'
  · rw [hsat, hsat]
    exact sat_mono hwf hneg h

end

end FilterNode

/-! ## the conditions of predicates -/

namespace Predicate

theorem conditions_allOf (ps : List Predicate) : (allOf ps).conditions = conditionsOf ps := by
  cases ps <;> rfl

theorem conditions_anyOf (ps : List Predicate) : (anyOf ps).conditions = conditionsOf ps := by
  cases ps <;> rfl

/-- What is read from a node is its condition, or it joins what is read from the
parts of the node. -/
theorem ofNode_cases {j : Json} {p : Predicate} (h : ofNode j = .ok p) :
    (∃ c, FilterNode.condition? j = some c ∧ FilterNode.parts j = [] ∧
      ¬ Text.isBlankText c.path ∧ p = condition c) ∨
    FilterNode.condition? j = none ∧
      ((∃ ps, ofNodes (FilterNode.parts j) = .ok ps ∧ (p = allOf ps ∨ p = anyOf ps)) ∨
        ∃ part q, FilterNode.parts j = [part] ∧ ofNode part = .ok q ∧ p = not q) := by
  rw [ofNode_eq] at h
  rw [FilterNode.condition?, FilterNode.parts]
  cases hshape : FilterNode.shape j with
  | condition field op value =>
      rw [hshape] at h
      obtain ⟨c, hc, rfl⟩ := map_eq_ok_iff.1 h
      obtain ⟨rfl, hpath, rfl, rfl⟩ := Condition.ofEntries_eq_ok_iff.1 hc
      exact .inl ⟨c, by simp, rfl, hpath, rfl⟩
  | operation c operand =>
      rw [hshape] at h
      refine .inr ⟨rfl, ?_⟩
      cases c with
      | and =>
          cases operand <;> try contradiction
          obtain ⟨ps, hps, rfl⟩ := map_eq_ok_iff.1 h
          exact .inl ⟨ps, hps, .inl rfl⟩
      | or =>
          cases operand <;> try contradiction
          obtain ⟨ps, hps, rfl⟩ := map_eq_ok_iff.1 h
          exact .inl ⟨ps, hps, .inr rfl⟩
      | not =>
          cases operand <;> try contradiction
          obtain ⟨q, hq, rfl⟩ := map_eq_ok_iff.1 h
          exact .inr ⟨_, q, rfl, hq, rfl⟩
  | unclear found =>
      rw [hshape] at h
      cases found <;> contradiction
  | other =>
      rw [hshape] at h
      contradiction

theorem conditionsOf_eq_flatMap {js : List Json} {ps : List Predicate}
    (ih : ∀ j ∈ js, ∀ {p}, ofNode j = .ok p → p.conditions = FilterNode.conditions j)
    (h : ofNodes js = .ok ps) : conditionsOf ps = js.flatMap FilterNode.conditions := by
  rw [ofNodes_eq_ok_iff] at h
  induction js generalizing ps with
  | nil =>
      obtain rfl : ps = [] := by simpa using h.symm
      rfl
  | cons j js ihjs =>
      cases ps with
      | nil => contradiction
      | cons p ps =>
          simp only [List.map_cons, List.cons.injEq, List.forall_mem_cons] at h ih
          rw [conditionsOf, List.flatMap_cons, ih.1 h.1, ihjs ih.2 h.2]

/-- What is read from a node has the conditions of the node. -/
theorem conditions_of_ofNode {j : Json} {p : Predicate} (h : ofNode j = .ok p) :
    p.conditions = FilterNode.conditions j := by
  induction j using FilterNode.preorder.induct generalizing p with
  | case1 j ih =>
      rw [FilterNode.conditions_eq]
      obtain ⟨c, hc, hparts, -, rfl⟩ | ⟨hnone, ⟨ps, hps, rfl | rfl⟩ | ⟨part, q, hpart, hq, rfl⟩⟩ :=
        ofNode_cases h
      · simp [hc, hparts, conditions]
      · rw [conditions_allOf, conditionsOf_eq_flatMap ih hps, hnone]
        rfl
      · rw [conditions_anyOf, conditionsOf_eq_flatMap ih hps, hnone]
        rfl
      · simp [hnone, hpart, conditions, ih part (by simp [hpart]) hq]

/-- A tree is read to a predicate with the conditions of the tree. -/
theorem conditions_of_ofTree {tree : Json} {p : Predicate} (h : ofTree tree = .ok p) :
    p.conditions = FilterNode.conditions tree := by
  obtain ⟨hnothing, rfl⟩ | hnode := ofTree_eq_ok_iff.1 h
  · rcases hnothing with rfl | rfl <;>
      simp [conditions, FilterNode.conditions_eq, FilterNode.condition?, FilterNode.parts,
        FilterNode.shape]
  · exact conditions_of_ofNode hnode

end Predicate

/-! ## selections -/

namespace ViewQuery

/-- All views, narrowed by a tree, are the views that the tree holds of. -/
theorem selects_of_narrow {tree : Json} {q : ViewQuery}
    (hq : everything.narrow (some tree) = .ok q) (d : Dataset) (i : Nat) :
    q.selects d i = FilterNode.satTree d.tables ⟨.view, i⟩ tree := by
  rw [selects_narrow hq, selects_everything, Bool.true_and]

end ViewQuery

end Readership
