import Readership.Proofs.Leaves
import Readership.Proofs.Nodes

/-!
# Readership.Proofs.NormalPredicates

The predicates that are read from filter trees.

`Predicate.Normal` says which these are: nothing is joined out of no parts, and no
condition has a blank path.  `Predicate.node` writes a predicate as a node, and a
normal one is read back from there (`ofNode_node`).  So the normal predicates are
those that some tree is read to (`exists_ofTree_iff`).

The conditions of what is read are the leaves of the tree, from left to right
and as they are written (`forall₂_conditions_leaves`).
-/

namespace Readership

/-! ## leaves as they are written -/

/-- The nodes of a tree that have both `field` and `op`, in reading order. -/
def FilterNode.leaves (tree : Json) : List Json :=
  (preorder tree).filter fun node => node.hasKey "field" && node.hasKey "op"

/-- What it means that a condition is written at a leaf: path, operator and
operand are the values of its keys. -/
structure Condition.IsAt (c : Condition) (leaf : Json) : Prop where
  field : leaf.get? "field" = some (.string c.path)
  op : leaf.get? "op" = some (.string c.op.name)
  value : leaf.get? "value" = some c.operand

namespace FilterNode

/-- A node with both keys and no fault is a condition, as it is written. -/
theorem exists_condition?_of_fault? {j : Json} (hfault : fault? j = none)
    (hkeys : j.hasKey "field" ∧ j.hasKey "op") : ∃ c, condition? j = some c ∧ c.IsAt j := by
  cases j with
  | object members =>
      obtain ⟨field, hfield⟩ := Option.isSome_iff_exists.1 hkeys.1
      obtain ⟨op, hop⟩ := Option.isSome_iff_exists.1 hkeys.2
      have hshape := shape_eq_condition_iff.2 ⟨hfield, hop, rfl⟩
      have hchecks : (conditionChecks field op (members.lookup "value")).find? (·.1) = none := by
        simpa [fault?, hshape] using hfault
      obtain ⟨path, name, rfl, -, rfl, hname, hvalue⟩ := find?_conditionChecks_eq_none_iff.1 hchecks
      obtain ⟨operand, hoperand⟩ := Option.isSome_iff_exists.1 hvalue
      obtain ⟨o, ho⟩ := Option.isSome_iff_exists.1 (mem_operatorNames_iff.1 hname)
      obtain rfl := Operator.name_of_ofName? ho
      exact ⟨⟨path, o, operand⟩, by simp [condition?, hshape, hoperand], hfield, hop, hoperand⟩
  | _ => simp [Json.hasKey, Json.get?] at hkeys

/-- A node without one of the keys is no condition. -/
theorem condition?_eq_none {j : Json} (h : ¬ (j.hasKey "field" ∧ j.hasKey "op")) :
    condition? j = none := by
  cases j with
  | object members =>
      rw [condition?]
      split
      · next path name operand hshape =>
        obtain ⟨hfield, hop, -⟩ := shape_eq_condition_iff.1 hshape
        simp [Json.hasKey, Json.get?, hfield, hop] at h
      · rfl
  | _ => rfl

/-- The conditions among nodes without faults are written at those with both keys. -/
theorem forall₂_isAt {nodes : List Json} (h : ∀ node ∈ nodes, fault? node = none) :
    List.Forall₂ Condition.IsAt (nodes.filterMap condition?)
      (nodes.filter fun node => node.hasKey "field" && node.hasKey "op") := by
  induction nodes with
  | nil => exact .nil
  | cons node nodes ih =>
      rw [List.forall_mem_cons] at h
      by_cases hkeys : node.hasKey "field" ∧ node.hasKey "op"
      · obtain ⟨c, hc, hat⟩ := exists_condition?_of_fault? h.1 hkeys
        rw [List.filterMap_cons_some hc, List.filter_cons_of_pos (by simpa using hkeys)]
        exact .cons hat (ih h.2)
      · rw [List.filterMap_cons_none (condition?_eq_none hkeys),
          List.filter_cons_of_neg (by simpa using hkeys)]
        exact ih h.2

end FilterNode

/-! ## normal predicates -/

namespace Predicate

open FilterNode

/-- What it means that a predicate is as it would be read from a tree. -/
inductive Normal : Predicate → Prop
  | always : Normal .always
  | condition {c : Condition} (path_not_blank : ¬ Text.isBlankText c.path) : Normal (.condition c)
  | all {parts : List Predicate} (ne_nil : parts ≠ []) (of_mem : ∀ p ∈ parts, Normal p) :
      Normal (.all parts)
  | any {parts : List Predicate} (ne_nil : parts ≠ []) (of_mem : ∀ p ∈ parts, Normal p) :
      Normal (.any parts)
  | not {part : Predicate} (normal : Normal part) : Normal (.not part)

theorem normal_allOf {ps : List Predicate} (h : ∀ p ∈ ps, Normal p) : Normal (allOf ps) := by
  cases ps with
  | nil => exact .always
  | cons p ps => exact .all (by simp) h

theorem normal_anyOf {ps : List Predicate} (h : ∀ p ∈ ps, Normal p) : Normal (anyOf ps) := by
  cases ps with
  | nil => exact .always
  | cons p ps => exact .any (by simp) h

theorem normal_of_ofNode {j : Json} {p : Predicate} (h : ofNode j = .ok p) : Normal p := by
  induction j using preorder.induct generalizing p with
  | case1 j ih =>
      obtain ⟨c, -, -, hpath, rfl⟩ | ⟨-, ⟨ps, hps, hp⟩ | ⟨part, q, hpart, hq, rfl⟩⟩ :=
        ofNode_cases h
      · exact .condition hpath
      · have hparts : ∀ q ∈ ps, Normal q := by
          intro q hq
          have hmem : .ok q ∈ (parts j).map ofNode := by
            rw [ofNodes_eq_ok_iff.1 hps]
            exact List.mem_map_of_mem hq
          obtain ⟨part, hpart, hread⟩ := List.mem_map.1 hmem
          exact ih part hpart hread
        rcases hp with rfl | rfl
        · exact normal_allOf hparts
        · exact normal_anyOf hparts
      · exact .not (ih part (by simp [hpart]) hq)

/-! ## writing predicates -/

mutual

/-- A predicate as a node; the one that says nothing is all of no nodes. -/
def node : Predicate → Json
  | always => conjunction []
  | condition c => c.node
  | all parts => conjunction (nodes parts)
  | any parts => disjunction (nodes parts)
  | not part => negation (node part)

/-- Several predicates, each as a node. -/
def nodes : List Predicate → List Json
  | [] => []
  | p :: ps => node p :: nodes ps

end

theorem nodes_eq_map (ps : List Predicate) : nodes ps = ps.map node := by
  induction ps with
  | nil => rfl
  | cons p ps ih => rw [nodes, ih, List.map_cons]

theorem ofNodes_nodes {ps : List Predicate} (h : ∀ p ∈ ps, ofNode p.node = .ok p) :
    ofNodes (nodes ps) = .ok ps := by
  rw [ofNodes_eq_ok_iff, nodes_eq_map, List.map_map]
  exact List.map_congr_left h

/-- A normal predicate is read back from its node. -/
theorem ofNode_node {p : Predicate} (h : Normal p) : ofNode p.node = .ok p := by
  induction h with
  | always => exact ofNode_conjunction []
  | @condition c hpath =>
      have hread := c.ofTree_node
      rw [if_neg hpath] at hread
      exact (ofTree_cons _ _).symm.trans hread
  | @all ps hne _ ih =>
      rw [node, ofNode_conjunction, ofNodes_nodes ih]
      simp [Except.map, allOf, hne]
  | @any ps hne _ ih =>
      rw [node, ofNode_disjunction, ofNodes_nodes ih]
      simp [Except.map, anyOf, hne]
  | not _ ih => exact ofNode_negation_eq_ok_iff.2 ⟨_, ih, rfl⟩

/-- The predicates that trees are read to are the normal ones. -/
theorem exists_ofTree_iff {p : Predicate} : (∃ tree, ofTree tree = .ok p) ↔ Normal p := by
  constructor
  · rintro ⟨tree, htree⟩
    obtain ⟨-, rfl⟩ | hnode := ofTree_eq_ok_iff.1 htree
    · exact .always
    · exact normal_of_ofNode hnode
  · intro h
    exact ⟨p.node, ofTree_eq_ok_iff.2 (.inr (ofNode_node h))⟩

/-- The conditions of what a tree is read to are the leaves of the tree. -/
theorem forall₂_conditions_leaves {tree : Json} {p : Predicate} (h : ofTree tree = .ok p) :
    List.Forall₂ Condition.IsAt p.conditions (leaves tree) := by
  obtain ⟨hnothing, rfl⟩ | hnode := ofTree_eq_ok_iff.1 h
  · rcases hnothing with rfl | rfl <;>
      simp [conditions, leaves, preorder_eq, parts, shape, Json.hasKey, Json.get?]
  · rw [conditions_of_ofNode hnode]
    have hfaults := (wellFormed_iff_findSome? tree).1 (exists_ofNode_iff.1 ⟨p, hnode⟩)
    exact forall₂_isAt (List.findSome?_eq_none_iff.1 hfaults)

/-- **What filter trees are read to**: the predicates that join nothing out of no
parts and have no blank path, all of them and no others.  The conditions of what a
tree is read to are its leaves in reading order, path, operator and operand as they
are written. -/
theorem ofTree_image_and_conditions :
    (∀ p, (∃ tree, ofTree tree = .ok p) ↔ Normal p) ∧
      ∀ tree p, ofTree tree = .ok p → List.Forall₂ Condition.IsAt p.conditions (leaves tree) :=
  ⟨fun _ => exists_ofTree_iff, fun _ _ => forall₂_conditions_leaves⟩

end Predicate

end Readership
