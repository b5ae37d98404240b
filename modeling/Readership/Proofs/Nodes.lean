import Readership.Proofs.FilterGrammar

/-!
# Readership.Proofs.Nodes

Nodes that are made of other nodes.

`FilterNode.conjunction`, `disjunction` and `negation` write a node that has one of
the keys `and`, `or` and `not` and no other key.  Such a node is read as its
operand is: as all of the predicates that are read from its parts, as any of
them, or as the contrary of one.
-/

namespace Readership

namespace FilterNode

/-- The node that asks for all of some nodes. -/
def conjunction (nodes : List Json) : Json := .object [("and", .array nodes)]

/-- The node that asks for one of some nodes, and for nothing if there are none. -/
def disjunction (nodes : List Json) : Json := .object [("or", .array nodes)]

/-- The node that asks for the contrary of a node. -/
def negation (node : Json) : Json := .object [("not", node)]

end FilterNode

namespace Predicate

open FilterNode

theorem ofNode_conjunction (nodes : List Json) :
    ofNode (conjunction nodes) = (ofNodes nodes).map allOf := by
  rw [ofNode_eq]
  rfl

theorem ofNode_disjunction (nodes : List Json) :
    ofNode (disjunction nodes) = (ofNodes nodes).map anyOf := by
  rw [ofNode_eq]
  rfl

/-- A negation is read where its part is; only objects are. -/
theorem ofNode_negation_eq_ok_iff {node : Json} {p : Predicate} :
    ofNode (negation node) = .ok p ↔ ∃ q, ofNode node = .ok q ∧ not q = p := by
  have hread : ofNode (negation node) = ofOperand .not node := by
    rw [ofNode_eq]
    rfl
  rw [hread, ← map_eq_ok_iff]
  cases node <;> simp [ofOperand, ofNode, Except.map]

/-- A node with a key is a whole tree as well. -/
theorem ofTree_cons (m : String × Json) (members : List (String × Json)) :
    ofTree (.object (m :: members)) = ofNode (.object (m :: members)) :=
  ofTree_eq_ofNode (by simp) (by simp)

end Predicate

end Readership
