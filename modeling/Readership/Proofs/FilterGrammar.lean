import Readership.Filter.Structure
import Readership.Proofs.Reading

/-!
# Readership.Proofs.FilterGrammar

Which JSON trees are filters, and which fault is told of any other.

The grammar and the faults are stated apart from the reader:

* `FilterNode.WellFormed` -- the grammar of nodes, one constructor for each
  kind of node;
* `FilterNode.fault?` -- the fault of a node by itself, whatever its parts are;
* `FilterNode.preorder` -- a node and all nodes below it, in reading order.

The reader takes one step at a node (`faultOf?_ofNode`) and an induction over
the tree carries it to the bottom: it fails with the first fault in reading
order (`faultOf?_ofNode_eq_findSome?`), and there is none exactly in a
well-formed tree (`wellFormed_iff_findSome?`).
-/

namespace Readership

/-- The first answer of the items of each list is the first of all items. -/
theorem findSome?_flatMap_of_eq {α β γ : Type} {f : α → List β} {p : β → Option γ}
    {g : α → Option γ} {xs : List α} (h : ∀ x ∈ xs, g x = (f x).findSome? p) :
    xs.findSome? g = (xs.flatMap f).findSome? p := by
  induction xs with
  | nil => rfl
  | cons x xs ih =>
      rw [List.forall_mem_cons] at h
      rw [List.flatMap_cons, List.findSome?_append, List.findSome?_cons, h.1, ih h.2]
      cases (f x).findSome? p <;> rfl

/-- The text of a string. -/
def Json.string? : Json → Option String
  | .string s => some s
  | _ => none

namespace FilterNode

/-! ## the shape of a node -/

/-- What a node is by the keys it has. -/
inductive Shape where
  /-- Both `field` and `op`, with the member `value` if there is one. -/
  | condition (field op : Json) (value : Option Json)
  /-- One of `and`, `or` and `not`, with its operand. -/
  | operation (c : Connective) (operand : Json)
  /-- None of the three, or several of them. -/
  | unclear (found : List Connective)
  /-- No object. -/
  | other

/-- The shape of a node; `field` and `op` win over all other keys. -/
def shape : Json → Shape
  | .object members =>
    match members.lookup "field", members.lookup "op" with
    | some field, some op => .condition field op (members.lookup "value")
    | _, _ =>
      match members.lookup "and", members.lookup "not", members.lookup "or" with
      | some operand, none, none => .operation .and operand
      | none, some operand, none => .operation .not operand
      | none, none, some operand => .operation .or operand
      | _, _, _ => .unclear (Connective.all.filter fun c => (members.lookup c.key).isSome)
  | _ => .other

/-- Whether a node has a certain one of the keys `and`, `or` and `not`, and no
other of them. -/
def HasOnly (members : List (String × Json)) (key : String) (operand : Json) : Prop :=
  members.lookup key = some operand ∧
    ∀ other ∈ ["and", "or", "not"], other ≠ key → members.lookup other = none

theorem shape_eq_condition_iff {members : List (String × Json)} {field op : Json}
    {value : Option Json} :
    shape (.object members) = .condition field op value ↔
      members.lookup "field" = some field ∧ members.lookup "op" = some op ∧
        members.lookup "value" = value := by
  rw [shape]
  split
  · next f o hf ho => simp [hf, ho]
  · next hno =>
    constructor
    · intro h
      split at h <;> contradiction
    · rintro ⟨hf, ho, -⟩
      exact (hno _ _ hf ho).elim

theorem shape_eq_operation_iff {members : List (String × Json)} {c : Connective}
    {operand : Json} :
    shape (.object members) = .operation c operand ↔
      (members.lookup "field" = none ∨ members.lookup "op" = none) ∧
        HasOnly members c.key operand := by
  rw [shape]
  split
  · next f o hf ho => simp [hf, ho]
  · next hno =>
    have hnone : members.lookup "field" = none ∨ members.lookup "op" = none := by
      cases hf : members.lookup "field" with
      | none => exact .inl rfl
      | some f =>
          cases ho : members.lookup "op" with
          | none => exact .inr rfl
          | some o => exact (hno f o hf ho).elim
    rw [and_iff_right hnone]
    cases c <;> cases ha : members.lookup "and" <;> cases hn : members.lookup "not" <;>
      cases hr : members.lookup "or" <;>
      simp [HasOnly, Connective.key, ha, hn, hr, -List.lookup_eq_none_iff]

/-! ## faults -/

/-- The names of the operators. -/
def operatorNames : List String := ["eq", "in", "contains", "gt", "gte", "lt", "lte"]

/-- The checks of a condition in their order, each with the fault it finds. -/
def conditionChecks (field op : Json) (value : Option Json) : List (Bool × StructureError) :=
  [(field.string?.isNone, .nonStringKey "field"),
    (field.string?.any (·.toList.all Text.isBlank), .emptyField),
    (op.string?.isNone, .nonStringKey "op"),
    (op.string?.any (· ∉ operatorNames), .unsupportedOperator (op.string?.getD "")),
    (value.isNone, .missingValue (field.string?.getD ""))]

/-- The fault of a node by itself, whatever its parts are. -/
def fault? (j : Json) : Option StructureError :=
  match shape j with
  | .condition field op value => ((conditionChecks field op value).find? (·.1)).map (·.2)
  | .operation .not (.object _) => none
  | .operation .not operand => some (.expectedObject operand.kind)
  | .operation _ (.array _) => none
  | .operation c _ => some (.expectedList c)
  | .unclear [] => some (.noOperation j.compact)
  | .unclear found => some (.multipleOperations found)
  | .other => some (.notAnObject j.kind)

/-- A condition passes its checks when path and operator are texts, the one
not blank and the other a name, and there is a value. -/
theorem find?_conditionChecks_eq_none_iff {field op : Json} {value : Option Json} :
    (conditionChecks field op value).find? (·.1) = none ↔
      ∃ path name, field = .string path ∧ (∃ c ∈ path.toList, ¬ Text.isBlank c) ∧
        op = .string name ∧ name ∈ operatorNames ∧ value.isSome := by
  cases field <;> cases op <;> simp [conditionChecks, Json.string?, Option.isSome_iff_ne_none]

/-! ## the nodes of a tree -/

/-- The nodes that a node joins. -/
def parts (j : Json) : List Json :=
  match shape j with
  | .operation .and (.array items) => items
  | .operation .or (.array items) => items
  | .operation .not (.object members) => [.object members]
  | _ => []

theorem sizeOf_lt_of_lookup {members : List (String × Json)} {key : String} {j : Json}
    (h : members.lookup key = some j) : sizeOf j < sizeOf (Json.object members) := by
  obtain ⟨before, after, rfl, -⟩ := List.lookup_eq_some_iff.1 h
  have hmem : (key, j) ∈ before ++ (key, j) :: after := by simp
  have hlt := List.sizeOf_lt_of_mem hmem
  simp only [Prod.mk.sizeOf_spec] at hlt
  simp only [Json.object.sizeOf_spec]
  omega

theorem sizeOf_operand_lt {j operand : Json} {c : Connective}
    (h : shape j = .operation c operand) : sizeOf operand < sizeOf j := by
  unfold shape at h
  split at h
  · next members =>
    split at h
    · contradiction
    · split at h <;> cases h <;> exact sizeOf_lt_of_lookup ‹_›
  · contradiction

/-- Parts are smaller than what they are parts of, so a tree has a bottom. -/
theorem sizeOf_lt_of_mem_parts {j part : Json} (h : part ∈ parts j) : sizeOf part < sizeOf j := by
  have hitem {items : List Json} (hi : part ∈ items) :
      sizeOf part < sizeOf (Json.array items) := by
    have hlt := List.sizeOf_lt_of_mem hi
    simp only [Json.array.sizeOf_spec]
    omega
  unfold parts at h
  split at h
  · next hs => exact Nat.lt_trans (hitem h) (sizeOf_operand_lt hs)
  · next hs => exact Nat.lt_trans (hitem h) (sizeOf_operand_lt hs)
  · next hs =>
    rw [List.mem_singleton] at h
    rw [h]
    exact sizeOf_operand_lt hs
  · contradiction

/-- A node and all nodes below it: each before its parts, and these from left
to right. -/
def preorder (j : Json) : List Json :=
  j :: (parts j).attach.flatMap fun ⟨part, _⟩ => preorder part
termination_by sizeOf j
decreasing_by exact sizeOf_lt_of_mem_parts ‹_›

theorem preorder_eq (j : Json) : preorder j = j :: (parts j).flatMap preorder := by
  rw [preorder]
  simp

/-! ## the grammar -/

/-- The nodes of filter trees. -/
inductive WellFormed : Json → Prop
  /-- With `field` and `op` a node is a condition, whatever other keys it has. -/
  | condition {members : List (String × Json)} {path name : String}
      (field : members.lookup "field" = some (.string path))
      (path_not_blank : ∃ c ∈ path.toList, ¬ Text.isBlank c)
      (op : members.lookup "op" = some (.string name)) (name_mem : name ∈ operatorNames)
      (value : (members.lookup "value").isSome) : WellFormed (.object members)
  | list {members : List (String × Json)} {key : String} {items : List Json}
      (no_condition : members.lookup "field" = none ∨ members.lookup "op" = none)
      (key_eq : key = "and" ∨ key = "or") (only : HasOnly members key (.array items))
      (items : ∀ j ∈ items, WellFormed j) : WellFormed (.object members)
  | not {members : List (String × Json)} {part : Json}
      (no_condition : members.lookup "field" = none ∨ members.lookup "op" = none)
      (only : HasOnly members "not" part) (part : WellFormed part) :
      WellFormed (.object members)

/-- A node is well formed when it has no fault by itself and its parts are
well formed. -/
theorem wellFormed_iff (j : Json) :
    WellFormed j ↔ fault? j = none ∧ ∀ part ∈ parts j, WellFormed part := by
  constructor
  · intro h
    cases h with
    | condition field path_not_blank op name_mem value =>
        have hshape := shape_eq_condition_iff.2 ⟨field, op, rfl⟩
        have hchecks := find?_conditionChecks_eq_none_iff.2
          ⟨_, _, rfl, path_not_blank, rfl, name_mem, value⟩
        simp [fault?, parts, hshape, hchecks]
    | list no_condition key_eq only items =>
        rcases key_eq with rfl | rfl
        · have hshape := shape_eq_operation_iff (c := .and).2 ⟨no_condition, only⟩
          simpa [fault?, parts, hshape] using items
        · have hshape := shape_eq_operation_iff (c := .or).2 ⟨no_condition, only⟩
          simpa [fault?, parts, hshape] using items
    | @not members part no_condition only hpart =>
        have hshape := shape_eq_operation_iff (c := .not).2 ⟨no_condition, only⟩
        obtain ⟨inner, rfl⟩ : ∃ inner, part = .object inner := by
          cases hpart <;> exact ⟨_, rfl⟩
        simpa [fault?, parts, hshape] using hpart
  · rintro ⟨hfault, hparts⟩
    cases j with
    | object members =>
        cases hshape : shape (.object members) with
        | condition field op value =>
            obtain ⟨hfield, hop, hvalue⟩ := shape_eq_condition_iff.1 hshape
            have hchecks : (conditionChecks field op value).find? (·.1) = none := by
              simpa [fault?, hshape] using hfault
            obtain ⟨path, name, rfl, hpath, rfl, hname, hsome⟩ :=
              find?_conditionChecks_eq_none_iff.1 hchecks
            exact .condition hfield hpath hop hname (by rw [hvalue]; exact hsome)
        | operation c operand =>
            obtain ⟨hno, honly⟩ := shape_eq_operation_iff.1 hshape
            cases c with
            | and =>
                cases operand <;> simp [fault?, parts, hshape] at hfault hparts
                exact .list hno (.inl rfl) honly hparts
            | or =>
                cases operand <;> simp [fault?, parts, hshape] at hfault hparts
                exact .list hno (.inr rfl) honly hparts
            | not =>
                cases operand <;> simp [fault?, parts, hshape] at hfault hparts
                exact .not hno honly hparts
        | unclear found => cases found <;> simp [fault?, hshape] at hfault
        | other => simp [fault?, hshape] at hfault
    | _ => simp [fault?, shape] at hfault

/-- A tree is well formed when no node of it has a fault. -/
theorem wellFormed_iff_findSome? (j : Json) :
    WellFormed j ↔ (preorder j).findSome? fault? = none := by
  rw [List.findSome?_eq_none_iff]
  induction j using preorder.induct with
  | case1 j ih =>
      rw [wellFormed_iff, preorder_eq]
      simp only [List.forall_mem_cons, List.forall_mem_flatMap]
      constructor
      · rintro ⟨hj, hparts⟩
        exact ⟨hj, fun part hp => (ih part hp).1 (hparts part hp)⟩
      · rintro ⟨hj, hparts⟩
        exact ⟨hj, fun part hp => (ih part hp).2 (hparts part hp)⟩

end FilterNode

/-! ## the reader -/

/-- The name of an operator reads back. -/
@[simp] theorem Operator.ofName?_name (op : Operator) : ofName? op.name = some op := by
  cases op <;> decide

theorem Operator.name_of_ofName? {name : String} {op : Operator} (h : ofName? name = some op) :
    op.name = name := by
  have hname := List.find?_some h
  exact eq_of_beq hname

/-- A condition has the path, the operator and the operand that it is read
from. -/
theorem Condition.ofEntries_eq_ok_iff {field op : Json} {value : Option Json} {c : Condition} :
    ofEntries field op value = .ok c ↔ field = .string c.path ∧ ¬ Text.isBlankText c.path ∧
      op = .string c.op.name ∧ value = some c.operand := by
  constructor
  · intro h
    unfold ofEntries at h
    split at h <;> try contradiction
    split at h <;> try contradiction
    next hpath =>
    split at h <;> try contradiction
    split at h <;> try contradiction
    next name o operand hname =>
    obtain rfl : _ = c := Except.ok.inj h
    exact ⟨rfl, hpath, by rw [Operator.name_of_ofName? hname], rfl⟩
  · rintro ⟨rfl, hpath, rfl, rfl⟩
    simp [ofEntries, hpath]

namespace Predicate

open FilterNode

/-- Reads what an operation makes of its operand. -/
def ofOperand : Connective → Json → Except StructureError Predicate
  | .and, .array items => (ofNodes items).map allOf
  | .or, .array items => (ofNodes items).map anyOf
  | .not, .object members => (ofNode (.object members)).map not
  | .not, j => .error (.expectedObject j.kind)
  | c, _ => .error (.expectedList c)

theorem ofMember_eq {c : Connective} {members : List (String × Json)} {operand : Json}
    (h : members.lookup c.key = some operand) : ofMember c members = ofOperand c operand := by
  induction members with
  | nil => contradiction
  | cons m rest ih =>
      obtain ⟨key, value⟩ := m
      rw [List.lookup_cons] at h
      by_cases hk : key = c.key
      · obtain rfl : value = operand := by simpa [hk] using h
        cases c <;> cases value <;> simp [ofMember, hk, ofOperand]
      · have hne : (c.key == key) = false := beq_false_of_ne (Ne.symm hk)
        rw [hne] at h
        cases c <;> cases value <;> simp [ofMember, hk, ih h]

/-- A node is read by its shape. -/
theorem ofNode_eq (j : Json) :
    ofNode j =
      match shape j with
      | .condition field op value => (Condition.ofEntries field op value).map condition
      | .operation c operand => ofOperand c operand
      | .unclear [] => .error (.noOperation j.compact)
      | .unclear found => .error (.multipleOperations found)
      | .other => .error (.notAnObject j.kind) := by
  cases j with
  | object members =>
      rw [ofNode, shape]
      cases hf : members.lookup "field" <;> cases ho : members.lookup "op" <;>
        cases ha : members.lookup "and" <;> cases hn : members.lookup "not" <;>
        cases hr : members.lookup "or" <;> simp [Connective.all, Connective.key, ha, hn, hr] <;>
        exact ofMember_eq (by assumption)
  | _ => rfl

theorem ofNodes_cons (j : Json) (js : List Json) :
    ofNodes (j :: js) = (ofNode j).bind fun p => (ofNodes js).map (p :: ·) := by
  rw [ofNodes]
  cases ofNode j <;> rfl

end Predicate

namespace FilterNode

open Predicate

theorem mem_operatorNames_iff {name : String} :
    name ∈ operatorNames ↔ (Operator.ofName? name).isSome := by
  rw [show operatorNames = Operator.all.map (·.name) from rfl, Operator.ofName?,
    List.find?_isSome]
  simp

/-- Reading a condition fails with the first check that finds a fault. -/
theorem faultOf?_ofEntries (field op : Json) (value : Option Json) :
    faultOf? (Condition.ofEntries field op value) =
      ((conditionChecks field op value).find? (·.1)).map (·.2) := by
  cases field with
  | string path =>
      cases hp : path.toList.all Text.isBlank with
      | true => simp [Condition.ofEntries, Text.isBlankText, conditionChecks, Json.string?, hp]
      | false =>
        cases op with
        | string name =>
            cases hop : Operator.ofName? name with
            | none =>
                have hname : name ∉ operatorNames := by simp [mem_operatorNames_iff, hop]
                simp [Condition.ofEntries, Text.isBlankText, conditionChecks, Json.string?, hp,
                  hop, hname]
            | some o =>
                have hname : name ∈ operatorNames := by simp [mem_operatorNames_iff, hop]
                cases value <;>
                  simp [Condition.ofEntries, Text.isBlankText, conditionChecks, Json.string?, hp,
                    hop, hname]
        | _ => simp [Condition.ofEntries, Text.isBlankText, conditionChecks, Json.string?, hp]
  | _ => simp [Condition.ofEntries, conditionChecks, Json.string?]

theorem faultOf?_ofNodes (js : List Json) :
    faultOf? (ofNodes js) = js.findSome? fun j => faultOf? (ofNode j) :=
  faultOf?_list ofNode ofNodes rfl ofNodes_cons js

/-- Reading a node fails with its own fault, and otherwise where reading its
parts does. -/
theorem faultOf?_ofNode (j : Json) :
    faultOf? (ofNode j) =
      (fault? j).or ((parts j).findSome? fun part => faultOf? (ofNode part)) := by
  rw [ofNode_eq, fault?, parts]
  cases shape j with
  | condition field op value => simp [faultOf?_ofEntries]
  | operation c operand => cases c <;> cases operand <;> simp [ofOperand, faultOf?_ofNodes]
  | unclear found => cases found <;> simp
  | other => simp

/-- Reading a node fails with the first fault among the node and all nodes
below it. -/
theorem faultOf?_ofNode_eq_findSome? (j : Json) :
    faultOf? (ofNode j) = (preorder j).findSome? fault? := by
  induction j using preorder.induct with
  | case1 j ih =>
      rw [faultOf?_ofNode, preorder_eq, List.findSome?_cons, findSome?_flatMap_of_eq ih]
      cases fault? j <;> rfl

/-- The nodes that can be read are the well-formed ones. -/
theorem exists_ofNode_iff {j : Json} : (∃ p, ofNode j = .ok p) ↔ WellFormed j := by
  rw [← faultOf?_eq_none_iff, faultOf?_ofNode_eq_findSome?, wellFormed_iff_findSome?]

end FilterNode

open FilterNode

/-- Above the nodes there are two more trees, null and the object without
keys, which say nothing. -/
theorem Predicate.ofTree_eq_ofNode {t : Json} (hnull : t ≠ .null) (hempty : t ≠ .object []) :
    ofTree t = ofNode t := by
  unfold ofTree
  split
  · exact (hnull rfl).elim
  · exact (hempty rfl).elim
  · rfl

theorem Predicate.ofTree_eq_ok_iff {t : Json} {p : Predicate} :
    ofTree t = .ok p ↔ (t = .null ∨ t = .object []) ∧ always = p ∨ ofNode t = .ok p := by
  by_cases hnull : t = .null
  · subst hnull
    simp [ofTree, ofNode]
  by_cases hempty : t = .object []
  · subst hempty
    have herror : ofNode (.object []) = .error (.noOperation (Json.object []).compact) := by
      rw [ofNode_eq]
      rfl
    simp [ofTree, herror]
  rw [ofTree_eq_ofNode hnull hempty]
  simp [hnull, hempty]

/-- **The trees that are filters**: a tree is read exactly if it is null, an
object without keys or well formed; any other is refused with the fault of the
first node in reading order that has one. -/
theorem Predicate.ofTree_ok_iff_and_error_iff (t : Json) :
    ((∃ p, ofTree t = .ok p) ↔ t = .null ∨ t = .object [] ∨ WellFormed t) ∧
    ∀ e, ofTree t = .error e ↔
      t ≠ .null ∧ t ≠ .object [] ∧ (preorder t).findSome? fault? = some e := by
  by_cases hnull : t = .null
  · subst hnull
    simp [ofTree]
  by_cases hempty : t = .object []
  · subst hempty
    simp [ofTree]
  rw [ofTree_eq_ofNode hnull hempty]
  constructor
  · rw [← faultOf?_eq_none_iff, faultOf?_ofNode_eq_findSome?, wellFormed_iff_findSome?]
    simp [hnull, hempty]
  · intro e
    rw [← faultOf?_eq_some_iff, faultOf?_ofNode_eq_findSome?]
    simp [hnull, hempty]

end Readership
