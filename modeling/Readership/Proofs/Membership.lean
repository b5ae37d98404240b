import Readership.Proofs.Rewriting
import Readership.Proofs.WellTyped

/-!
# Readership.Proofs.Membership

Membership in a list, and equality with one of its items.

A condition that asks for one of some items is typed and evaluated apart from
those that ask for a single item.  They come to the same where the list has
items:

* the list is taken where every item is and none of them is null
  (`wellTyped_isOneOf_iff`): null alone is an operand of equality, but it is no
  item;
* it holds of the rows that equality with some item holds of (`sat_isOneOf`),
  whatever number of values the path takes there.

Without items the two part: the list holds of no row, any of no nodes of all.
-/

namespace Readership

/-! ## operands -/

/-- Items can be related one by one where each of them can be. -/
theorem exists_forall₂_iff {α β : Type} {R : α → β → Prop} {as : List α} :
    (∃ bs, List.Forall₂ R as bs) ↔ ∀ a ∈ as, ∃ b, R a b := by
  induction as with
  | nil => simp
  | cons a as ih =>
      rw [List.forall_mem_cons, ← ih]
      constructor
      · rintro ⟨bs, h⟩
        obtain ⟨b, bs, hb, hbs, rfl⟩ := List.forall₂_cons_left_iff.1 h
        exact ⟨⟨b, hb⟩, bs, hbs⟩
      · rintro ⟨⟨b, hb⟩, bs, hbs⟩
        exact ⟨b :: bs, .cons hb hbs⟩

namespace FieldType

variable {type : FieldType} {items : List Json} {item : Json}

/-- A list is taken where each item stands for a value. -/
theorem exists_accepts_oneOf_iff :
    (∃ l, type.Accepts .oneOf (.array items) l) ↔ ∀ item ∈ items, ∃ w, type.Denotes item w := by
  rw [← exists_forall₂_iff]
  constructor
  · rintro ⟨l, haccepts⟩
    cases haccepts with
    | oneOf operands => exact ⟨_, operands⟩
  · rintro ⟨ws, hws⟩
    exact ⟨_, .oneOf hws⟩

/-- Equality takes null, and whatever stands for a value. -/
theorem exists_accepts_eq_iff :
    (∃ l, type.Accepts .eq item l) ↔ item = .null ∨ ∃ w, type.Denotes item w := by
  constructor
  · rintro ⟨l, haccepts⟩
    cases haccepts with
    | null => exact .inl rfl
    | eq operand => exact .inr ⟨_, operand⟩
  · rintro (rfl | ⟨w, hw⟩)
    · exact ⟨_, .null⟩
    · exact ⟨_, .eq hw⟩

theorem exists_denotes_iff_accepts_eq :
    (∃ w, type.Denotes item w) ↔ item ≠ .null ∧ ∃ l, type.Accepts .eq item l := by
  rw [exists_accepts_eq_iff]
  constructor
  · rintro ⟨w, hw⟩
    exact ⟨hw.ne_null, .inr ⟨w, hw⟩⟩
  · rintro ⟨hnull, h⟩
    exact h.resolve_left hnull

end FieldType

/-! ## the conditions -/

namespace Condition

/-- The condition that a field is one of some items. -/
def isOneOf (path : String) (items : List Json) : Condition := ⟨path, .oneOf, .array items⟩

/-- The condition that a field is an item. -/
def isItem (path : String) (item : Json) : Condition := ⟨path, .eq, item⟩

variable {path : String} {items : List Json}

/-- A list of items is taken where equality takes each of them, but for null. -/
theorem wellTyped_isOneOf_iff (hne : items ≠ []) : (isOneOf path items).WellTyped ↔
    ∀ item ∈ items, item ≠ .null ∧ (isItem path item).WellTyped := by
  constructor
  · rintro ⟨field, hfield, haccepts⟩ item hitem
    obtain ⟨hnull, hitem⟩ := FieldType.exists_denotes_iff_accepts_eq.1
      (FieldType.exists_accepts_oneOf_iff.1 haccepts item hitem)
    exact ⟨hnull, field, hfield, hitem⟩
  · intro h
    obtain ⟨first, hfirst⟩ := List.exists_mem_of_ne_nil items hne
    obtain ⟨-, field, hfield, -⟩ := h first hfirst
    refine ⟨field, hfield, FieldType.exists_accepts_oneOf_iff.2 fun item hitem => ?_⟩
    obtain ⟨hnull, field', hfield', haccepts⟩ := h item hitem
    -- the field of any item is that of the first one, since the path is
    obtain rfl : field = field' := Except.ok.inj (hfield.symm.trans hfield')
    exact FieldType.exists_denotes_iff_accepts_eq.2 ⟨hnull, haccepts⟩

/-- Without items a list is taken on any field. -/
theorem wellTyped_isOneOf_nil {field : FieldPath} (h : Entity.view.resolve path = .ok field) :
    (isOneOf path []).WellTyped :=
  ⟨field, h, FieldType.exists_accepts_oneOf_iff.2 (by simp)⟩

/-- A selection can be narrowed by a condition that is typed. -/
theorem exists_narrow_node_iff {c : Condition} {q : ViewQuery} :
    (∃ q', q.narrow (some c.node) = .ok q') ↔ c.WellTyped := by
  simp only [ViewQuery.narrow_node_eq_ok_iff, FieldPath.lookup_eq_ok_iff, WellTyped]
  constructor
  · rintro ⟨_, field, l, hfield, hl, -⟩
    exact ⟨field, hfield, l, hl⟩
  · rintro ⟨field, hfield, l, hl⟩
    exact ⟨_, field, l, hfield, hl, rfl⟩

theorem isNode_node (c : Condition) : FilterNode.IsNode c.node := FilterNode.isNode_cons _ _

theorem usable_node_iff {c : Condition} : FilterNode.Usable c.node ↔ c.WellTyped := by
  rw [← FilterNode.exists_narrow_iff c.isNode_node .everything, exists_narrow_node_iff]

section
variable (t : Tables) (row : RowRef)

theorem sat_node (c : Condition) :
    FilterNode.sat t row c.node = FilterNode.meetsAt t row c.path c.op.name c.operand :=
  FilterNode.sat_eq_meetsAt rfl

/-- A list holds where equality with an item does; equality with null would ask
for something else. -/
theorem sat_isOneOf (hnull : ∀ item ∈ items, item ≠ .null) :
    FilterNode.sat t row (isOneOf path items).node =
      items.any fun item => FilterNode.sat t row (isItem path item).node := by
  simp only [sat_node, FilterNode.meetsAt, isOneOf, isItem, Operator.name]
  cases Entity.view.resolve path with
  | error e => simp
  | ok field =>
      simp only [FilterNode.meets]
      rw [Bool.eq_iff_iff, List.any_eq_true, List.any_eq_true]
      apply exists_congr
      intro item
      apply and_congr_right
      intro hitem
      have hne := hnull item hitem
      cases item <;> first | contradiction | rfl

end

end Condition

namespace FilterNode

open Condition

/-- A list of items stands for any of the equalities with them. -/
theorem interchangeable_isOneOf {path : String} {items : List Json} (hne : items ≠ [])
    (hnull : ∀ item ∈ items, item ≠ .null) :
    Interchangeable (isOneOf path items).node
      (disjunction (items.map fun item => (isItem path item).node)) := by
  have husable : Usable (isOneOf path items).node ↔
      Usable (disjunction (items.map fun item => (isItem path item).node)) := by
    rw [usable_disjunction_iff, List.forall_mem_map, usable_node_iff, wellTyped_isOneOf_iff hne]
    apply forall₂_congr
    intro item hitem
    rw [usable_node_iff, and_iff_right (hnull item hitem)]
  have hnode : IsNode (disjunction (items.map fun item => (isItem path item).node)) :=
    isNode_cons _ _
  apply interchangeable_of (isNode_node _) hnode husable
  intro t row
  have hparts : (items.map fun item => (isItem path item).node).isEmpty = false := by
    simpa using hne
  rw [sat_isOneOf t row hnull, sat_disjunction, hparts, Bool.false_or, List.any_map]
  rfl

end FilterNode

namespace ViewQuery

open Condition FilterNode

/-- A list without items leaves no view. -/
theorem rows_isOneOf_nil {q q' : ViewQuery} {path : String}
    (h : q.narrow (some (isOneOf path []).node) = .ok q') (d : Dataset) : q'.rows d = [] := by
  have hnone (i : Nat) : q'.selects d i = false := by
    rw [selects_narrow h, satTree_eq_sat (isNode_node _), sat_isOneOf _ _ (by simp), List.any_nil,
      Bool.and_false]
  rw [rows_eq_filter, kept, List.map_eq_nil_iff, List.filter_eq_nil_iff]
  simp [hnone]

/-- Any of no nodes leaves every view. -/
theorem exists_narrow_disjunction_nil :
    ∃ q, everything.narrow (some (disjunction [])) = .ok q ∧
      ∀ d, q.rows d = d.tables.views.toList := by
  have hnode : IsNode (disjunction []) := isNode_cons _ _
  obtain ⟨q, hq⟩ := (exists_narrow_iff hnode everything).2 (usable_disjunction_iff.2 (by simp))
  refine ⟨q, hq, fun d => ?_⟩
  rw [← rows_everything]
  apply rows_congr
  intro i
  rw [selects_narrow hq, satTree_eq_sat hnode, sat_disjunction]
  rfl

/-- **Membership is a choice of equalities**: a list of items is a filter where
none of them is null and equality with each of them is a filter.  It then leaves
the views that any of these equalities leave.  Without items it is a filter on
any field and leaves no view, whereas any of no nodes leaves every view. -/
theorem isOneOf_eq_any_isItem (path : String) (q : ViewQuery) :
    (∀ items, items ≠ [] →
      ((∃ q', q.narrow (some (isOneOf path items).node) = .ok q') ↔
        ∀ item ∈ items, item ≠ .null ∧ ∃ q', q.narrow (some (isItem path item).node) = .ok q') ∧
      ∀ byList, q.narrow (some (isOneOf path items).node) = .ok byList →
        ∃ byAny, q.narrow
            (some (disjunction (items.map fun item => (isItem path item).node))) = .ok byAny ∧
          ∀ d, byList.rows d = byAny.rows d) ∧
    ((∃ field, Entity.view.resolve path = .ok field) →
      ∃ byList, q.narrow (some (isOneOf path []).node) = .ok byList ∧ ∀ d, byList.rows d = []) ∧
    ∃ byAny, everything.narrow (some (disjunction [])) = .ok byAny ∧
      ∀ d, byAny.rows d = d.tables.views.toList := by
  refine ⟨fun items hne => ⟨?_, fun byList hlist => ?_⟩, ?_, exists_narrow_disjunction_nil⟩
  · simp only [exists_narrow_node_iff, wellTyped_isOneOf_iff hne]
  · have htyped := (wellTyped_isOneOf_iff hne).1 (exists_narrow_node_iff.1 ⟨byList, hlist⟩)
    have hsame : Interchangeable (isOneOf path items).node
        (disjunction (items.map fun item => (isItem path item).node)) :=
      interchangeable_isOneOf hne fun item hitem => (htyped item hitem).1
    obtain ⟨byAny, hany⟩ := (hsame.narrow_iff q).1 ⟨byList, hlist⟩
    exact ⟨byAny, hany, fun d => hsame.rows_eq q byList byAny d hlist hany⟩
  · rintro ⟨field, hfield⟩
    obtain ⟨byList, hlist⟩ := (exists_narrow_node_iff (q := q)).2 (wellTyped_isOneOf_nil hfield)
    exact ⟨byList, hlist, rows_isOneOf_nil hlist⟩

/-- The viewers of the blog of the first view are the user 1 and nobody; the
list names that user twice, once as a text. -/
theorem isOneOf_eq_any_isItem_sample :
    let path := "blog.views.viewer_id"
    let items := [Json.number (.integer 1), .string " +1"]
    items ≠ [] ∧ ∃ d byList byAny byNone, Dataset.ofTables .sample = .ok d ∧
      everything.narrow (some (isOneOf path items).node) = .ok byList ∧
      everything.narrow
        (some (disjunction (items.map fun item => (isItem path item).node))) = .ok byAny ∧
      byList.rows d = byAny.rows d ∧ byAny.ids d = [1, 2] ∧
      everything.narrow (some (isOneOf path []).node) = .ok byNone ∧ byNone.rows d = [] := by
  intro path items
  have hne : items ≠ [] := by decide
  obtain ⟨d, hd⟩ := Dataset.exists_ofTables Tables.sound_sample
  obtain ⟨hlists, hnone, -⟩ := isOneOf_eq_any_isItem path everything
  obtain ⟨hiff, hrows⟩ := hlists items hne
  have haccepts (item : Json) (hitem : item ∈ items) :
      item ≠ .null ∧ ∃ q, everything.narrow (some (isItem path item).node) = .ok q := by
    have hsome : (everything.narrow (some (isItem path item).node)).toOption.isSome = true := by
      rcases List.mem_pair.1 hitem with rfl | rfl <;> decide +kernel
    obtain ⟨q, hq⟩ := Option.isSome_iff_exists.1 hsome
    refine ⟨?_, q, toOption_eq_some_iff.1 hq⟩
    rcases List.mem_pair.1 hitem with rfl | rfl <;> simp
  obtain ⟨byList, hlist⟩ := hiff.2 haccepts
  obtain ⟨byAny, hany, hsame⟩ := hrows byList hlist
  have hfield : (Entity.view.resolve path).toOption.isSome = true := by decide +kernel
  obtain ⟨field, hfield⟩ := Option.isSome_iff_exists.1 hfield
  obtain ⟨byNone, hempty, hrowsNone⟩ := hnone ⟨field, toOption_eq_some_iff.1 hfield⟩
  have hids : byAny.ids d = [1, 2] := by
    rw [ids_eq_map_kept, kept]
    simp only [selects_narrow hany, selects_everything, Bool.true_and,
      Dataset.tables_of_ofTables hd]
    decide +kernel
  exact ⟨hne, d, byList, byAny, byNone, hd, hlist, hany, hsame d, hids, hempty, hrowsNone d⟩

end ViewQuery

end Readership
