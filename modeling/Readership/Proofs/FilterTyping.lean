import Readership.Proofs.ConditionMeaning
import Readership.Proofs.Conditions
import Readership.Proofs.PathResolution
import Readership.Proofs.Traversal

/-!
# Readership.Proofs.FilterTyping

The types of what a filter compares.

Typing a predicate leaves tests of single fields at the leaves of a row filter
(`RowFilter.tests`), each made of a condition of the predicate
(`exists_condition_of_mem_tests`).  On both sides of such a test stand values
of the type of the field:

* operands are read as that type (`type?_of_mem_operands`);
* what a path leads to is of that type, or null in a column that may be empty
  (`null_or_typed_of_mem_values`).

So a comparison has an answer whenever its value is not null.  A path without
a reverse relation leads to one value at most, which is then below, equal to or
above an operand, or null (`testAny_placed_iff`).
-/

namespace Readership

/-! ## the tests of a filter -/

/-- The values that a test compares with.  A needle is a text. -/
def Lookup.operands : Lookup → List Value
  | isNull => []
  | oneOf ws => ws
  | contains needle => [.text needle]
  | exact w | greater w | greaterOrEqual w | less w | lessOrEqual w => [w]

namespace RowFilter

mutual

/-- The tests of a filter from left to right. -/
def tests : RowFilter → List (FieldPath × Lookup)
  | always => []
  | test field lookup => [(field, lookup)]
  | all filters => testsOf filters
  | any filters => testsOf filters
  | not filter => tests filter

/-- The tests of several filters from left to right. -/
def testsOf : List RowFilter → List (FieldPath × Lookup)
  | [] => []
  | f :: fs => tests f ++ testsOf fs

end

end RowFilter

namespace Predicate

mutual

/-- Every test of the filter of a predicate is made of one of its conditions. -/
theorem exists_condition_of_mem_tests {p : Predicate} {f : RowFilter} (h : p.toRowFilter = .ok f)
    {t : FieldPath × Lookup} (ht : t ∈ f.tests) :
    ∃ c ∈ p.conditions, Entity.view.resolve c.path = .ok t.1 ∧
      t.1.lookup c.op c.operand = .ok t.2 := by
  cases p with
  | always =>
      obtain rfl : RowFilter.always = f := Except.ok.inj h
      contradiction
  | condition c =>
      obtain ⟨field, l, hfield, hl, rfl⟩ := Condition.toRowFilter_eq_ok_iff.1 h
      obtain rfl : t = (field, l) := List.mem_singleton.1 ht
      exact ⟨c, List.mem_singleton_self c, hfield, hl⟩
  | all parts =>
      obtain ⟨fs, hfs, rfl⟩ := map_eq_ok_iff.1 h
      exact exists_condition_of_mem_testsOf hfs ht
  | any parts =>
      obtain ⟨fs, hfs, rfl⟩ := map_eq_ok_iff.1 h
      exact exists_condition_of_mem_testsOf hfs ht
  | not part =>
      obtain ⟨g, hg, rfl⟩ := map_eq_ok_iff.1 h
      exact exists_condition_of_mem_tests hg ht

theorem exists_condition_of_mem_testsOf {ps : List Predicate} {fs : List RowFilter}
    (h : toRowFilters ps = .ok fs) {t : FieldPath × Lookup} (ht : t ∈ RowFilter.testsOf fs) :
    ∃ c ∈ conditionsOf ps, Entity.view.resolve c.path = .ok t.1 ∧
      t.1.lookup c.op c.operand = .ok t.2 := by
  cases ps with
  | nil =>
      obtain rfl : [] = fs := Except.ok.inj h
      contradiction
  | cons p ps =>
      rw [toRowFilters] at h
      split at h
      · contradiction
      · next f hf =>
        obtain ⟨rest, hrest, rfl⟩ := map_eq_ok_iff.1 h
        rw [conditionsOf]
        rcases List.mem_append.1 ht with ht | ht
        · obtain ⟨c, hc, hmade⟩ := exists_condition_of_mem_tests hf ht
          exact ⟨c, List.mem_append_left _ hc, hmade⟩
        · obtain ⟨c, hc, hmade⟩ := exists_condition_of_mem_testsOf hrest ht
          exact ⟨c, List.mem_append_right _ hc, hmade⟩

end

end Predicate

/-! ## operands -/

/-- An operand is read as a value of the type that it is read for. -/
theorem FieldType.type?_of_operand? {type : FieldType} {j : Json} {w : Value}
    (h : type.operand? j = some w) : w.type? = some type := by
  unfold operand? at h
  split at h <;> simp [Option.map_eq_some_iff] at h
  · obtain ⟨-, rfl⟩ := h; rfl
  · obtain ⟨n, -, rfl⟩ := h; rfl
  · subst h; rfl
  · subst h; rfl
  · obtain ⟨t, -, rfl⟩ := h; rfl

namespace FieldPath

variable {f : FieldPath} {op : Operator} {j : Json}

theorem operand_eq_ok_iff {w : Value} : f.operand op j = .ok w ↔ f.type.operand? j = some w := by
  rw [← toOption_eq_some_iff, toOption_operand]

theorem type?_of_mem_operands_of_map {test : Value → Lookup} {l : Lookup}
    (htest : ∀ w, (test w).operands = [w]) (h : (f.operand op j).map test = .ok l) {w : Value}
    (hw : w ∈ l.operands) : w.type? = some f.type := by
  obtain ⟨w', hw', rfl⟩ := map_eq_ok_iff.1 h
  obtain rfl : w = w' := by simpa [htest] using hw
  exact FieldType.type?_of_operand? (operand_eq_ok_iff.1 hw')

/-- The operands of a test are of the type of its field. -/
theorem type?_of_mem_operands {l : Lookup} (h : f.lookup op j = .ok l) {w : Value}
    (hw : w ∈ l.operands) : w.type? = some f.type := by
  cases op with
  | eq =>
      by_cases hj : j = .null
      · subst hj
        obtain rfl : Lookup.isNull = l := Except.ok.inj h
        contradiction
      · rw [f.lookup_eq_of_ne_null hj] at h
        exact type?_of_mem_operands_of_map (fun _ => rfl) h hw
  | oneOf =>
      cases j <;> try contradiction
      next items =>
      obtain ⟨ws, hws, rfl⟩ := map_eq_ok_iff.1 h
      have hmem : Except.ok w ∈ items.map (f.operand .oneOf) := by
        rw [operands_eq_ok_iff.1 hws]
        exact List.mem_map_of_mem hw
      obtain ⟨j, -, hj⟩ := List.mem_map.1 hmem
      exact FieldType.type?_of_operand? (operand_eq_ok_iff.1 hj)
  | contains =>
      rw [lookup] at h
      unfold containing at h
      split at h <;> try contradiction
      next htype =>
      split at h <;> try contradiction
      next needle =>
      obtain rfl : Lookup.containing needle = l := Except.ok.inj h
      obtain rfl : w = .text (Text.lowercase needle) := List.mem_singleton.1 hw
      have htext : f.type = .text := by simpa using htype
      rw [htext]
      rfl
  | gt => exact type?_of_mem_operands_of_map (fun _ => rfl) (operand_of_comparing h) hw
  | gte => exact type?_of_mem_operands_of_map (fun _ => rfl) (operand_of_comparing h) hw
  | lt => exact type?_of_mem_operands_of_map (fun _ => rfl) (operand_of_comparing h) hw
  | lte => exact type?_of_mem_operands_of_map (fun _ => rfl) (operand_of_comparing h) hw

end FieldPath

/-! ## values -/

/-- What a path leads to is of the type of its field, or null in a column that
may be empty. -/
theorem Dataset.null_or_typed_of_mem_values (d : Dataset) {row : RowRef}
    (hrow : row ∈ d.tables.rows .view) {path : String} {field : FieldPath}
    (hfield : Entity.view.resolve path = .ok field) {v : Value} (hv : v ∈ d.values row field) :
    v = .null ∧ field.column.isNullable = true ∨ v.type? = some field.type := by
  have hview : row.entity = .view := d.tables.entity_of_mem_rows hrow
  rw [← hview] at hrow hfield
  obtain ⟨target, hreach, hcolumn⟩ := Entity.reach?_of_resolve hfield
  rw [values_eq_scanValues] at hv
  obtain ⟨other, hother, rfl⟩ := List.mem_map.1 hv
  have hmem := d.tables.mem_rows_of_mem_scanReach hrow hreach hother
  obtain rfl : other.entity = target := d.tables.entity_of_mem_rows hmem
  rcases d.tables.read_null_or_typed other field.column with hnull | htyped
  · refine .inl ⟨hnull, ?_⟩
    by_contra hnot
    exact d.tables.read_ne_null hmem hcolumn (by simpa using hnot) hnull
  · exact .inr htyped

/-! ## one value and an operand -/

namespace Lookup

/-- The test for a way to stand to an operand; null stands in no way to it. -/
def placed (w : Value) : Option Ordering → Lookup
  | some .lt => less w
  | some .eq => exact w
  | some .gt => greater w
  | none => isNull

/-- Where there is one value at most, it is the way in which that stands to an
operand of its type that decides which of the tests is passed. -/
theorem testAny_placed_iff {w : Value} {type : FieldType} (hw : w.type? = some type)
    {values : List Value} (hone : values.length ≤ 1)
    (htyped : ∀ v ∈ values, v = .null ∨ v.type? = some type) (o : Option Ordering) :
    (placed w o).testAny values = true ↔ values.head?.bind (·.compare? w) = o := by
  cases values with
  | nil => rcases o with _ | _ | _ | _ <;> simp [placed, testAny]
  | cons v rest =>
      obtain rfl : rest = [] := by
        rw [List.length_cons] at hone
        exact List.length_eq_zero_iff.1 (by omega)
      have hnull : v.isNull = true ↔ v.compare? w = none := by
        rcases htyped v List.mem_cons_self with rfl | hv
        · simp [Value.isNull, Value.compare?]
        · have hsome : (v.compare? w).isSome := Value.compare?_isSome_iff.2 (by simp [hv, hw])
          rw [Option.isSome_iff_ne_none] at hsome
          cases v <;> simp_all [Value.isNull, Value.type?]
      rw [List.head?_cons, Option.bind_some]
      cases hc : v.compare? w with
      | none =>
          rcases o with _ | _ | _ | _ <;> simp [placed, testAny, test, ordered, hnull, hc]
      | some p =>
          rcases o with _ | _ | _ | _ <;> cases p <;>
            simp [placed, testAny, test, ordered, hnull, hc]

end Lookup

/-- The condition for a way to stand to an operand; the one for no way is that
for null. -/
def Condition.placed (path : String) (j : Json) : Option Ordering → Condition
  | some .lt => ⟨path, .lt, j⟩
  | some .eq => ⟨path, .eq, j⟩
  | some .gt => ⟨path, .gt, j⟩
  | none => ⟨path, .eq, .null⟩

theorem Condition.path_placed (path : String) (j : Json) (o : Option Ordering) :
    (placed path j o).path = path := by
  rcases o with _ | _ | _ | _ <;> rfl

namespace FieldPath

variable {f : FieldPath} {j : Json} {w : Value}

theorem lookup_placed (hordered : f.type.isOrdered = true) (hj : f.type.operand? j = some w)
    (path : String) (o : Option Ordering) :
    f.lookup (Condition.placed path j o).op (Condition.placed path j o).operand =
      .ok (Lookup.placed w o) := by
  have hoperand (op : Operator) : f.operand op j = .ok w := operand_eq_ok_iff.2 hj
  have hnull : j ≠ .null := by
    rintro rfl
    cases htype : f.type <;> simp [htype, FieldType.operand?] at hj
  rcases o with _ | _ | _ | _
  · rfl
  · simp [Condition.placed, lookup, comparing, hordered, hoperand, Except.map, Lookup.placed]
  · simp only [Condition.placed, f.lookup_eq_of_ne_null hnull, hoperand, Except.map, Lookup.placed]
  · simp [Condition.placed, lookup, comparing, hordered, hoperand, Except.map, Lookup.placed]

/-- An operand that one of the comparisons accepts is read as a value. -/
theorem exists_operand_of_placed {path : String} (hnull : j ≠ .null) {p : Ordering} {l : Lookup}
    (h : f.lookup (Condition.placed path j (some p)).op (Condition.placed path j (some p)).operand =
      .ok l) : ∃ w, f.type.operand? j = some w := by
  cases p with
  | lt =>
      obtain ⟨w, hw, -⟩ := map_eq_ok_iff.1 (operand_of_comparing h)
      exact ⟨w, operand_eq_ok_iff.1 hw⟩
  | eq =>
      rw [Condition.placed, f.lookup_eq_of_ne_null hnull] at h
      obtain ⟨w, hw, -⟩ := map_eq_ok_iff.1 h
      exact ⟨w, operand_eq_ok_iff.1 hw⟩
  | gt =>
      obtain ⟨w, hw, -⟩ := map_eq_ok_iff.1 (operand_of_comparing h)
      exact ⟨w, operand_eq_ok_iff.1 hw⟩

end FieldPath

namespace ViewQuery

/-- The test for a way to stand to an operand selects the views whose value
stands so. -/
theorem mem_ids_placed_iff {d : Dataset} {i : Nat} {v : View} (hv : d.tables.views[i]? = some v)
    {path : String} {field : FieldPath} (hfield : Entity.view.resolve path = .ok field)
    (hsingle : field.isMultiValued = false) {w : Value} (hw : w.type? = some field.type)
    (o : Option Ordering) :
    v.id ∈ (everything.filter (.test field (.placed w o))).ids d ↔
      (d.values ⟨.view, i⟩ field).head?.bind (·.compare? w) = o := by
  have hforward : ∀ hop ∈ field.hops, hop.isForward = true := by
    simpa [FieldPath.isMultiValued, Relation.isForward] using hsingle
  have hone : (d.values ⟨.view, i⟩ field).length ≤ 1 := by
    rw [Dataset.values, List.length_map]
    exact d.length_reach_le_one hforward _
  have htyped : ∀ x ∈ d.values ⟨.view, i⟩ field, x = .null ∨ x.type? = some field.type := by
    intro x hx
    exact (d.null_or_typed_of_mem_values (d.tables.mem_rows_view hv) hfield hx).imp_left (·.1)
  rw [mem_ids_test hv, Lookup.testAny_placed_iff hw hone htyped]

/-- **Below, equal, above or null**: on a path without a reverse relation and of an
ordered type, an operand parts the views into those four. -/
theorem placed_partition {path : String} {field : FieldPath}
    (hfield : Entity.view.resolve path = .ok field) (hsingle : field.isMultiValued = false)
    (hordered : field.type.isOrdered = true) {j : Json} {w : Value}
    (hj : field.type.operand? j = some w) :
    ∃ qs : List ViewQuery,
      [some .lt, some .eq, some .gt, none].map
        (fun o => everything.narrow (some (Condition.placed path j o).node)) = qs.map .ok ∧
      ∀ d : Dataset, (qs.map (·.ids d)).Pairwise List.Disjoint ∧
        ∀ id, id ∈ d.tables.ids .view ↔ ∃ q ∈ qs, id ∈ q.ids d := by
  have hw := FieldType.type?_of_operand? hj
  have hnarrow (o : Option Ordering) :
      everything.narrow (some (Condition.placed path j o).node) =
        .ok (everything.filter (.test field (.placed w o))) :=
    narrow_node_eq_ok_iff.2 ⟨field, _, by rw [Condition.path_placed, hfield],
      field.lookup_placed hordered hj path o, rfl⟩
  refine ⟨[some .lt, some .eq, some .gt, none].map fun o =>
    everything.filter (.test field (.placed w o)), ?_, ?_⟩
  · simp only [hnarrow, List.map_map, Function.comp_def]
  intro d
  constructor
  · rw [List.map_map, List.pairwise_map]
    have hnodup : [some Ordering.lt, some .eq, some .gt, none].Nodup := by decide
    refine hnodup.imp fun {o o'} hne id hid hid' => ?_
    obtain ⟨i, v, hv, rfl⟩ := exists_view_of_mem_ids hid
    have ho := (mem_ids_placed_iff hv hfield hsingle hw o).1 hid
    have ho' := (mem_ids_placed_iff hv hfield hsingle hw o').1 hid'
    exact hne (ho.symm.trans ho')
  · intro id
    constructor
    · intro hid
      obtain ⟨v, hv, rfl⟩ := List.mem_map.1 hid
      obtain ⟨i, hi⟩ := Array.mem_iff_getElem?.1 (Array.mem_toList_iff.1 hv)
      refine ⟨_, List.mem_map_of_mem ?_, (mem_ids_placed_iff hi hfield hsingle hw _).2 rfl⟩
      rcases (d.values ⟨.view, i⟩ field).head?.bind (·.compare? w) with _ | _ | _ | _ <;> decide
    · rintro ⟨q, -, hid⟩
      obtain ⟨i, v, hv, rfl⟩ := exists_view_of_mem_ids hid
      exact List.mem_map_of_mem (Array.mem_toList_iff.2 (Array.mem_of_getElem? hv))

end ViewQuery

/-- **Filters are well typed**: in the filter of any predicate, operands are of
the type of their field, and so is every value that is compared with them,
unless it is null in a column that may be empty; so every other value can be
compared.  Below, equal to and above an operand, and null, therefore part the
views wherever the path leads to one value at most, of an ordered type. -/
theorem filters_wellTyped :
    (∀ (p : Predicate) (f : RowFilter), p.toRowFilter = .ok f →
      ∀ (field : FieldPath) (l : Lookup), (field, l) ∈ f.tests →
        (∀ w ∈ l.operands, w.type? = some field.type) ∧
        ∀ (d : Dataset), ∀ row ∈ d.tables.rows .view, ∀ v ∈ d.values row field,
          (v = .null ∧ field.column.isNullable = true ∨ v.type? = some field.type) ∧
          (v ≠ .null → ∀ w ∈ l.operands, (v.compare? w).isSome)) ∧
    (∀ (path : String) (field : FieldPath), Entity.view.resolve path = .ok field →
      field.isMultiValued = false → field.type ∈ [.integer, .text, .timestamp] →
      ∀ j ≠ Json.null, (∃ op ∈ [Operator.lt, .eq, .gt], ∃ f,
        Condition.toRowFilter ⟨path, op, j⟩ = .ok f) →
      ∃ qs : List ViewQuery,
        ([⟨path, .lt, j⟩, ⟨path, .eq, j⟩, ⟨path, .gt, j⟩, ⟨path, .eq, .null⟩].map
          fun c : Condition => ViewQuery.everything.narrow (some c.node)) = qs.map .ok ∧
        ∀ d : Dataset, (qs.map (·.ids d)).Pairwise List.Disjoint ∧
          ∀ id, id ∈ d.tables.ids .view ↔ ∃ q ∈ qs, id ∈ q.ids d) := by
  constructor
  · intro p f hf field l ht
    obtain ⟨c, -, hfield, hl⟩ := Predicate.exists_condition_of_mem_tests hf ht
    have hoperands : ∀ w ∈ l.operands, w.type? = some field.type := fun w hw =>
      FieldPath.type?_of_mem_operands hl hw
    refine ⟨hoperands, fun d row hrow v hv => ?_⟩
    have hvalue := d.null_or_typed_of_mem_values hrow hfield hv
    refine ⟨hvalue, fun hne w hw => ?_⟩
    have htype : v.type? = some field.type := hvalue.resolve_left fun h => hne h.1
    exact Value.compare?_isSome_iff.2 ⟨by rw [htype]; rfl, htype.trans (hoperands w hw).symm⟩
  · intro path field hfield hsingle htype j hj ⟨op, hop, f, hf⟩
    have hordered : field.type.isOrdered = true := by
      revert htype
      cases field.type <;> decide
    obtain ⟨field', l, hfield', hl, -⟩ := Condition.toRowFilter_eq_ok_iff.1 hf
    obtain rfl : field = field' := Except.ok.inj (hfield.symm.trans hfield')
    obtain ⟨w, hw⟩ : ∃ w, field.type.operand? j = some w := by
      simp only [List.mem_cons, List.not_mem_nil, or_false] at hop
      rcases hop with rfl | rfl | rfl
      · exact field.exists_operand_of_placed (p := .lt) hj hl
      · exact field.exists_operand_of_placed (p := .eq) hj hl
      · exact field.exists_operand_of_placed (p := .gt) hj hl
    exact ViewQuery.placed_partition hfield hsingle hordered hw

/-- The first view has a viewer whose name is below "bob", the second none. -/
theorem filters_wellTyped_sample :
    let path := "viewer.username"
    let field : FieldPath := ⟨path, [.viewer], .username⟩
    let j := Json.string "bob"
    ∃ d, Dataset.ofTables .sample = .ok d ∧ .text "ada" ∈ d.values ⟨.view, 0⟩ field ∧
      ((Value.text "ada").compare? (.text "bob")).isSome ∧
      ∃ qs : List ViewQuery,
        ([⟨path, .lt, j⟩, ⟨path, .eq, j⟩, ⟨path, .gt, j⟩, ⟨path, .eq, .null⟩].map
          fun c : Condition => ViewQuery.everything.narrow (some c.node)) = qs.map .ok ∧
        (qs.map (·.ids d)).Pairwise List.Disjoint ∧ ∀ id, id ∈ [1, 2] ↔ ∃ q ∈ qs, id ∈ q.ids d := by
  intro path field j
  obtain ⟨d, hd⟩ := Dataset.exists_ofTables Tables.sound_sample
  have htables := Dataset.tables_of_ofTables hd
  obtain ⟨htests, hparts⟩ := filters_wellTyped
  have hfield : Entity.view.resolve path = .ok field := by
    rw [← toOption_eq_some_iff]
    decide +kernel
  have hbelow : (Predicate.condition ⟨path, .lt, j⟩).toRowFilter =
      .ok (.test field (.less (.text "bob"))) :=
    Condition.toRowFilter_eq_ok_iff.2 ⟨field, _, hfield, rfl, rfl⟩
  have hrow : ⟨.view, 0⟩ ∈ d.tables.rows .view := by
    rw [htables]
    decide
  have hvalue : .text "ada" ∈ d.values ⟨.view, 0⟩ field := by
    rw [d.values_eq_scanValues, htables]
    decide +kernel
  obtain ⟨-, hvalues⟩ := htests _ _ hbelow field _ (List.mem_singleton_self _)
  obtain ⟨-, hcompare⟩ := hvalues d _ hrow _ hvalue
  obtain ⟨qs, hqs, hids⟩ :=
    hparts path field hfield rfl (by decide) j (by simp [j]) ⟨.lt, by simp, _, hbelow⟩
  obtain ⟨hdisjoint, hall⟩ := hids d
  refine ⟨d, hd, hvalue, hcompare (by simp) _ (List.mem_singleton_self _), qs, hqs, hdisjoint,
    fun id => ?_⟩
  rw [← hall, htables]
  rfl

end Readership
