import Mathlib.Data.List.Infix
import Mathlib.Data.String.Basic
import Readership.Filter.Typing
import Readership.Proofs.Reading

/-!
# Readership.Proofs.ConditionMeaning

What a condition asks of the values at the end of a path.

`FilterNode.meets` says it operator by operator, from the name of the operator
and the operand as they are written:

* `eq` with null asks for no values at all or for a null among them;
* `eq` and `in` ask for a value that is an operand, read as the field's type;
* `contains` asks for a text that has the needle in it, both in lower case;
* `gt`, `gte`, `lt` and `lte` ask for a value that stands so to the operand.

A condition is typed as a test of single values; the values pass that test
exactly if they meet the condition (`testAny_eq_meets`).  Null passes no test
that compares, because no operand stands for null (`operand?_ne_null`).
-/

namespace Readership

open Text

/-! ## the order of values -/

namespace Value

/-- Whether a value stands below another one of its type. -/
def below : Value → Value → Bool
  | boolean a, boolean b => a < b
  | integer a, integer b => a < b
  | text a, text b => a < b
  | timestamp a, timestamp b => a < b
  | _, _ => false

theorem compare?_eq_lt_iff {a b : Value} : a.compare? b = some .lt ↔ a.below b = true := by
  cases a <;> cases b <;> simp only [compare?, below, Option.some.injEq, decide_eq_true_eq,
    reduceCtorEq, Bool.false_eq_true]
  case boolean.boolean a b => cases a <;> cases b <;> decide
  case integer.integer a b => exact Std.compare_eq_lt
  case text.text a b => exact compareOfLessAndEq_eq_lt
  case timestamp.timestamp a b => exact Std.compare_eq_lt (a := a.rank) (b := b.rank)

/-- One value is above another where the other is below it. -/
theorem compare?_eq_gt_iff {a b : Value} : a.compare? b = some .gt ↔ b.below a = true := by
  rw [← compare?_eq_lt_iff]
  cases a <;> cases b <;> simp [compare?]
  case boolean.boolean a b => exact Std.OrientedCmp.gt_iff_lt
  case integer.integer a b => exact Std.OrientedCmp.gt_iff_lt
  case text.text a b => exact Std.OrientedCmp.gt_iff_lt
  case timestamp.timestamp a b =>
    have hrank : compare a.rank b.rank = .gt ↔ compare b.rank a.rank = .lt :=
      Std.OrientedCmp.gt_iff_lt
    exact hrank

theorem compare?_eq_eq_iff {a b : Value} : a.compare? b = some .eq ↔ a = b ∧ b ≠ null := by
  cases a <;> cases b <;> simp [compare?]
  case timestamp.timestamp a b =>
    rw [← Calendar.Instant.rank_inj]
    exact Std.compare_eq_iff_eq (a := a.rank) (b := b.rank)

end Value

/-- Comparing asks for some of three ways to stand: below, equal and above. -/
theorem Lookup.ordered_eq {p : Ordering → Bool} {v w : Value} (hw : w ≠ .null) :
    ordered p v w = (p .lt && v.below w || p .eq && v == w || p .gt && w.below v) := by
  have heq : (v == w) = true ↔ v.compare? w = some .eq := by
    rw [beq_iff_eq, Value.compare?_eq_eq_iff, and_iff_left hw]
  have hlt : v.below w = true ↔ v.compare? w = some .lt := Value.compare?_eq_lt_iff.symm
  have hgt : w.below v = true ↔ v.compare? w = some .gt := Value.compare?_eq_gt_iff.symm
  rw [ordered, Bool.eq_iff_iff]
  simp only [Bool.or_eq_true, Bool.and_eq_true, heq, hlt, hgt]
  cases v.compare? w with
  | none => simp
  | some o => cases o <;> simp

/-! ## operands -/

/-- No operand stands for null. -/
theorem FieldType.operand?_ne_null {type : FieldType} {j : Json} {w : Value}
    (h : type.operand? j = some w) : w ≠ .null := by
  unfold FieldType.operand? at h
  split at h <;> simp [Option.map_eq_some_iff] at h
  · obtain ⟨-, rfl⟩ := h; simp
  · obtain ⟨a, -, rfl⟩ := h; simp
  · subst h; simp
  · subst h; simp
  · obtain ⟨a, -, rfl⟩ := h; simp

namespace FieldPath

theorem toOption_operand (f : FieldPath) (op : Operator) (j : Json) :
    (f.operand op j).toOption = f.type.operand? j := by
  unfold operand
  split
  · cases f.type <;> rfl
  · split
    · next h => exact h.symm
    · next h => exact h.symm

theorem operands_eq_ok_iff {f : FieldPath} {op : Operator} {js : List Json} {ws : List Value} :
    f.operands op js = .ok ws ↔ js.map (f.operand op) = ws.map .ok :=
  list_eq_ok_iff (f.operand op) (f.operands op) rfl fun j js => by
    rw [operands]
    cases f.operand op j <;> rfl

/-- Equality asks first whether the operand is null. -/
theorem lookup_eq_of_ne_null (f : FieldPath) {j : Json} (hj : j ≠ .null) :
    f.lookup .eq j = (f.operand .eq j).map .exact := by
  cases j <;> first | contradiction | rfl

/-- An ordered comparison is made of an operand. -/
theorem operand_of_comparing {f : FieldPath} {op : Operator} {test : Value → Lookup} {j : Json}
    {l : Lookup} (h : f.comparing op test j = .ok l) : (f.operand op j).map test = .ok l := by
  unfold comparing at h
  split at h
  · exact h
  · contradiction

end FieldPath

/-! ## conditions -/

namespace FilterNode

/-- Whether the values of a path meet a condition: an operator by its name and
an operand, read as the type of the path. -/
def meets (values : List Value) (type : FieldType) (name : String) (operand : Json) : Bool :=
  match name, operand with
  | "eq", .null => values.isEmpty || values.contains .null
  | "eq", j => (type.operand? j).any fun w => values.contains w
  | "in", .array items => items.any fun j => (type.operand? j).any fun w => values.contains w
  | "contains", .string needle =>
    values.any fun v => v.text?.any fun s =>
      decide ((lowercase needle).toList <:+: (lowercase s).toList)
  | "gt", j => (type.operand? j).any fun w => values.any fun v => w.below v
  | "gte", j => (type.operand? j).any fun w => values.any fun v => v == w || w.below v
  | "lt", j => (type.operand? j).any fun w => values.any fun v => v.below w
  | "lte", j => (type.operand? j).any fun w => values.any fun v => v == w || v.below w
  | _, _ => false

/-- A comparison with one operand holds of values when one of them stands to
it as asked for. -/
theorem testAny_operand {f : FieldPath} {op : Operator} {test : Value → Lookup}
    {p : Ordering → Bool} {j : Json} {l : Lookup}
    (htest : ∀ w values, (test w).testAny values = values.any fun v => Lookup.ordered p v w)
    (h : (f.operand op j).map test = .ok l) (values : List Value) :
    l.testAny values = (f.type.operand? j).any fun w =>
      values.any fun v => p .lt && v.below w || p .eq && v == w || p .gt && w.below v := by
  obtain ⟨w, hj, rfl⟩ := map_eq_ok_iff.1 h
  have hoperand : f.type.operand? j = some w := by
    rw [← f.toOption_operand op, hj]
    rfl
  have hw := FieldType.operand?_ne_null hoperand
  simp only [htest, hoperand, Option.any_some, Lookup.ordered_eq hw]

/-- A comparison with a list holds of values when one of them is an item. -/
theorem testAny_oneOf {f : FieldPath} {items : List Json} {ws : List Value}
    (h : f.operands .oneOf items = .ok ws) (values : List Value) :
    (Lookup.oneOf ws).testAny values =
      items.any fun j => (f.type.operand? j).any fun w => values.contains w := by
  have hitems : items.map f.type.operand? = ws.map some := by
    have hread := congrArg (List.map Except.toOption) (FieldPath.operands_eq_ok_iff.1 h)
    have hone : Except.toOption ∘ f.operand .oneOf = f.type.operand? :=
      funext (f.toOption_operand .oneOf)
    rwa [List.map_map, List.map_map, hone] at hread
  have hnull : ∀ w ∈ ws, w ≠ .null := by
    intro w hw
    have hmem : some w ∈ items.map f.type.operand? := by
      rw [hitems]
      exact List.mem_map_of_mem hw
    obtain ⟨j, -, hj⟩ := List.mem_map.1 hmem
    exact FieldType.operand?_ne_null hj
  calc (Lookup.oneOf ws).testAny values
      = values.any fun v => ws.any fun w => Lookup.ordered Ordering.isEq v w := rfl
    _ = ws.any fun w => values.contains w := by
        rw [Bool.eq_iff_iff]
        simp only [List.any_eq_true, List.contains_iff_mem]
        constructor
        · rintro ⟨v, hv, w, hw, heq⟩
          rw [Lookup.ordered_eq (hnull w hw)] at heq
          obtain rfl : v = w := by simpa using heq
          exact ⟨v, hw, hv⟩
        · rintro ⟨w, hw, hv⟩
          exact ⟨w, hv, w, hw, by simp [Lookup.ordered_eq (hnull w hw)]⟩
    _ = (items.map f.type.operand?).any fun o => o.any fun w => values.contains w := by
        rw [hitems, List.any_map]
        rfl
    _ = items.any fun j => (f.type.operand? j).any fun w => values.contains w := List.any_map

/-- The search for a needle holds of values when one of them is a text with
the needle in it. -/
theorem testAny_containing (needle : String) (values : List Value) :
    (Lookup.containing needle).testAny values =
      values.any fun v => v.text?.any fun s =>
        decide ((lowercase needle).toList <:+: (lowercase s).toList) := by
  have hoccurs (s : String) : Text.contains (lowercase s) (lowercase needle) =
      decide ((lowercase needle).toList <:+: (lowercase s).toList) := by
    rw [Bool.eq_iff_iff, decide_eq_true_eq]
    exact occursIn_iff
  simp only [Lookup.containing, Lookup.testAny, ← hoccurs]
  rfl

/-- The test that a condition is typed as holds of the values that meet it. -/
theorem testAny_eq_meets {f : FieldPath} {op : Operator} {j : Json} {l : Lookup}
    (h : f.lookup op j = .ok l) (values : List Value) :
    l.testAny values = meets values f.type op.name j := by
  cases op with
  | eq =>
      by_cases hj : j = .null
      · subst hj
        obtain rfl : Lookup.isNull = l := Except.ok.inj h
        have hnull : Value.isNull = (· == Value.null) := by
          funext v
          cases v <;> rfl
        simp only [Lookup.testAny, meets, Operator.name, hnull, List.any_beq']
      · -- both sides ask first whether the operand is null
        have hmeets : meets values f.type Operator.eq.name j =
            (f.type.operand? j).any fun w => values.contains w := by
          cases j <;> first | contradiction | rfl
        rw [f.lookup_eq_of_ne_null hj] at h
        rw [hmeets, testAny_operand (p := Ordering.isEq) (fun _ _ => rfl) h]
        simp only [Ordering.isEq, Bool.false_and, Bool.true_and, Bool.false_or, Bool.or_false,
          List.any_beq']
  | oneOf =>
      cases j <;> try contradiction
      next items =>
      obtain ⟨ws, hws, rfl⟩ := map_eq_ok_iff.1 h
      exact testAny_oneOf hws values
  | contains =>
      rw [FieldPath.lookup] at h
      unfold FieldPath.containing at h
      split at h
      · contradiction
      · split at h <;> try contradiction
        next needle =>
        obtain rfl : Lookup.containing needle = l := Except.ok.inj h
        exact testAny_containing needle values
  | gt =>
      rw [testAny_operand (p := Ordering.isGT) (fun _ _ => rfl) (FieldPath.operand_of_comparing h)]
      simp [meets, Operator.name]
  | gte =>
      rw [testAny_operand (p := Ordering.isGE) (fun _ _ => rfl) (FieldPath.operand_of_comparing h)]
      simp [meets, Operator.name]
  | lt =>
      rw [testAny_operand (p := Ordering.isLT) (fun _ _ => rfl) (FieldPath.operand_of_comparing h)]
      simp [meets, Operator.name]
  | lte =>
      rw [testAny_operand (p := Ordering.isLE) (fun _ _ => rfl) (FieldPath.operand_of_comparing h)]
      simp [meets, Operator.name, Bool.or_comm]

end FilterNode

end Readership
