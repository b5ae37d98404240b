import Mathlib.Data.List.Forall2
import Readership.Proofs.FilterTyping
import Readership.Proofs.IntegerText

/-!
# Readership.Proofs.WellTyped

Which predicates are typed, and which fault is told of any other.

Types are given by rules that know nothing of how operands are read:

* `FieldType.Denotes` -- the JSON values that stand for a value of a type;
* `FieldType.Accepts` -- the operators and operands that a field of a type
  takes, each with the test that it makes;
* `Predicate.StandsFor` -- a predicate and its filter have the same shape, and
  stand for each other leaf by leaf.

What is wrong with a condition is listed in a fixed order, first its path, then
what its operator asks for (`Condition.faults`).  A predicate is refused with the
first fault of the first of its conditions that has one
(`faultOf?_toRowFilter`); of a list that is the fault of its first bad item.
-/

namespace Readership

open Calendar Text

/-! ## the rules -/

/-- What a JSON value stands for, where a value of a type is asked for.  There
is no rule for null. -/
inductive FieldType.Denotes : FieldType → Json → Value → Prop
  | number {n : Int} (fits : -2 ^ 63 ≤ n ∧ n < 2 ^ 63) :
      Denotes .integer (.number (.integer n)) (.integer n)
  | numeral {s : String} {n : Int} (h : IsInteger s n) : Denotes .integer (.string s) (.integer n)
  | text {s : String} : Denotes .text (.string s) (.text s)
  | boolean {b : Bool} : Denotes .boolean (.bool b) (.boolean b)
  | timestamp {s : String} {t : Instant} (h : Instant.ofOperand? s = some t) :
      Denotes .timestamp (.string s) (.timestamp t)

theorem FieldType.Denotes.ne_null {type : FieldType} {j : Json} {w : Value}
    (h : type.Denotes j w) : j ≠ .null := by
  cases h <;> simp

/-- The test that an operator and an operand make on a field of a type. -/
inductive FieldType.Accepts : FieldType → Operator → Json → Lookup → Prop
  | null {type : FieldType} : Accepts type .eq .null .isNull
  | eq {type : FieldType} {j : Json} {w : Value} (operand : type.Denotes j w) :
      Accepts type .eq j (.exact w)
  | oneOf {type : FieldType} {js : List Json} {ws : List Value}
      (operands : List.Forall₂ type.Denotes js ws) : Accepts type .oneOf (.array js) (.oneOf ws)
  | contains {needle : String} : Accepts .text .contains (.string needle) (.containing needle)
  | gt {type : FieldType} {j : Json} {w : Value} (ordered : type ≠ .boolean)
      (operand : type.Denotes j w) : Accepts type .gt j (.greater w)
  | gte {type : FieldType} {j : Json} {w : Value} (ordered : type ≠ .boolean)
      (operand : type.Denotes j w) : Accepts type .gte j (.greaterOrEqual w)
  | lt {type : FieldType} {j : Json} {w : Value} (ordered : type ≠ .boolean)
      (operand : type.Denotes j w) : Accepts type .lt j (.less w)
  | lte {type : FieldType} {j : Json} {w : Value} (ordered : type ≠ .boolean)
      (operand : type.Denotes j w) : Accepts type .lte j (.lessOrEqual w)

/-- A condition on a field of the views that takes its operator and operand. -/
def Condition.WellTyped (c : Condition) : Prop :=
  ∃ field, Entity.view.resolve c.path = .ok field ∧ ∃ l, field.type.Accepts c.op c.operand l

/-- The filter that a predicate stands for: the same shape with a test in the
place of each condition. -/
inductive Predicate.StandsFor : Predicate → RowFilter → Prop
  | always : StandsFor .always .always
  | condition {c : Condition} {field : FieldPath} {l : Lookup}
      (path : Entity.view.resolve c.path = .ok field)
      (accepts : field.type.Accepts c.op c.operand l) : StandsFor (.condition c) (.test field l)
  | all {ps : List Predicate} {fs : List RowFilter} (parts : List.Forall₂ StandsFor ps fs) :
      StandsFor (.all ps) (.all fs)
  | any {ps : List Predicate} {fs : List RowFilter} (parts : List.Forall₂ StandsFor ps fs) :
      StandsFor (.any ps) (.any fs)
  | not {p : Predicate} {f : RowFilter} (part : StandsFor p f) : StandsFor (.not p) (.not f)

/-! ## typing by the rules -/

theorem FieldType.operand?_eq_some_iff {type : FieldType} {j : Json} {w : Value} :
    type.operand? j = some w ↔ type.Denotes j w := by
  constructor
  · intro h
    unfold operand? at h
    split at h <;> simp [Option.map_eq_some_iff] at h
    · obtain ⟨hfits, rfl⟩ := h
      exact .number (fitsWord_iff.1 hfits)
    · obtain ⟨n, hn, rfl⟩ := h
      exact .numeral (readInteger?_trim_eq_some_iff.1 hn)
    · subst h
      exact .text
    · subst h
      exact .boolean
    · obtain ⟨t, ht, rfl⟩ := h
      exact .timestamp ht
  · intro h
    cases h with
    | number fits => simp [operand?, fitsWord_iff.2 fits]
    | numeral h => simp [operand?, readInteger?_trim_eq_some_iff.2 h]
    | text => rfl
    | boolean => rfl
    | timestamp h => simp [operand?, h]

theorem FieldType.exists_denotes_iff {type : FieldType} {j : Json} :
    (∃ w, type.Denotes j w) ↔ (type.operand? j).isSome = true := by
  simp only [Option.isSome_iff_exists, operand?_eq_some_iff]

instance (type : FieldType) (j : Json) : Decidable (∃ w, type.Denotes j w) :=
  decidable_of_iff _ FieldType.exists_denotes_iff.symm

namespace FieldPath

variable {f : FieldPath} {op : Operator} {j : Json}

theorem operand_eq_ok_iff_denotes {w : Value} : f.operand op j = .ok w ↔ f.type.Denotes j w := by
  rw [operand_eq_ok_iff, FieldType.operand?_eq_some_iff]

theorem operands_eq_ok_iff_denotes {js : List Json} {ws : List Value} :
    f.operands op js = .ok ws ↔ List.Forall₂ f.type.Denotes js ws := by
  rw [operands_eq_ok_iff, ← List.forall₂_eq_eq_eq, List.forall₂_map_left_iff,
    List.forall₂_map_right_iff]
  simp only [operand_eq_ok_iff_denotes]

theorem comparing_eq_ok_iff {test : Value → Lookup} {l : Lookup} :
    f.comparing op test j = .ok l ↔
      f.type ≠ .boolean ∧ ∃ w, f.type.Denotes j w ∧ test w = l := by
  have hordered : f.type.isOrdered = true ↔ f.type ≠ .boolean := by
    simp [FieldType.isOrdered]
  unfold comparing
  split
  · next h =>
    rw [map_eq_ok_iff, and_iff_right (hordered.1 h)]
    simp only [operand_eq_ok_iff_denotes]
  · next h => simp [mt hordered.2 h]

theorem containing_eq_ok_iff {l : Lookup} :
    f.containing j = .ok l ↔
      f.type = .text ∧ ∃ needle, j = .string needle ∧ .containing needle = l := by
  unfold containing
  cases htype : f.type <;> cases j <;> simp

/-- A field takes what the rules for its type accept. -/
theorem lookup_eq_ok_iff {l : Lookup} : f.lookup op j = .ok l ↔ f.type.Accepts op j l := by
  constructor
  · intro h
    cases op with
    | eq =>
        by_cases hj : j = .null
        · subst hj
          obtain rfl : Lookup.isNull = l := Except.ok.inj h
          exact .null
        · rw [f.lookup_eq_of_ne_null hj] at h
          obtain ⟨w, hw, rfl⟩ := map_eq_ok_iff.1 h
          exact .eq (operand_eq_ok_iff_denotes.1 hw)
    | oneOf =>
        cases j <;> try contradiction
        next items =>
        obtain ⟨ws, hws, rfl⟩ := map_eq_ok_iff.1 h
        exact .oneOf (operands_eq_ok_iff_denotes.1 hws)
    | contains =>
        obtain ⟨htype, needle, rfl, rfl⟩ := containing_eq_ok_iff.1 h
        rw [htype]
        exact .contains
    | gt =>
        obtain ⟨htype, w, hw, rfl⟩ := comparing_eq_ok_iff.1 h
        exact .gt htype hw
    | gte =>
        obtain ⟨htype, w, hw, rfl⟩ := comparing_eq_ok_iff.1 h
        exact .gte htype hw
    | lt =>
        obtain ⟨htype, w, hw, rfl⟩ := comparing_eq_ok_iff.1 h
        exact .lt htype hw
    | lte =>
        obtain ⟨htype, w, hw, rfl⟩ := comparing_eq_ok_iff.1 h
        exact .lte htype hw
  · intro h
    generalize htype : f.type = type at h
    cases h with
    | null => rfl
    | eq operand =>
        subst htype
        rw [f.lookup_eq_of_ne_null operand.ne_null, operand_eq_ok_iff_denotes.2 operand]
        rfl
    | oneOf operands =>
        subst htype
        rw [lookup, operands_eq_ok_iff_denotes.2 operands]
        rfl
    | contains => exact containing_eq_ok_iff.2 ⟨htype, _, rfl, rfl⟩
    | gt ordered operand => subst htype; exact comparing_eq_ok_iff.2 ⟨ordered, _, operand, rfl⟩
    | gte ordered operand => subst htype; exact comparing_eq_ok_iff.2 ⟨ordered, _, operand, rfl⟩
    | lt ordered operand => subst htype; exact comparing_eq_ok_iff.2 ⟨ordered, _, operand, rfl⟩
    | lte ordered operand => subst htype; exact comparing_eq_ok_iff.2 ⟨ordered, _, operand, rfl⟩

end FieldPath

theorem Condition.exists_toRowFilter_iff {c : Condition} :
    (∃ f, c.toRowFilter = .ok f) ↔ c.WellTyped := by
  simp only [toRowFilter_eq_ok_iff, FieldPath.lookup_eq_ok_iff, WellTyped]
  constructor
  · intro h
    obtain ⟨f, field, l, hfield, hl, -⟩ := h
    exact ⟨field, hfield, l, hl⟩
  · intro h
    obtain ⟨field, hfield, l, hl⟩ := h
    exact ⟨_, field, l, hfield, hl, rfl⟩

namespace Predicate

mutual

/-- A predicate is typed as the filter that it stands for. -/
theorem toRowFilter_eq_ok_iff {p : Predicate} {f : RowFilter} :
    p.toRowFilter = .ok f ↔ p.StandsFor f := by
  cases p with
  | always =>
      constructor
      · intro h
        obtain rfl : RowFilter.always = f := Except.ok.inj h
        exact .always
      · intro h
        cases h
        rfl
  | condition c =>
      rw [toRowFilter, Condition.toRowFilter_eq_ok_iff]
      simp only [FieldPath.lookup_eq_ok_iff]
      constructor
      · intro h
        obtain ⟨field, l, hfield, hl, rfl⟩ := h
        exact .condition hfield hl
      · intro h
        cases h with
        | condition path accepts => exact ⟨_, _, path, accepts, rfl⟩
  | all parts =>
      rw [toRowFilter, map_eq_ok_iff]
      simp only [toRowFilters_eq_ok_iff_forall₂]
      constructor
      · intro h
        obtain ⟨fs, hfs, rfl⟩ := h
        exact .all hfs
      · intro h
        cases h with
        | all parts => exact ⟨_, parts, rfl⟩
  | any parts =>
      rw [toRowFilter, map_eq_ok_iff]
      simp only [toRowFilters_eq_ok_iff_forall₂]
      constructor
      · intro h
        obtain ⟨fs, hfs, rfl⟩ := h
        exact .any hfs
      · intro h
        cases h with
        | any parts => exact ⟨_, parts, rfl⟩
  | not part =>
      rw [toRowFilter, map_eq_ok_iff]
      simp only [toRowFilter_eq_ok_iff]
      constructor
      · intro h
        obtain ⟨g, hg, rfl⟩ := h
        exact .not hg
      · intro h
        cases h with
        | not part => exact ⟨_, part, rfl⟩

theorem toRowFilters_eq_ok_iff_forall₂ {ps : List Predicate} {fs : List RowFilter} :
    toRowFilters ps = .ok fs ↔ List.Forall₂ StandsFor ps fs := by
  cases ps with
  | nil => cases fs <;> simp [toRowFilters]
  | cons p ps =>
      rw [toRowFilters, List.forall₂_cons_left_iff]
      constructor
      · intro h
        split at h
        · contradiction
        · next f hf =>
          obtain ⟨rest, hrest, rfl⟩ := map_eq_ok_iff.1 h
          exact ⟨f, rest, toRowFilter_eq_ok_iff.1 hf, toRowFilters_eq_ok_iff_forall₂.1 hrest, rfl⟩
      · intro h
        obtain ⟨f, rest, hf, hrest, rfl⟩ := h
        rw [toRowFilter_eq_ok_iff.2 hf, toRowFilters_eq_ok_iff_forall₂.2 hrest]
        rfl

end

end Predicate

/-! ## the faults -/

/-- Whether an operator can be used on fields of a type. -/
def Operator.suits : Operator → FieldType → Bool
  | eq, _ | oneOf, _ => true
  | contains, type => type == .text
  | gt, type | gte, type | lt, type | lte, type => type != .boolean

namespace FieldPath

/-- What is wrong with an operator, whatever its operand. -/
def operatorFaults (f : FieldPath) (op : Operator) : List TypingError :=
  if op.suits f.type then [] else [.unsupportedComparison f.path op f.type]

/-- What is wrong with an operand that has to stand for a value. -/
def operandFaults (f : FieldPath) (op : Operator) : Json → List TypingError
  | .null => [.nullOperand f.path op]
  | j => if ∃ w, f.type.Denotes j w then [] else [.typeMismatch f.path f.type j.compact]

/-- What is wrong with an operator and an operand on a field, in the order in
which it is looked for. -/
def faults (f : FieldPath) (op : Operator) (j : Json) : List TypingError :=
  match op, j with
  | .eq, .null => []
  | .oneOf, .array items => items.flatMap (f.operandFaults .oneOf)
  | .oneOf, _ => [.operandShape f.path .oneOf]
  | op, j => f.operatorFaults op ++ f.operandFaults op j

end FieldPath

/-- What is wrong with a condition on a field of the views. -/
def Condition.faults (c : Condition) : List TypingError :=
  match Entity.view.resolve c.path with
  | .error e => [.field e]
  | .ok field => field.faults c.op c.operand

namespace FieldPath

variable {f : FieldPath} {op : Operator} {j : Json}

theorem operandFaults_of_ne_null (hj : j ≠ .null) :
    f.operandFaults op j =
      if ∃ w, f.type.Denotes j w then [] else [.typeMismatch f.path f.type j.compact] := by
  cases j <;> first | contradiction | rfl

theorem faultOf?_operand : faultOf? (f.operand op j) = (f.operandFaults op j).head? := by
  by_cases hj : j = .null
  · subst hj
    rfl
  · unfold operand
    simp only [operandFaults_of_ne_null hj, FieldType.exists_denotes_iff]
    cases f.type.operand? j <;> simp

theorem faultOf?_operands {js : List Json} :
    faultOf? (f.operands op js) = (js.flatMap (f.operandFaults op)).head? := by
  rw [faultOf?_list (f.operand op) (f.operands op) rfl fun j js => by
    rw [operands]
    cases f.operand op j <;> rfl]
  simp only [faultOf?_operand, List.head?_flatMap]

theorem faultOf?_comparing {test : Value → Lookup} (hop : op.isOrdering = true) :
    faultOf? (f.comparing op test j) = (f.operatorFaults op ++ f.operandFaults op j).head? := by
  have hsuits : op.suits f.type = f.type.isOrdered := by
    cases op <;> first | contradiction | rfl
  rw [comparing, operatorFaults, hsuits]
  cases f.type.isOrdered with
  | false => rfl
  | true => exact (faultOf?_map _ _).trans faultOf?_operand

theorem faultOf?_containing :
    faultOf? (f.containing j) =
      (f.operatorFaults .contains ++ f.operandFaults .contains j).head? := by
  by_cases htype : f.type = .text
  · have hsuits : f.operatorFaults .contains = [] := by simp [operatorFaults, Operator.suits, htype]
    rw [hsuits, List.nil_append, ← faultOf?_operand]
    unfold containing operand
    cases j <;> simp [htype, FieldType.operand?]
  · simp [containing, operatorFaults, Operator.suits, htype]

/-- The first of the faults is told. -/
theorem faultOf?_lookup : faultOf? (f.lookup op j) = (f.faults op j).head? := by
  cases op with
  | eq =>
      by_cases hj : j = .null
      · subst hj
        rfl
      · rw [f.lookup_eq_of_ne_null hj, faultOf?_map, faultOf?_operand]
        cases j <;> first | contradiction | rfl
  | oneOf =>
      cases j with
      | array items => exact (faultOf?_map _ _).trans faultOf?_operands
      | _ => rfl
  | contains => exact faultOf?_containing
  | gt => exact faultOf?_comparing rfl
  | gte => exact faultOf?_comparing rfl
  | lt => exact faultOf?_comparing rfl
  | lte => exact faultOf?_comparing rfl

end FieldPath

namespace Condition

variable {c : Condition}

theorem faultOf?_toRowFilter : faultOf? c.toRowFilter = c.faults.head? := by
  unfold toRowFilter faults
  cases Entity.view.resolve c.path with
  | error e => rfl
  | ok field => exact (faultOf?_map _ _).trans field.faultOf?_lookup

theorem head?_faults_eq_none_iff : c.faults.head? = none ↔ c.WellTyped := by
  rw [← faultOf?_toRowFilter, faultOf?_eq_none_iff, exists_toRowFilter_iff]

end Condition

namespace Predicate

mutual

/-- The fault of a predicate is the first fault of its first condition that has
one. -/
theorem faultOf?_toRowFilter (p : Predicate) :
    faultOf? p.toRowFilter = p.conditions.findSome? fun c => c.faults.head? := by
  cases p with
  | always => rfl
  | condition c =>
      rw [toRowFilter, conditions, List.findSome?_singleton, Condition.faultOf?_toRowFilter]
  | all parts => exact (faultOf?_map _ _).trans (faultOf?_toRowFilters parts)
  | any parts => exact (faultOf?_map _ _).trans (faultOf?_toRowFilters parts)
  | not part => exact (faultOf?_map _ _).trans (faultOf?_toRowFilter part)

theorem faultOf?_toRowFilters (ps : List Predicate) :
    faultOf? (toRowFilters ps) = (conditionsOf ps).findSome? fun c => c.faults.head? := by
  cases ps with
  | nil => rfl
  | cons p ps =>
      have hp := faultOf?_toRowFilter p
      rw [toRowFilters, conditionsOf, List.findSome?_append, ← hp, ← faultOf?_toRowFilters ps]
      cases toRowFilter p with
      | error e => rfl
      | ok f => exact faultOf?_map _ _

end

/-- **Exactly the well-typed predicates are accepted**: a predicate is typed if
and only if every one of its conditions has a path to a field of the views and
an operator and operand that the type of the field takes.  Its filter is then
the one of the same shape, test by condition; and of any other predicate the
first fault of its first ill-typed condition is told. -/
theorem toRowFilter_wellTyped_or_first_fault (p : Predicate) :
    ((∃ f, p.toRowFilter = .ok f) ↔ ∀ c ∈ p.conditions, c.WellTyped) ∧
      (∀ f, p.toRowFilter = .ok f ↔ p.StandsFor f) ∧
      ∀ e, p.toRowFilter = .error e ↔ ∃ before c after, p.conditions = before ++ c :: after ∧
        c.faults.head? = some e ∧ ∀ b ∈ before, b.WellTyped := by
  refine ⟨?_, fun f => toRowFilter_eq_ok_iff, fun e => ?_⟩
  · simp only [← faultOf?_eq_none_iff, faultOf?_toRowFilter, List.findSome?_eq_none_iff,
      Condition.head?_faults_eq_none_iff]
  · simp only [← faultOf?_eq_some_iff, faultOf?_toRowFilter, List.findSome?_eq_some_iff,
      Condition.head?_faults_eq_none_iff]

/-- The second item of the list is bad, and so are the third and the path after
it. -/
example :
    let list := Json.array [.string " +7 ", .null, .bool true]
    faultOf? (any [.not (.condition ⟨"blog.author_id", .oneOf, list⟩),
      .condition ⟨"bogus", .eq, .null⟩]).toRowFilter =
        some (.nullOperand "blog.author_id" .oneOf) := by
  decide +kernel

end Predicate

end Readership
