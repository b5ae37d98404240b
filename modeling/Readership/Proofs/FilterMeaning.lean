import Readership.Filter.Basic
import Readership.Proofs.ConditionMeaning
import Readership.Proofs.FilterGrammar
import Readership.Proofs.Join
import Readership.Proofs.Selection

/-!
# Readership.Proofs.FilterMeaning

Which views a filter tree leaves, told from the tree and the tables alone.

`FilterNode.sat` goes down the JSON tree itself.  It knows neither predicates
nor row filters, and reads the values of a path by the nested scan of the
tables:

1. null and the object without keys hold of every row, as whole trees only;
2. a node with `field` and `op` is a condition, whatever other keys it has;
3. `and` asks for all of its parts, and `not` for the contrary of its part;
4. `or` asks for one of its parts, unless it has none: then it asks nothing.

What is read from a node, typed and evaluated through the indexes comes to the
same (`holds_eq_sat`), by induction on the tree in reading order.
-/

namespace Readership

namespace FilterNode

/-! ## the meaning of a tree -/

/-- Whether a row meets a condition: the values that a scan of the tables
finds at the end of the path do. -/
def meetsAt (t : Tables) (row : RowRef) (path name : String) (operand : Json) : Bool :=
  match Entity.view.resolve path with
  | .ok field => meets (t.scanValues row field) field.type name operand
  | .error _ => false

mutual

/-- Whether a node holds of a row. -/
def sat (t : Tables) (row : RowRef) : Json → Bool
  | .object members =>
    match members.lookup "field", members.lookup "op", members.lookup "value" with
    | some (.string path), some (.string name), some operand => meetsAt t row path name operand
    | some _, some _, _ => false
    | _, _, _ => satMember t row members
  | _ => false

/-- Whether the operation among some members holds of a row. -/
def satMember (t : Tables) (row : RowRef) : List (String × Json) → Bool
  | [] => false
  | (key, operand) :: rest =>
    match key, operand with
    | "and", .array items => satAll t row items
    | "or", .array items => items.isEmpty || satAny t row items
    | "not", part => !sat t row part
    | _, _ => satMember t row rest

/-- Whether all nodes hold of a row. -/
def satAll (t : Tables) (row : RowRef) : List Json → Bool
  | [] => true
  | j :: js => sat t row j && satAll t row js

/-- Whether some node holds of a row. -/
def satAny (t : Tables) (row : RowRef) : List Json → Bool
  | [] => false
  | j :: js => sat t row j || satAny t row js

end

/-- Whether a whole tree holds of a row. -/
def satTree (t : Tables) (row : RowRef) : Json → Bool
  | .null => true
  | .object [] => true
  | j => sat t row j

/-! ## the meaning of a node by its shape -/

section
variable {t : Tables} {row : RowRef}

theorem satAll_eq (js : List Json) : satAll t row js = js.all (sat t row) := by
  induction js with
  | nil => rw [satAll, List.all_nil]
  | cons j js ih => rw [satAll, ih, List.all_cons]

theorem satAny_eq (js : List Json) : satAny t row js = js.any (sat t row) := by
  induction js with
  | nil => rw [satAny, List.any_nil]
  | cons j js ih => rw [satAny, ih, List.any_cons]

/-- What an operation with an operand of the right kind says of a row. -/
def satOperation (t : Tables) (row : RowRef) : Connective → Json → Bool
  | .and, .array items => items.all (sat t row)
  | .or, .array items => items.isEmpty || items.any (sat t row)
  | .not, part => !sat t row part
  | _, _ => false

theorem sat_eq_meetsAt {j operand : Json} {path name : String}
    (h : shape j = .condition (.string path) (.string name) (some operand)) :
    sat t row j = meetsAt t row path name operand := by
  cases j with
  | object members =>
      obtain ⟨hfield, hop, hvalue⟩ := shape_eq_condition_iff.1 h
      simp only [sat, hfield, hop, hvalue]
  | _ => contradiction

/-- The only operation that a node has is the first that is found. -/
theorem satMember_eq {members : List (String × Json)} {c : Connective} {operand : Json}
    (only : HasOnly members c.key operand)
    (hoperand : c = .not ∨ ∃ items, operand = .array items) :
    satMember t row members = satOperation t row c operand := by
  obtain ⟨hkey, hothers⟩ := only
  induction members with
  | nil => contradiction
  | cons m rest ih =>
      obtain ⟨key, value⟩ := m
      by_cases hk : key = c.key
      · obtain rfl : value = operand := by simpa [hk] using hkey
        subst hk
        rcases hoperand with rfl | ⟨items, rfl⟩
        · rfl
        · cases c with
          | and => exact satAll_eq items
          | or => rw [satOperation, ← satAny_eq]; rfl
          | not => rfl
      · have hnext {other : String} (hne : other ≠ key) :
            ((key, value) :: rest).lookup other = rest.lookup other := by
          rw [List.lookup_cons, beq_false_of_ne hne]
        -- the member at hand would be another operation
        have hno : key ∉ ["and", "or", "not"] := by
          intro hmem
          have hnone := hothers key hmem hk
          simp at hnone
        rw [hnext (Ne.symm hk)] at hkey
        have hrest : satMember t row rest = satOperation t row c operand := by
          apply ih hkey
          intro other hmem hne
          rw [← hnext fun he => hno (he ▸ hmem)]
          exact hothers other hmem hne
        simp only [List.mem_cons, List.not_mem_nil, or_false, not_or] at hno
        obtain ⟨hand, hor, hnot⟩ := hno
        rw [satMember, hrest]
        · exact hnot
        · exact fun _ he _ => hand he
        · exact fun _ he _ => hor he

theorem sat_eq_satOperation {j operand : Json} {c : Connective}
    (h : shape j = .operation c operand)
    (hoperand : c = .not ∨ ∃ items, operand = .array items) :
    sat t row j = satOperation t row c operand := by
  cases j with
  | object members =>
      obtain ⟨hno, only⟩ := shape_eq_operation_iff.1 h
      rw [← satMember_eq only hoperand, sat]
      rcases hno with hnone | hnone
      · simp [hnone]
      · simp [hnone]
  | _ => contradiction

end

end FilterNode

/-! ## reading and typing a node -/

namespace Predicate

open FilterNode

theorem ofNodes_eq_ok_iff {js : List Json} {ps : List Predicate} :
    ofNodes js = .ok ps ↔ js.map ofNode = ps.map .ok :=
  list_eq_ok_iff ofNode ofNodes rfl ofNodes_cons

theorem toRowFilters_eq_ok_iff {ps : List Predicate} {fs : List RowFilter} :
    toRowFilters ps = .ok fs ↔ ps.map toRowFilter = fs.map .ok :=
  list_eq_ok_iff toRowFilter toRowFilters rfl fun p ps => by
    rw [toRowFilters]
    cases toRowFilter p <;> rfl

/-- All of some predicates hold where each of them does, and all of none
everywhere. -/
theorem holds_allOf {ps : List Predicate} {f : RowFilter} (h : (allOf ps).toRowFilter = .ok f) :
    ∃ fs, toRowFilters ps = .ok fs ∧ ∀ d row, f.holds d row = fs.all (·.holds d row) := by
  cases ps with
  | nil =>
      obtain rfl : RowFilter.always = f := Except.ok.inj h
      exact ⟨[], rfl, fun d row => rfl⟩
  | cons p ps =>
      obtain ⟨fs, hfs, rfl⟩ := map_eq_ok_iff.1 h
      exact ⟨fs, hfs, fun d row => RowFilter.holdsAll_eq d row fs⟩

/-- Any of some predicates holds where one of them does, and any of none
everywhere: a row filter would hold of no row there. -/
theorem holds_anyOf {ps : List Predicate} {f : RowFilter} (h : (anyOf ps).toRowFilter = .ok f) :
    ∃ fs, toRowFilters ps = .ok fs ∧
      ∀ d row, f.holds d row = (fs.isEmpty || fs.any (·.holds d row)) := by
  cases ps with
  | nil =>
      obtain rfl : RowFilter.always = f := Except.ok.inj h
      exact ⟨[], rfl, fun d row => rfl⟩
  | cons p ps =>
      obtain ⟨fs, hfs, rfl⟩ := map_eq_ok_iff.1 h
      refine ⟨fs, hfs, fun d row => ?_⟩
      have hne : fs.isEmpty = false := by
        cases fs with
        | nil =>
            rw [toRowFilters_eq_ok_iff] at hfs
            contradiction
        | cons f fs => rfl
      rw [hne, Bool.false_or]
      exact RowFilter.holdsAny_eq d row fs

variable {d : Dataset} {row : RowRef}

/-- The filters of some nodes hold where the nodes do, if that is so for
each. -/
theorem map_holds_eq_map_sat {js : List Json} {ps : List Predicate} {fs : List RowFilter}
    (ih : ∀ j ∈ js, ∀ {p f}, ofNode j = .ok p → p.toRowFilter = .ok f →
      f.holds d row = sat d.tables row j)
    (hps : ofNodes js = .ok ps) (hfs : toRowFilters ps = .ok fs) :
    fs.map (·.holds d row) = js.map (sat d.tables row) := by
  rw [ofNodes_eq_ok_iff] at hps
  rw [toRowFilters_eq_ok_iff] at hfs
  induction js generalizing ps fs with
  | nil =>
      obtain rfl : ps = [] := by simpa using hps.symm
      obtain rfl : fs = [] := by simpa using hfs.symm
      rfl
  | cons j js ihjs =>
      obtain ⟨p, ps, rfl⟩ := List.exists_cons_of_ne_nil (l := ps) (by rintro rfl; contradiction)
      obtain ⟨f, fs, rfl⟩ := List.exists_cons_of_ne_nil (l := fs) (by rintro rfl; contradiction)
      simp only [List.map_cons, List.cons.injEq, List.forall_mem_cons] at hps hfs ih ⊢
      exact ⟨ih.1 hps.1 hfs.1, ihjs ih.2 hps.2 hfs.2⟩

theorem all_any_holds_eq {js : List Json} {ps : List Predicate} {fs : List RowFilter}
    (ih : ∀ j ∈ js, ∀ {p f}, ofNode j = .ok p → p.toRowFilter = .ok f →
      f.holds d row = sat d.tables row j)
    (hps : ofNodes js = .ok ps) (hfs : toRowFilters ps = .ok fs) :
    fs.all (·.holds d row) = js.all (sat d.tables row) ∧
      (fs.isEmpty || fs.any (·.holds d row)) =
        (js.isEmpty || js.any (sat d.tables row)) := by
  have hmap := map_holds_eq_map_sat ih hps hfs
  have hempty : fs.isEmpty = js.isEmpty := by simpa using congrArg List.isEmpty hmap
  have hany : fs.any (·.holds d row) = js.any (sat d.tables row) := by
    simpa using congrArg (List.any · id) hmap
  constructor
  · simpa using congrArg (List.all · id) hmap
  · rw [hempty, hany]

/-- A condition holds of the rows that meet it. -/
theorem holds_condition {c : Condition} {f : RowFilter} (h : c.toRowFilter = .ok f) :
    f.holds d row = meetsAt d.tables row c.path c.op.name c.operand := by
  rw [Condition.toRowFilter] at h
  split at h <;> try contradiction
  next field hfield =>
  obtain ⟨l, hl, rfl⟩ := map_eq_ok_iff.1 h
  rw [meetsAt, hfield, RowFilter.holds, Dataset.values_eq_scanValues]
  exact testAny_eq_meets hl _

/-- An operation holds of the rows that its node does, if that is so for the
parts of the node. -/
theorem holds_operation {j operand : Json} {c : Connective} {p : Predicate} {f : RowFilter}
    (hshape : shape j = .operation c operand)
    (ih : ∀ part ∈ parts j, ∀ {p f}, ofNode part = .ok p → p.toRowFilter = .ok f →
      f.holds d row = sat d.tables row part)
    (hp : ofOperand c operand = .ok p) (hf : p.toRowFilter = .ok f) :
    f.holds d row = sat d.tables row j := by
  rw [parts, hshape] at ih
  cases c with
  | and =>
      cases operand <;> try contradiction
      next items =>
      obtain ⟨ps, hps, rfl⟩ := map_eq_ok_iff.1 hp
      obtain ⟨fs, hfs, hholds⟩ := holds_allOf hf
      obtain ⟨hall, -⟩ := all_any_holds_eq ih hps hfs
      rw [sat_eq_satOperation hshape (.inr ⟨items, rfl⟩), satOperation, hholds, hall]
  | or =>
      cases operand <;> try contradiction
      next items =>
      obtain ⟨ps, hps, rfl⟩ := map_eq_ok_iff.1 hp
      obtain ⟨fs, hfs, hholds⟩ := holds_anyOf hf
      obtain ⟨-, hany⟩ := all_any_holds_eq ih hps hfs
      rw [sat_eq_satOperation hshape (.inr ⟨items, rfl⟩), satOperation, hholds, hany]
  | not =>
      cases operand <;> try contradiction
      next members =>
      obtain ⟨q, hq, rfl⟩ := map_eq_ok_iff.1 hp
      obtain ⟨g, hg, rfl⟩ := map_eq_ok_iff.1 hf
      have hpart : g.holds d row = sat d.tables row (.object members) :=
        ih _ List.mem_cons_self hq hg
      rw [sat_eq_satOperation hshape (.inl rfl), satOperation, RowFilter.holds, hpart]

/-- The filter of a node holds of the rows that the node does. -/
theorem holds_eq_sat {j : Json} {p : Predicate} {f : RowFilter} (hp : ofNode j = .ok p)
    (hf : p.toRowFilter = .ok f) : f.holds d row = sat d.tables row j := by
  induction j using preorder.induct generalizing p f with
  | case1 j ih =>
      rw [ofNode_eq] at hp
      cases hshape : shape j with
      | condition field op value =>
          rw [hshape] at hp
          obtain ⟨c, hc, rfl⟩ := map_eq_ok_iff.1 hp
          obtain ⟨rfl, -, rfl, rfl⟩ := Condition.ofEntries_eq_ok_iff.1 hc
          rw [sat_eq_meetsAt hshape]
          exact holds_condition hf
      | operation c operand =>
          rw [hshape] at hp
          exact holds_operation hshape ih hp hf
      | unclear found =>
          rw [hshape] at hp
          cases found <;> contradiction
      | other =>
          rw [hshape] at hp
          contradiction

end Predicate

/-! ## whole trees -/

namespace RowFilter

/-- A tree is a filter when it can be read and typed. -/
theorem ofTree_eq_ok_iff {tree : Json} {f : RowFilter} :
    ofTree tree = .ok f ↔ ∃ p, Predicate.ofTree tree = .ok p ∧ p.toRowFilter = .ok f := by
  rw [ofTree]
  cases Predicate.ofTree tree with
  | error e => simp
  | ok p => cases hp : p.toRowFilter <;> simp [hp]

/-- The filter of a tree holds of the rows that the tree does. -/
theorem holds_ofTree {d : Dataset} {row : RowRef} {tree : Json} {f : RowFilter}
    (h : ofTree tree = .ok f) : f.holds d row = FilterNode.satTree d.tables row tree := by
  obtain ⟨p, hp, hf⟩ := ofTree_eq_ok_iff.1 h
  have halways (hp : Predicate.always = p) : f.holds d row = true := by
    subst hp
    obtain rfl : RowFilter.always = f := Except.ok.inj hf
    rw [holds]
  unfold FilterNode.satTree
  split
  · exact halways (Except.ok.inj hp)
  · exact halways (Except.ok.inj hp)
  · next hnull hempty =>
    rw [Predicate.ofTree_eq_ofNode hnull hempty] at hp
    exact Predicate.holds_eq_sat hp hf

end RowFilter

namespace ViewQuery

/-- Narrowing leaves the views of a selection that the tree holds of. -/
theorem selects_narrow {q q' : ViewQuery} {tree : Json} (h : q.narrow (some tree) = .ok q')
    (d : Dataset) (i : Nat) :
    q'.selects d i = (q.selects d i && FilterNode.satTree d.tables ⟨.view, i⟩ tree) := by
  obtain ⟨f, hf, rfl⟩ := map_eq_ok_iff.1 h
  rw [selects_filter, RowFilter.holds_ofTree hf]

/-- **The meaning of a filter**: all views, narrowed by a tree, are the views
that the tree holds of, in the order of their table and each once. -/
theorem ids_narrow {t : Tables} {d : Dataset} (hd : Dataset.ofTables t = .ok d) {tree : Json}
    {q : ViewQuery} (hq : everything.narrow (some tree) = .ok q) :
    q.ids d = (t.views.toList.zipIdx.filter fun (_, i) =>
        FilterNode.satTree t ⟨.view, i⟩ tree).map (·.1.id) ∧
      (q.ids d).Nodup := by
  obtain ⟨f, hf, rfl⟩ := map_eq_ok_iff.1 hq
  have hids : (everything.filter f).ids d =
      (((everything.filter f).kept d).map (·.1)).map (·.id) := by
    rw [ids, rows_eq_filter]
  constructor
  · rw [hids, kept, List.map_map, Dataset.tables_of_ofTables hd]
    congr 2
    funext v
    dsimp only
    rw [selects_filter, RowFilter.holds_ofTree hf, Dataset.tables_of_ofTables hd]
    rfl
  · rw [hids]
    exact (everything.filter f).nodup_ids_kept d

/-- An empty `or` asks nothing, a path leads over an author to a country, and
the second view has no viewer. -/
theorem ids_narrow_sample :
    let tree := Json.object [("and", .array [
      .object [("or", .array [])],
      .object [("field", .string "blog.author.country.code"), ("op", .string "in"),
        ("value", .array [.string "AR", .string "CL"])],
      .object [("not", .object [("field", .string "viewer"), ("op", .string "eq"),
        ("value", .null)])]])]
    ∃ d q, Dataset.ofTables .sample = .ok d ∧ everything.narrow (some tree) = .ok q ∧
      q.ids d = [1] ∧ (q.ids d).Nodup := by
  intro tree
  obtain ⟨d, hd⟩ := Dataset.exists_ofTables Tables.sound_sample
  have hsome : (everything.narrow (some tree)).toOption.isSome := by decide +kernel
  obtain ⟨q, hq⟩ := Option.isSome_iff_exists.1 hsome
  rw [toOption_eq_some_iff] at hq
  obtain ⟨hids, hnodup⟩ := ids_narrow hd hq
  have hone : q.ids d = [1] := by
    rw [hids]
    decide +kernel
  exact ⟨d, q, hd, hq, hone, hnodup⟩

end ViewQuery

end Readership
