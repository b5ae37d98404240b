import Readership.Proofs.Leaves
import Readership.Proofs.Rearrangement

/-!
# Readership.Proofs.Appending

Tables to which rows are appended.

The rows that were there keep their positions and all that is read from them
(`Tables.Extends`).  Appended rows can refer to them, so that a relation that is
read backwards may lead to more rows than before, the old ones first
(`follow_prefix_follow`); a foreign key leads to the row that it led to
(`follow_eq`).  Along a path this comes to:

* `values_eq` -- without a reverse relation a path has the same values as before;
* `values_subset` -- along any path the values of before are among those of now.

A condition asks for one value, unless it asks for null (`meets_mono`).  So
appended rows can only bring more views, except by a negation or by hiding a
null (`mem_ids_of_extends`).
-/

namespace Readership

/-! ## appended rows -/

/-- What it means that tables hold the rows of others, and maybe more after
them. -/
structure Tables.Extends (t' t : Tables) : Prop where
  countries : t.countries.toList <+: t'.countries.toList
  users : t.users.toList <+: t'.users.toList
  blogs : t.blogs.toList <+: t'.blogs.toList
  views : t.views.toList <+: t'.views.toList

namespace Tables.Extends

/-- What stands at a position of a table stands there after rows are appended. -/
theorem getElem? {α : Type} {xs ys : Array α} (h : xs.toList <+: ys.toList) {i : Nat} {x : α}
    (hx : xs[i]? = some x) : ys[i]? = some x := by
  obtain ⟨more, hmore⟩ := h
  have hi : i < xs.toList.length := by simpa using (Array.getElem?_eq_some_iff.1 hx).1
  rw [← Array.getElem?_toList, ← hmore, List.getElem?_append_left hi, Array.getElem?_toList, hx]

variable {t t' : Tables} (h : t'.Extends t)
include h

theorem size_le (e : Entity) : t.size e ≤ t'.size e := by
  cases e with
  | country => simpa [size] using h.countries.length_le
  | user => simpa [size] using h.users.length_le
  | blog => simpa [size] using h.blogs.length_le
  | view => simpa [size] using h.views.length_le

theorem rows_prefix_rows (e : Entity) : t.rows e <+: t'.rows e := by
  obtain ⟨n, hn⟩ := Nat.exists_eq_add_of_le (h.size_le e)
  rw [rows, rows, hn, List.range_add, List.map_append]
  exact List.prefix_append _ _

/-- What is read from a row that was there stays what it is. -/
theorem read_eq {row : RowRef} (hrow : t.InRange row) (c : Column) :
    t'.read row c = t.read row c := by
  obtain ⟨e, i⟩ := row
  have hi : i < t.size e := hrow
  cases e with
  | country =>
      have hx : t.countries[i]? = some t.countries[i] := Array.getElem?_eq_getElem hi
      simp only [read, hx, getElem? h.countries hx]
  | user =>
      have hx : t.users[i]? = some t.users[i] := Array.getElem?_eq_getElem hi
      simp only [read, hx, getElem? h.users hx]
  | blog =>
      have hx : t.blogs[i]? = some t.blogs[i] := Array.getElem?_eq_getElem hi
      simp only [read, hx, getElem? h.blogs hx]
  | view =>
      have hx : t.views[i]? = some t.views[i] := Array.getElem?_eq_getElem hi
      simp only [read, hx, getElem? h.views hx]

theorem key?_eq {row : RowRef} (hrow : t.InRange row) (c : Column) :
    t'.key? row c = t.key? row c := by
  rw [key?, key?, h.read_eq hrow]

/-- Of two rows that were there, the one leads to the other as it did. -/
theorem leads_eq {row other : RowRef} {r : Relation} (hrow : t.InRange row)
    (hother : other ∈ t.rows r.target) : t'.leads row r other = t.leads row r other := by
  obtain ⟨hentity, hrange⟩ := mem_rows_iff.1 hother
  cases hjoin : row.entity.join? r with
  | none => rw [t'.leads_eq_false hjoin, t.leads_eq_false hjoin]
  | some columns =>
      rw [t'.leads_eq hjoin hentity, t.leads_eq hjoin hentity, h.key?_eq hrow, h.key?_eq hrange]

/-- A relation leads to the rows that it led to, and then to appended ones. -/
theorem scanHop_prefix_scanHop {row : RowRef} (hrow : t.InRange row) (r : Relation) :
    t.scanHop r row <+: t'.scanHop r row := by
  have hsame : t.scanHop r row = (t.rows r.target).filter (t'.leads row r) :=
    List.filter_congr fun other hother => (h.leads_eq hrow hother).symm
  rw [hsame, scanHop]
  exact (h.rows_prefix_rows r.target).filter _

end Tables.Extends

namespace Dataset

variable {d d' : Dataset} (h : d'.tables.Extends d.tables) {row : RowRef}
  (hrow : d.tables.InRange row)
include h hrow

theorem follow_prefix_follow (r : Relation) : d.follow row r <+: d'.follow row r := by
  rw [follow_eq_scanHop, follow_eq_scanHop]
  exact h.scanHop_prefix_scanHop hrow r

/-- A foreign key leads to the row that it led to, and an empty one nowhere. -/
theorem follow_eq {r : Relation} (hr : r.isForward = true) : d'.follow row r = d.follow row r := by
  obtain ⟨more, hmore⟩ := follow_prefix_follow h hrow r
  have hone : (d'.follow row r).length ≤ 1 := d'.length_follow_le_one hr
  cases hfollow : d.follow row r with
  | cons other others =>
      -- one row at most is led to, which leaves no room for another
      rw [hfollow] at hmore
      have hlength : (other :: others ++ more).length ≤ 1 := by rwa [hmore]
      have hnil : more = [] := by
        apply List.eq_nil_of_length_eq_zero
        simp only [List.length_append, List.length_cons] at hlength
        omega
      rw [← hmore, hnil, List.append_nil]
  | nil =>
      cases hjoin : row.entity.join? r with
      | none => rw [follow, hjoin]
      | some columns =>
          -- the row has no key for the relation, and is read as before
          obtain ⟨own, column⟩ := columns
          obtain ⟨hkey, rfl⟩ := d.tables.key?_eq_foreignKey? hjoin hr
          obtain ⟨hkey', -⟩ := d'.tables.key?_eq_foreignKey? hjoin hr
          rw [follow_eq_scanHop, d.scanHop_eq_nil_iff hjoin, ← hkey] at hfollow
          rw [follow_eq_scanHop, d'.scanHop_eq_nil_iff hjoin, ← hkey', h.key?_eq hrow, hfollow]

end Dataset

/-! ## values -/

namespace Dataset

/-- The values of a path are those of its rest, for each row that its first
relation leads to. -/
theorem values_cons (d : Dataset) (row : RowRef) (path : String) (r : Relation)
    (hops : List Relation) (c : Column) :
    d.values row ⟨path, r :: hops, c⟩ =
      (d.follow row r).flatMap fun other => d.values other ⟨path, hops, c⟩ := by
  simp [values, reach, List.map_flatMap]

theorem inRange_of_mem_follow {d : Dataset} {row other : RowRef} {r : Relation}
    (h : other ∈ d.follow row r) : d.tables.InRange other :=
  (Tables.mem_rows_iff.1 (d.mem_rows_of_mem_follow h)).2

variable {d d' : Dataset} (h : d'.tables.Extends d.tables)
include h

theorem values_eq {path : String} {hops : List Relation}
    (hops_forward : ∀ r ∈ hops, r.isForward = true) (c : Column) {row : RowRef}
    (hrow : d.tables.InRange row) :
    d'.values row ⟨path, hops, c⟩ = d.values row ⟨path, hops, c⟩ := by
  induction hops generalizing row with
  | nil => simp [values, reach, read, h.read_eq hrow]
  | cons r hops ih =>
      rw [List.forall_mem_cons] at hops_forward
      rw [values_cons, values_cons, follow_eq h hrow hops_forward.1]
      exact List.flatMap_congr fun other hother =>
        ih hops_forward.2 (inRange_of_mem_follow hother)

theorem values_subset {path : String} (hops : List Relation) (c : Column) {row : RowRef}
    (hrow : d.tables.InRange row) :
    d.values row ⟨path, hops, c⟩ ⊆ d'.values row ⟨path, hops, c⟩ := by
  induction hops generalizing row with
  | nil => simp [values, reach, read, h.read_eq hrow]
  | cons r hops ih =>
      intro v hv
      rw [values_cons, List.mem_flatMap] at hv ⊢
      obtain ⟨other, hother, hv⟩ := hv
      have hother' : other ∈ d'.follow row r := (follow_prefix_follow h hrow r).subset hother
      exact ⟨other, hother', ih (inRange_of_mem_follow hother) hv⟩

end Dataset

/-! ## conditions -/

namespace FilterNode

/-- More values meet a condition where fewer do, unless it asks for null. -/
theorem meets_mono {values values' : List Value} (h : values ⊆ values') {type : FieldType}
    {c : Condition} (hnull : c.op = .eq → c.operand ≠ .null) :
    meets values type c.op.name c.operand = true →
      meets values' type c.op.name c.operand = true := by
  obtain ⟨path, op, operand⟩ := c
  have hcontains {w : Value} (hw : values.contains w = true) : values'.contains w = true := by
    rw [List.contains_iff_mem] at hw ⊢
    exact h hw
  have hany {p : Value → Bool} (hp : values.any p = true) : values'.any p = true := by
    rw [List.any_eq_true] at hp ⊢
    grind
  cases op with
  | eq =>
      have heq (values : List Value) : meets values type Operator.eq.name operand =
          (type.operand? operand).any fun w => values.contains w := by
        have hne : operand ≠ .null := hnull rfl
        cases operand <;> first | contradiction | rfl
      simp only [heq, Option.any_eq_true]
      grind
  | oneOf =>
      cases operand with
      | array items =>
          simp only [meets, Operator.name, List.any_eq_true, Option.any_eq_true]
          grind
      | _ => simp [meets, Operator.name]
  | contains =>
      cases operand with
      | string needle => exact hany
      | _ => simp [meets, Operator.name]
  | _ =>
      simp only [meets, Operator.name, Option.any_eq_true]
      grind

section
variable {d d' : Dataset} (h : d'.tables.Extends d.tables) {row : RowRef}
  (hrow : d.tables.InRange row) {c : Condition}
include h hrow

theorem meetsAt_eq_of_extends
    (hforward : ∀ field, Entity.view.resolve c.path = .ok field → field.isMultiValued = false) :
    meetsAt d'.tables row c.path c.op.name c.operand =
      meetsAt d.tables row c.path c.op.name c.operand := by
  apply meetsAt_congr
  intro field hfield
  have hops : ∀ r ∈ field.hops, r.isForward = true := by
    simpa [FieldPath.isMultiValued, Relation.isForward] using hforward field hfield
  rw [← Dataset.values_eq_scanValues, ← Dataset.values_eq_scanValues,
    Dataset.values_eq h hops field.column hrow]

theorem meetsAt_of_extends (hnull : c.op = .eq → c.operand ≠ .null) :
    meetsAt d.tables row c.path c.op.name c.operand = true →
      meetsAt d'.tables row c.path c.op.name c.operand = true := by
  unfold meetsAt
  split
  · next field hfield =>
    rw [← Dataset.values_eq_scanValues, ← Dataset.values_eq_scanValues]
    exact meets_mono (Dataset.values_subset h field.hops field.column hrow) hnull
  · exact id

end

/-! ## filters -/

/-- That no path of a tree leads from one row to many. -/
def SingleValued (tree : Json) : Prop :=
  ∀ c ∈ conditions tree, ∀ field, Entity.view.resolve c.path = .ok field →
    field.isMultiValued = false

/-- That a tree asks neither for the contrary of anything nor for null. -/
structure Positive (tree : Json) : Prop where
  no_negation : ∀ node ∈ preorder tree, isNegation node = false
  no_null : ∀ c ∈ conditions tree, c.op = .eq → c.operand ≠ .null

end FilterNode

namespace ViewQuery

open FilterNode

/-- **Selections as tables grow**: let rows be appended to some tables.  A
filter whose paths follow foreign keys selects a view that was there before if
it did so; a filter with neither a negation nor a test for null still selects
it, whatever its paths. -/
theorem mem_ids_of_extends {t t' : Tables} (h : t'.Extends t) {d d' : Dataset}
    (hd : Dataset.ofTables t = .ok d) (hd' : Dataset.ofTables t' = .ok d') {tree : Json}
    {q : ViewQuery} (hq : everything.narrow (some tree) = .ok q) {v : View}
    (hv : v ∈ t.views.toList) :
    (SingleValued tree → (v.id ∈ q.ids d' ↔ v.id ∈ q.ids d)) ∧
      (Positive tree → v.id ∈ q.ids d → v.id ∈ q.ids d') := by
  obtain rfl := Dataset.tables_of_ofTables hd
  obtain rfl := Dataset.tables_of_ofTables hd'
  obtain ⟨f, hf, -⟩ := map_eq_ok_iff.1 hq
  obtain ⟨i, hi⟩ := Array.mem_iff_getElem?.1 (Array.mem_toList_iff.1 hv)
  have hi' : d'.tables.views[i]? = some v := Tables.Extends.getElem? h.views hi
  have hrow : d.tables.InRange ⟨.view, i⟩ := (Array.getElem?_eq_some_iff.1 hi).1
  rw [mem_ids_iff _ hi, mem_ids_iff _ hi', selects_of_narrow hq, selects_of_narrow hq]
  constructor
  · intro hsingle
    rw [satTree_congr hf fun c hc => meetsAt_eq_of_extends h hrow (hsingle c hc)]
  · intro hpositive
    exact satTree_mono hf hpositive.no_negation fun c hc =>
      meetsAt_of_extends h hrow (hpositive.no_null c hc)

/-- The second view of a blog that has one more view now.  The first is still the
one by a known viewer, and both are still views of a blog read in Chile. -/
theorem mem_ids_of_extends_sample :
    let known := Json.object [("not", .object [("field", .string "viewer.username"),
      ("op", .string "eq"), ("value", .null)])]
    let read := Json.object [("or", .array [.object [("field", .string "blog.views.country.code"),
      ("op", .string "eq"), ("value", .string "CL")]])]
    let grown := { Tables.sample with
      views := Tables.sample.views.push
        { id := 3, blog := 10, viewedAt := .midnight Tables.sample.february } }
    ∃ d d' q q', grown.Extends .sample ∧ Dataset.ofTables .sample = .ok d ∧
      Dataset.ofTables grown = .ok d' ∧ everything.narrow (some known) = .ok q ∧
      everything.narrow (some read) = .ok q' ∧ SingleValued known ∧ Positive read ∧
      2 ∉ q.ids d' ∧ 2 ∈ q'.ids d' := by
  intro known read grown
  have hextends : grown.Extends .sample :=
    ⟨List.prefix_rfl, List.prefix_rfl, List.prefix_rfl, ⟨_, rfl⟩⟩
  obtain ⟨d, hd⟩ := Dataset.exists_ofTables Tables.sound_sample
  have hsound : grown.Sound :=
    Tables.sound_of_rows (fun e => by cases e <;> decide) (fun e => by cases e <;> decide)
  obtain ⟨d', hd'⟩ := Dataset.exists_ofTables hsound
  have hnarrow : ∀ tree ∈ [known, read], (everything.narrow (some tree)).toOption.isSome := by
    decide +kernel
  simp only [List.forall_mem_cons, Option.isSome_iff_exists, toOption_eq_some_iff] at hnarrow
  obtain ⟨⟨q, hq⟩, ⟨q', hq'⟩, -⟩ := hnarrow
  have heq : Operator.ofName? "eq" = some .eq := by decide
  have hsingle : SingleValued known := by
    have hconditions : conditions known = [⟨"viewer.username", .eq, .null⟩] := by
      simp [conditions_eq, known, parts, shape, condition?, List.lookup_cons, heq]
    have hone : (Entity.view.resolve "viewer.username").toOption.all (!·.isMultiValued) := by
      decide +kernel
    intro c hc field hfield
    obtain rfl := List.mem_singleton.1 (hconditions ▸ hc)
    simpa [hfield, Except.toOption] using hone
  have hpositive : Positive read := by
    have hconditions : conditions read = [⟨"blog.views.country.code", .eq, .string "CL"⟩] := by
      simp [conditions_eq, read, parts, shape, condition?, List.lookup_cons, heq]
    have hnodes : (preorder read).all (!isNegation ·) := by
      simp [preorder_eq, read, parts, shape, isNegation, List.lookup_cons]
    constructor
    · simpa using hnodes
    · simp [hconditions]
  have htables := Dataset.tables_of_ofTables hd
  let second : View := { id := 2, blog := 10, viewedAt := .midnight Tables.sample.february }
  have hsecond : d.tables.views[1]? = some second := by
    rw [htables]
    rfl
  have hmem : second ∈ Tables.sample.views.toList := by simp [Tables.sample, second]
  refine ⟨d, d', q, q', hextends, hd, hd', hq, hq', hsingle, hpositive, ?_, ?_⟩
  · have hiff : 2 ∈ q.ids d' ↔ 2 ∈ q.ids d :=
      (mem_ids_of_extends hextends hd hd' hq hmem).1 hsingle
    have hbefore : q.selects d 1 = false := by
      rw [selects_of_narrow hq, htables]
      decide +kernel
    rw [hiff, q.mem_ids_iff hsecond, hbefore]
    simp
  · apply (mem_ids_of_extends hextends hd hd' hq' hmem).2 hpositive
    rw [q'.mem_ids_iff hsecond, selects_of_narrow hq', htables]
    decide +kernel

end ViewQuery

end Readership
