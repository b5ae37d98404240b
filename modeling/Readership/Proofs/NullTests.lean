import Mathlib.Logic.Basic
import Readership.Proofs.Conditions
import Readership.Proofs.PathResolution
import Readership.Proofs.Traversal

/-!
# Readership.Proofs.NullTests

Null at a relation, and null at the foreign key that the relation goes by.

A path may end in a relation or in the foreign key of it, and both can be
asked to be null.  The answers differ where the chain before them branches:

* a branch whose key is null leaves no value behind its relation, so the
  relation is null where the keys of all branches are (`testAny_relation_iff`);
* it leaves a null behind the column of the key, so the key is null where that
  of some branch is, or where there is no branch (`testAny_key_iff`).

Any branch with a key thus hides the null ones from the test of the relation,
but not from the test of the key.  Without a reverse relation there is one
branch at most and the two agree.
-/

namespace Readership

/-- The condition that a name at the end of a chain of relations is null. -/
def Condition.null (hops : List Relation) (name : String) : Condition :=
  ⟨Path.dotted (hops.map (·.label) ++ [name]), .eq, .null⟩

section
variable {hops : List Relation} {e : Entity} {r : Relation} {c : Column}

/-! ## the paths -/

/-- A relation at the end of a chain is one more hop, to the ids there. -/
theorem Entity.resolve_null_relation (hreach : view.reach? hops = some e)
    (hjoin : e.join? r = some (c, .id)) :
    let path := (Condition.null hops r.label).path
    view.resolve path = .ok ⟨path, hops ++ [r], .id⟩ := by
  obtain ⟨hr, -⟩ := Entity.foreignKey_of_join? hjoin
  have hstep : e.reach? [r] = some r.target := reach?_cons_eq_some_iff.2 ⟨hr, rfl⟩
  have hall : view.reach? (hops ++ [r]) = some r.target :=
    reach?_append_eq_some_iff.2 ⟨e, hreach, hstep⟩
  simpa [Condition.null] using resolve_dotted_relation hall (by simp)

/-- The foreign key of a relation is a column where the chain ends. -/
theorem Entity.resolve_null_key (hreach : view.reach? hops = some e)
    (hjoin : e.join? r = some (c, .id)) :
    let path := (Condition.null hops (r.label ++ "_id")).path
    view.resolve path = .ok ⟨path, hops, c⟩ := by
  obtain ⟨-, -, hc, -, hlabel⟩ := Entity.foreignKey_of_join? hjoin
  rw [← hlabel]
  exact resolve_dotted_column hreach hc

/-! ## the values behind them -/

variable (d : Dataset) {row : RowRef}

/-- The branches of a chain are rows of the table at its end. -/
theorem Dataset.mem_rows_of_branch (hrow : row ∈ d.tables.rows row.entity)
    (hreach : row.entity.reach? hops = some e) {b : RowRef}
    (hb : b ∈ d.tables.scanReach row hops) : b.entity = e ∧ b ∈ d.tables.rows b.entity := by
  have hmem : b ∈ d.tables.rows e := d.tables.mem_rows_of_mem_scanReach hrow hreach hb
  have hentity : b.entity = e := d.tables.entity_of_mem_rows hmem
  exact ⟨hentity, hentity ▸ hmem⟩

/-- Behind a relation there is null where no branch has a key: a branch
without a key leads nowhere, and the ids that others lead to are never null. -/
theorem Dataset.testAny_relation_iff (hrow : row ∈ d.tables.rows row.entity)
    (hreach : row.entity.reach? hops = some e) (hjoin : e.join? r = some (c, .id))
    (path : String) :
    Lookup.isNull.testAny (d.values row ⟨path, hops ++ [r], .id⟩) = true ↔
      ∀ b ∈ d.tables.scanReach row hops, d.tables.foreignKey? b r = none := by
  have hids : (d.values row ⟨path, hops ++ [r], .id⟩).any Value.isNull = false := by
    rw [values_eq_scanValues, Tables.scanValues, List.any_eq_false]
    intro v hv
    obtain ⟨other, hother, rfl⟩ := List.mem_map.1 hv
    rw [Tables.scanReach_concat, List.mem_flatMap] at hother
    obtain ⟨b, -, hhop⟩ := hother
    have hmem : other ∈ d.tables.rows r.target := (List.mem_filter.1 hhop).1
    have hentity := d.tables.entity_of_mem_rows hmem
    have hne := d.read_id_ne_null (hentity ▸ hmem)
    cases hread : d.tables.read other .id <;> simp_all [Value.isNull]
  have hempty : (d.values row ⟨path, hops ++ [r], .id⟩).isEmpty = true ↔
      ∀ b ∈ d.tables.scanReach row hops, d.tables.scanHop r b = [] := by
    rw [values_eq_scanValues, Tables.scanValues, Tables.scanReach_concat, List.isEmpty_iff,
      List.map_eq_nil_iff, List.flatMap_eq_nil_iff]
  rw [Lookup.testAny, hids, Bool.or_false, hempty]
  apply forall₂_congr
  intro b hb
  obtain ⟨hentity, -⟩ := d.mem_rows_of_branch hrow hreach hb
  exact d.scanHop_eq_nil_iff (hentity ▸ hjoin)

/-- Behind the column of a key there is null where a branch has no key, and
where there is no branch. -/
theorem Dataset.testAny_key_iff (hrow : row ∈ d.tables.rows row.entity)
    (hreach : row.entity.reach? hops = some e) (hjoin : e.join? r = some (c, .id))
    (path : String) :
    Lookup.isNull.testAny (d.values row ⟨path, hops, c⟩) = true ↔
      d.tables.scanReach row hops = [] ∨
        ∃ b ∈ d.tables.scanReach row hops, d.tables.foreignKey? b r = none := by
  rw [values_eq_scanValues, Tables.scanValues, Lookup.testAny, Bool.or_eq_true, List.isEmpty_iff,
    List.map_eq_nil_iff, List.any_map, List.any_eq_true]
  apply or_congr_right
  apply exists_congr
  intro b
  apply and_congr_right
  intro hb
  obtain ⟨hentity, -⟩ := d.mem_rows_of_branch hrow hreach hb
  exact d.tables.isNull_read_iff (hentity ▸ hjoin)

end

/-- All of some items are so exactly if one of them is or there are none,
provided that one is enough for all. -/
theorem forall_mem_iff_nil_or_exists_iff {α : Type} {l : List α} {p : α → Prop} :
    ((∀ a ∈ l, p a) ↔ l = [] ∨ ∃ a ∈ l, p a) ↔ ((∃ a ∈ l, p a) → ∀ a ∈ l, p a) := by
  constructor
  · exact fun h hone => h.2 (.inr hone)
  · intro h
    constructor
    · intro hall
      cases l with
      | nil => exact .inl rfl
      | cons a l => exact .inr ⟨a, List.mem_cons_self, hall a List.mem_cons_self⟩
    · rintro (rfl | hone)
      · simp
      · exact h hone

namespace ViewQuery

section
variable {hops : List Relation} {e : Entity} {r : Relation} {c : Column}
  (hreach : Entity.view.reach? hops = some e) (hjoin : e.join? r = some (c, .id))
  (path path' : String)
include hreach hjoin

theorem mem_ids_null_relation_iff {d : Dataset} {i : Nat} {v : View}
    (hv : d.tables.views[i]? = some v) :
    v.id ∈ (everything.filter (.test ⟨path, hops ++ [r], .id⟩ .isNull)).ids d ↔
      ∀ b ∈ d.tables.scanReach ⟨.view, i⟩ hops, d.tables.foreignKey? b r = none := by
  rw [mem_ids_test hv, d.testAny_relation_iff (d.tables.mem_rows_view hv) hreach hjoin]

theorem mem_ids_null_key_iff {d : Dataset} {i : Nat} {v : View}
    (hv : d.tables.views[i]? = some v) :
    v.id ∈ (everything.filter (.test ⟨path, hops, c⟩ .isNull)).ids d ↔
      d.tables.scanReach ⟨.view, i⟩ hops = [] ∨
        ∃ b ∈ d.tables.scanReach ⟨.view, i⟩ hops, d.tables.foreignKey? b r = none := by
  rw [mem_ids_test hv, d.testAny_key_iff (d.tables.mem_rows_view hv) hreach hjoin]

/-- The two tests agree where a null key on one branch comes with null keys on
all of them. -/
theorem ids_null_eq_iff (d : Dataset) :
    (everything.filter (.test ⟨path, hops ++ [r], .id⟩ .isNull)).ids d =
        (everything.filter (.test ⟨path', hops, c⟩ .isNull)).ids d ↔
      ∀ (i : Nat) (v : View), d.tables.views[i]? = some v →
        (∃ b ∈ d.tables.scanReach ⟨.view, i⟩ hops, d.tables.foreignKey? b r = none) →
          ∀ b ∈ d.tables.scanReach ⟨.view, i⟩ hops, d.tables.foreignKey? b r = none := by
  rw [ids_eq_ids_iff]
  apply forall₃_congr
  intro i v hv
  rw [mem_ids_null_relation_iff hreach hjoin path hv, mem_ids_null_key_iff hreach hjoin path' hv]
  exact forall_mem_iff_nil_or_exists_iff

/-- Without a reverse relation there is one branch at most. -/
theorem ids_null_eq_of_forward (hforward : ∀ hop ∈ hops, hop.isForward = true) (d : Dataset) :
    (everything.filter (.test ⟨path, hops ++ [r], .id⟩ .isNull)).ids d =
      (everything.filter (.test ⟨path', hops, c⟩ .isNull)).ids d := by
  rw [ids_null_eq_iff hreach hjoin]
  rintro i v - ⟨b, hb, hnull⟩ other hother
  have hone := d.length_reach_le_one hforward ⟨.view, i⟩
  rw [d.reach_eq_scanReach] at hone
  obtain ⟨only, honly⟩ : ∃ only, d.tables.scanReach ⟨.view, i⟩ hops = [only] := by
    rw [← List.length_eq_one_iff]
    have hpos := List.length_pos_of_mem hb
    omega
  rw [honly, List.mem_singleton] at hb hother
  rw [hother, ← hb]
  exact hnull

end

/-- **Null at a relation and at its key**: after any chain of relations from a
view, both can be asked to be null.  The relation is null for the views all of
whose branches have a null key, the key for those with such a branch or with
none at all; so they select the same views exactly if no view has branches of
both kinds, as is the case without a reverse relation. -/
theorem null_relation_and_null_key {hops : List Relation} {e : Entity}
    (hreach : Entity.view.reach? hops = some e) {r : Relation} {c : Column}
    (hjoin : e.join? r = some (c, .id)) :
    ∃ byRelation byKey,
      everything.narrow (some (Condition.null hops r.label).node) = .ok byRelation ∧
      everything.narrow (some (Condition.null hops (r.label ++ "_id")).node) = .ok byKey ∧
      ∀ d : Dataset,
        let branches (i : Nat) := d.tables.scanReach ⟨.view, i⟩ hops
        (∀ (i : Nat) (v : View), d.tables.views[i]? = some v →
          (v.id ∈ byRelation.ids d ↔ ∀ b ∈ branches i, d.tables.foreignKey? b r = none) ∧
          (v.id ∈ byKey.ids d ↔
            branches i = [] ∨ ∃ b ∈ branches i, d.tables.foreignKey? b r = none)) ∧
        (byRelation.ids d = byKey.ids d ↔
          ∀ (i : Nat) (v : View), d.tables.views[i]? = some v →
            (∃ b ∈ branches i, d.tables.foreignKey? b r = none) →
              ∀ b ∈ branches i, d.tables.foreignKey? b r = none) ∧
        ((∀ hop ∈ hops, hop.isForward = true) → byRelation.ids d = byKey.ids d) := by
  have hrelation := Entity.resolve_null_relation hreach hjoin
  have hkey := Entity.resolve_null_key hreach hjoin
  refine ⟨_, _, narrow_node_eq_ok_iff.2 ⟨_, _, hrelation, rfl, rfl⟩,
    narrow_node_eq_ok_iff.2 ⟨_, _, hkey, rfl, rfl⟩, ?_⟩
  intro d branches
  refine ⟨fun i v hv => ⟨?_, ?_⟩, ?_, fun hforward => ?_⟩
  · exact mem_ids_null_relation_iff hreach hjoin _ hv
  · exact mem_ids_null_key_iff hreach hjoin _ hv
  · exact ids_null_eq_iff hreach hjoin _ _ d
  · exact ids_null_eq_of_forward hreach hjoin _ _ hforward d

/-- Blogs have no country in the small dataset, and a view has one blog. -/
theorem null_relation_and_null_key_sample :
    Entity.view.reach? [.blog] = some .blog ∧
    Entity.blog.join? .country = some (.countryId, .id) ∧
    ∃ d byRelation byKey, Dataset.ofTables .sample = .ok d ∧
      everything.narrow (some (Condition.null [.blog] "country").node) = .ok byRelation ∧
      everything.narrow (some (Condition.null [.blog] "country_id").node) = .ok byKey ∧
      1 ∈ byRelation.ids d ∧ byRelation.ids d = byKey.ids d := by
  have hreach : Entity.view.reach? [.blog] = some .blog := by decide
  have hjoin : Entity.blog.join? .country = some (.countryId, .id) := by decide
  obtain ⟨d, hd⟩ := Dataset.exists_ofTables Tables.sound_sample
  have htables := Dataset.tables_of_ofTables hd
  obtain ⟨byRelation, byKey, hrelation, hkey, hids⟩ := null_relation_and_null_key hreach hjoin
  obtain ⟨hmem, -, hforward⟩ := hids d
  refine ⟨hreach, hjoin, d, byRelation, byKey, hd, hrelation, hkey, ?_, hforward (by decide)⟩
  have hview : d.tables.views[0]? = some Tables.sample.views[0] := by
    rw [htables]
    rfl
  refine (hmem 0 _ hview).1.2 ?_
  rw [htables]
  decide +kernel

/-- The views of the blog of the first view are that view itself and an
anonymous one: its viewer hides the other from the test of the relation, but
not from the test of the key. -/
theorem null_viewer_ne_null_viewer_id :
    ∃ d byRelation byKey, Dataset.ofTables .sample = .ok d ∧
      everything.narrow (some (Condition.null [.blog, .views] "viewer").node) = .ok byRelation ∧
      everything.narrow (some (Condition.null [.blog, .views] "viewer_id").node) = .ok byKey ∧
      1 ∉ byRelation.ids d ∧ 1 ∈ byKey.ids d := by
  have hreach : Entity.view.reach? [.blog, .views] = some .view := by decide
  have hjoin : Entity.view.join? .viewer = some (.viewerId, .id) := by decide
  obtain ⟨d, hd⟩ := Dataset.exists_ofTables Tables.sound_sample
  have htables := Dataset.tables_of_ofTables hd
  have hview : d.tables.views[0]? = some Tables.sample.views[0] := by
    rw [htables]
    rfl
  have hrelation := Entity.resolve_null_relation hreach hjoin
  have hkey := Entity.resolve_null_key hreach hjoin
  refine ⟨d, _, _, hd, narrow_node_eq_ok_iff.2 ⟨_, _, hrelation, rfl, rfl⟩,
    narrow_node_eq_ok_iff.2 ⟨_, _, hkey, rfl, rfl⟩, ?_, ?_⟩
  · intro hmem
    have hall := (mem_ids_null_relation_iff hreach hjoin _ hview).1 hmem
    rw [htables] at hall
    revert hall
    decide +kernel
  · apply (mem_ids_null_key_iff hreach hjoin _ hview).2
    rw [htables]
    decide +kernel

end ViewQuery

end Readership
