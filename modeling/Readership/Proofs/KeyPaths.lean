import Mathlib.Data.List.Basic
import Readership.Proofs.NullTests
import Readership.Proofs.Relations

/-!
# Readership.Proofs.KeyPaths

Relations and their keys at the end of a path.

A path that ends in a forward relation goes through the index of ids and reads
the row that is found there; the key of the relation is read from the row before.
So behind the relation stand the values of the key without the nulls, in the same
order (`values_relation_eq_filter`):

* a key that is not null is the id of the one row that the relation leads to;
* behind a null there is no row.

No lookup but the test for null holds of a null (`Lookup.test_null`), and hence
no other one can tell the relation from its key.  The test for null cannot either
where the path takes one value at most.
-/

namespace Readership

theorem Value.integer?_eq_some_iff {v : Value} {n : Int} :
    v.integer? = some n ↔ v = .integer n := by
  cases v <;> simp [integer?]

/-- A forward relation joins a column of its table to the ids of the target. -/
theorem Entity.exists_join?_of_isForward {e : Entity} {r : Relation} (hr : r ∈ e.relations)
    (hforward : r.isForward = true) : ∃ c, e.join? r = some (c, .id) := by
  have hother : (e.join? r).map (·.2) = some .id := by
    revert hr hforward
    cases e <;> cases r <;> decide
  obtain ⟨⟨c, -⟩, hjoin, rfl⟩ := Option.map_eq_some_iff.1 hother
  exact ⟨c, hjoin⟩

/-! ## values without nulls -/

namespace Lookup

variable {l : Lookup} {values : List Value}

/-- Nulls do not matter to a lookup that does not ask for them. -/
theorem testAny_filter_isNull (hl : l ≠ .isNull) :
    l.testAny (values.filter (!·.isNull)) = l.testAny values := by
  have htest (vs : List Value) : l.testAny vs = vs.any l.test := by
    cases l <;> first | contradiction | rfl
  have hnull (v : Value) : (!v.isNull && l.test v) = l.test v := by
    cases v with
    | null => rw [test_null hl, Bool.and_false]
    | _ => exact Bool.true_and _
  rw [htest, htest, List.any_filter]
  simp only [hnull]

/-- To the test for null it makes no difference whether the only value is null or
missing. -/
theorem testAny_isNull_filter_isNull (h : values.length ≤ 1) :
    isNull.testAny (values.filter (!·.isNull)) = isNull.testAny values := by
  cases values with
  | nil => rfl
  | cons v vs =>
      obtain rfl : vs = [] := by simpa using h
      cases v <;> rfl

end Lookup

/-! ## behind a relation -/

namespace Dataset

variable (d : Dataset) {row : RowRef} {r : Relation} {c : Column}

/-- One step: a relation leads from a row to the key that the row holds, if it
is not null. -/
theorem map_read_follow_eq_filter (hjoin : row.entity.join? r = some (c, .id)) :
    (d.follow row r).map (d.read · .id) = [d.read row c].filter (!·.isNull) := by
  obtain ⟨hr, hforward, -⟩ := Entity.foreignKey_of_join? hjoin
  rcases d.follow_of_forward hr hforward with ⟨hnone, hfollow⟩ | ⟨key, other, hkey, hid, hfollow⟩
  · have hnull : (d.read row c).isNull = true := (d.tables.isNull_read_iff hjoin).2 hnone
    simp [hfollow, hnull]
  · have hown : d.read row c = .integer key := by
      rw [← (d.tables.key?_eq_foreignKey? hjoin hforward).1] at hkey
      exact Value.integer?_eq_some_iff.1 hkey
    have hother : d.read other .id = .integer key := by
      rw [← d.tables.key?_id] at hid
      exact Value.integer?_eq_some_iff.1 hid
    rw [hfollow, List.map_singleton, hother, hown]
    rfl

/-- Along a chain: behind a relation stand the keys that are not null. -/
theorem values_relation_eq_filter {hops : List Relation} {e : Entity}
    (hrow : d.tables.InRange row) (hreach : row.entity.reach? hops = some e)
    (hjoin : e.join? r = some (c, .id)) (path path' : String) :
    d.values row ⟨path, hops ++ [r], .id⟩ =
      (d.values row ⟨path', hops, c⟩).filter (!·.isNull) := by
  have hreach' : row.entity.reach? (hops ++ []) = some e := by rw [List.append_nil, hreach]
  have hstep (b : RowRef) (hb : b ∈ d.reach row hops) :
      (d.follow b r).map (d.read · .id) = [d.read b c].filter (!·.isNull) := by
    obtain ⟨-, hend⟩ := d.inRange_of_mem_reach hrow hreach' hb
    obtain rfl : b.entity = e := Option.some.inj hend
    exact d.map_read_follow_eq_filter hjoin
  have hsplit (branches : List RowRef) :
      (branches.map (d.read · c)).filter (!·.isNull) =
        branches.flatMap fun b => [d.read b c].filter (!·.isNull) := by
    induction branches with
    | nil => rfl
    | cons b branches ih =>
        rw [List.flatMap_cons, ← ih, List.map_cons, ← List.singleton_append, List.filter_append]
  calc d.values row ⟨path, hops ++ [r], .id⟩
      = ((d.reach row hops).flatMap (d.follow · r)).map (d.read · .id) := by
        simp only [values, reach_eq_scanReach, Tables.scanReach_concat, follow_eq_scanHop]
    _ = (d.reach row hops).flatMap fun b => (d.follow b r).map (d.read · .id) :=
        List.map_flatMap
    _ = (d.reach row hops).flatMap fun b => [d.read b c].filter (!·.isNull) :=
        List.flatMap_congr hstep
    _ = (d.values row ⟨path', hops, c⟩).filter (!·.isNull) := (hsplit _).symm

/-- A lookup on a relation passes where it does on the key, unless it asks for
null after a relation that branches. -/
theorem testAny_relation_eq_key {hops : List Relation} {e : Entity} (hrow : d.tables.InRange row)
    (hreach : row.entity.reach? hops = some e) (hjoin : e.join? r = some (c, .id))
    (path path' : String) {l : Lookup}
    (hl : l ≠ .isNull ∨ ∀ hop ∈ hops, hop.isForward = true) :
    l.testAny (d.values row ⟨path, hops ++ [r], .id⟩) =
      l.testAny (d.values row ⟨path', hops, c⟩) := by
  rw [d.values_relation_eq_filter hrow hreach hjoin path path']
  by_cases hnull : l = .isNull
  · subst hnull
    have hforward := hl.resolve_left (absurd rfl)
    apply Lookup.testAny_isNull_filter_isNull
    rw [values, List.length_map]
    exact d.length_reach_le_one hforward row
  · exact Lookup.testAny_filter_isNull hnull

end Dataset

namespace ViewQuery

/-- Filters that select the same of all views do so of any selection. -/
theorem rows_filter_congr {f g : RowFilter} {d : Dataset}
    (h : (everything.filter f).ids d = (everything.filter g).ids d) (q : ViewQuery) :
    (q.filter f).rows d = (q.filter g).rows d := by
  rw [rows_filter_eq, rows_filter_eq q g, h]

/-- Tests that pass for the same views leave the same of them. -/
theorem rows_test_congr {field field' : FieldPath} {l : Lookup} {d : Dataset}
    (h : ∀ row, row.entity = .view → d.tables.InRange row →
      l.testAny (d.values row field) = l.testAny (d.values row field')) (q : ViewQuery) :
    (q.filter (.test field l)).rows d = (q.filter (.test field' l)).rows d := by
  apply rows_filter_congr
  rw [ids_eq_ids_iff]
  intro i v hv
  have hrange : d.tables.InRange ⟨.view, i⟩ :=
    Tables.inRange_iff_mem_rows.2 (d.tables.mem_rows_view hv)
  rw [mem_ids_test hv, mem_ids_test hv, h _ rfl hrange]

open Readership.Path

/-- **A relation and its key**: after any chain of relations from a view, a
forward relation, the id behind it and the key that it goes by are fields.  Every
lookup leaves the same views of a selection by the first two; and by the key as
well, unless it asks for null after a chain with a reverse relation. -/
theorem relation_eq_id_and_key {hops : List Relation} {e : Entity}
    (hreach : Entity.view.reach? hops = some e) {r : Relation} (hr : r ∈ e.relations)
    (hforward : r.isForward = true) :
    let names := hops.map (·.label)
    ∃ relation id key,
      Entity.view.resolve (dotted (names ++ [r.label])) = .ok relation ∧
      Entity.view.resolve (dotted (names ++ [r.label, "id"])) = .ok id ∧
      Entity.view.resolve (dotted (names ++ [r.label ++ "_id"])) = .ok key ∧
      ∀ (d : Dataset) (q : ViewQuery) (l : Lookup),
        (q.filter (.test relation l)).rows d = (q.filter (.test id l)).rows d ∧
        (l ≠ .isNull ∨ (∀ hop ∈ hops, hop.isForward = true) →
          (q.filter (.test relation l)).rows d = (q.filter (.test key l)).rows d) := by
  intro names
  obtain ⟨c, hjoin⟩ := Entity.exists_join?_of_isForward hr hforward
  have hstep : e.reach? [r] = some r.target := Entity.reach?_cons_eq_some_iff.2 ⟨hr, rfl⟩
  have hend : Entity.view.reach? (hops ++ [r]) = some r.target :=
    Entity.reach?_append_eq_some_iff.2 ⟨e, hreach, hstep⟩
  have hid : Entity.view.resolve (dotted (names ++ [r.label, "id"])) =
      .ok ⟨dotted (names ++ [r.label, "id"]), hops ++ [r], .id⟩ := by
    have hmem : Column.id ∈ r.target.columns := by cases r.target <;> decide
    have hresolve := Entity.resolve_dotted_column hend hmem
    rw [List.map_append, List.append_assoc] at hresolve
    exact hresolve
  refine ⟨_, _, _, Entity.resolve_null_relation hreach hjoin, hid,
    Entity.resolve_null_key hreach hjoin, fun d q l => ⟨?_, fun hl => ?_⟩⟩
  · apply rows_test_congr
    exact fun row _ _ => rfl
  · apply rows_test_congr
    intro row hview hrange
    exact d.testAny_relation_eq_key hrange (hview ▸ hreach) hjoin _ _ hl

/-- The views of a blog whose other views are by the user 1, with and without
the name of the key; and the blogs without a country, one step from a view. -/
theorem relation_eq_id_and_key_sample :
    let byUser := Lookup.exact (.integer 1)
    Entity.view.reach? [.blog, .views] = some .view ∧ Entity.view.reach? [.blog] = some .blog ∧
    .viewer ∈ Entity.view.relations ∧ .country ∈ Entity.blog.relations ∧
    (Relation.viewer.isForward && Relation.country.isForward) = true ∧
    ∃ d viewer viewerId country countryId, Dataset.ofTables .sample = .ok d ∧
      Entity.view.resolve (dotted ["blog", "views", "viewer"]) = .ok viewer ∧
      Entity.view.resolve (dotted ["blog", "views", "viewer_id"]) = .ok viewerId ∧
      (everything.filter (.test viewer byUser)).rows d =
        (everything.filter (.test viewerId byUser)).rows d ∧
      Entity.view.resolve (dotted ["blog", "country"]) = .ok country ∧
      Entity.view.resolve (dotted ["blog", "country_id"]) = .ok countryId ∧
      (everything.filter (.test country .isNull)).rows d =
        (everything.filter (.test countryId .isNull)).rows d := by
  intro byUser
  have hviews : Entity.view.reach? [.blog, .views] = some .view := by decide
  have hblog : Entity.view.reach? [.blog] = some .blog := by decide
  have hviewer : .viewer ∈ Entity.view.relations := by decide
  have hcountry : .country ∈ Entity.blog.relations := by decide
  obtain ⟨d, hd⟩ := Dataset.exists_ofTables Tables.sound_sample
  obtain ⟨viewer, _, viewerId, h1, -, h2, hbyUser⟩ :=
    relation_eq_id_and_key hviews hviewer (by decide)
  obtain ⟨country, _, countryId, h3, -, h4, hnull⟩ :=
    relation_eq_id_and_key hblog hcountry (by decide)
  have hrows := (hbyUser d everything byUser).2 (.inl (by decide))
  have hrowsNull := (hnull d everything .isNull).2 (.inr (by decide))
  exact ⟨hviews, hblog, hviewer, hcountry, by decide, d, viewer, viewerId, country, countryId, hd,
    h1, h2, hrows, h3, h4, hrowsNull⟩

end ViewQuery

end Readership
