import Mathlib.Data.List.Basic
import Readership.Proofs.Integrity

/-!
# Readership.Proofs.FirstViolation

Which tables are accepted, and which fault is told of all others.

Nothing here knows of indexes.  The rows themselves say what they refer to:

* `Tables.Consistent` -- ids differ within each table, and each of the six
  foreign keys, where it is not empty, is the id of a row;
* `Tables.checks` -- what is looked at, in order: the ids of countries, users,
  blogs and views, and then the references of users, blogs and views, row by
  row;
* `Tables.violationOf?` -- what such a look finds, told from the row alone.

The faults of tables are what the checks find, one after the other
(`violations_eq_filterMap`), and the first of them is told.
-/

namespace Readership

namespace Tables

/-! ## consistent tables -/

/-- What is asked of tables: distinct ids, and references to rows that exist. -/
structure Consistent (t : Tables) : Prop where
  nodup_countries : (t.countries.toList.map (·.id)).Nodup
  nodup_users : (t.users.toList.map (·.id)).Nodup
  nodup_blogs : (t.blogs.toList.map (·.id)).Nodup
  nodup_views : (t.views.toList.map (·.id)).Nodup
  user_country : ∀ u ∈ t.users, ∀ id, u.country = some id → ∃ c ∈ t.countries, c.id = id
  blog_author : ∀ b ∈ t.blogs, ∃ u ∈ t.users, u.id = b.author
  blog_country : ∀ b ∈ t.blogs, ∀ id, b.country = some id → ∃ c ∈ t.countries, c.id = id
  view_blog : ∀ v ∈ t.views, ∃ b ∈ t.blogs, b.id = v.blog
  view_viewer : ∀ v ∈ t.views, ∀ id, v.viewer = some id → ∃ u ∈ t.users, u.id = id
  view_country : ∀ v ∈ t.views, ∀ id, v.country = some id → ∃ c ∈ t.countries, c.id = id

theorem mem_ids_country {t : Tables} {id : Int} :
    id ∈ t.ids .country ↔ ∃ c ∈ t.countries, c.id = id := by
  simp [ids]

theorem mem_ids_user {t : Tables} {id : Int} : id ∈ t.ids .user ↔ ∃ u ∈ t.users, u.id = id := by
  simp [ids]

theorem mem_ids_blog {t : Tables} {id : Int} : id ∈ t.ids .blog ↔ ∃ b ∈ t.blogs, b.id = id := by
  simp [ids]

/-- Consistent tables are those without faults, which refer through positions
and relations instead of rows. -/
theorem consistent_iff_sound {t : Tables} : t.Consistent ↔ t.Sound := by
  constructor
  · intro h
    refine ⟨fun e => ?_, fun row r key hkey => ?_⟩
    · cases e with
      | country => exact h.nodup_countries
      | user => exact h.nodup_users
      | blog => exact h.nodup_blogs
      | view => exact h.nodup_views
    · obtain ⟨e, i⟩ := row
      cases e with
      | country => cases r <;> simp [foreignKey?] at hkey
      | user =>
          cases r <;> simp [foreignKey?, Option.bind_eq_some_iff] at hkey
          obtain ⟨u, hu, hcountry⟩ := hkey
          exact mem_ids_country.2 (h.user_country u (Array.mem_of_getElem? hu) key hcountry)
      | blog =>
          cases r <;> simp [foreignKey?, Option.bind_eq_some_iff] at hkey
          · obtain ⟨b, hb, hcountry⟩ := hkey
            exact mem_ids_country.2 (h.blog_country b (Array.mem_of_getElem? hb) key hcountry)
          · obtain ⟨b, hb, rfl⟩ := hkey
            exact mem_ids_user.2 (h.blog_author b (Array.mem_of_getElem? hb))
      | view =>
          cases r <;> simp [foreignKey?, Option.bind_eq_some_iff] at hkey
          · obtain ⟨v, hv, rfl⟩ := hkey
            exact mem_ids_blog.2 (h.view_blog v (Array.mem_of_getElem? hv))
          · obtain ⟨v, hv, hviewer⟩ := hkey
            exact mem_ids_user.2 (h.view_viewer v (Array.mem_of_getElem? hv) key hviewer)
          · obtain ⟨v, hv, hcountry⟩ := hkey
            exact mem_ids_country.2 (h.view_country v (Array.mem_of_getElem? hv) key hcountry)
  · intro h
    have hkeys {α : Type} {xs : Array α} {x : α} (hx : x ∈ xs) : ∃ i : Nat, xs[i]? = some x :=
      Array.mem_iff_getElem?.1 hx
    constructor
    case nodup_countries => exact h.nodup_ids .country
    case nodup_users => exact h.nodup_ids .user
    case nodup_blogs => exact h.nodup_ids .blog
    case nodup_views => exact h.nodup_ids .view
    case user_country =>
      intro u hu id hid
      obtain ⟨i, hi⟩ := hkeys hu
      exact mem_ids_country.1 (h.mem_ids ⟨.user, i⟩ .country id (by simp [foreignKey?, hi, hid]))
    case blog_author =>
      intro b hb
      obtain ⟨i, hi⟩ := hkeys hb
      exact mem_ids_user.1 (h.mem_ids ⟨.blog, i⟩ .author _ (by simp [foreignKey?, hi]))
    case blog_country =>
      intro b hb id hid
      obtain ⟨i, hi⟩ := hkeys hb
      exact mem_ids_country.1 (h.mem_ids ⟨.blog, i⟩ .country id (by simp [foreignKey?, hi, hid]))
    case view_blog =>
      intro v hv
      obtain ⟨i, hi⟩ := hkeys hv
      exact mem_ids_blog.1 (h.mem_ids ⟨.view, i⟩ .blog _ (by simp [foreignKey?, hi]))
    case view_viewer =>
      intro v hv id hid
      obtain ⟨i, hi⟩ := hkeys hv
      exact mem_ids_user.1 (h.mem_ids ⟨.view, i⟩ .viewer id (by simp [foreignKey?, hi, hid]))
    case view_country =>
      intro v hv id hid
      obtain ⟨i, hi⟩ := hkeys hv
      exact mem_ids_country.1 (h.mem_ids ⟨.view, i⟩ .country id (by simp [foreignKey?, hi, hid]))

end Tables

/-! ## the checks -/

/-- A look at a row. -/
inductive Check where
  /-- Whether an earlier row of the table has the id of the row. -/
  | id (row : RowRef)
  /-- Whether the row that a row refers to exists. -/
  | reference (row : RowRef) (r : Relation)

/-- The tables that refer to others, and by what, in the order of the checks. -/
def Check.references : List (Entity × List Relation) :=
  [(.user, [.country]), (.blog, [.author, .country]), (.view, [.blog, .viewer, .country])]

namespace Tables

/-- All checks of tables in order. -/
def checks (t : Tables) : List Check :=
  ([.country, .user, .blog, .view].flatMap fun e => (t.rows e).map .id) ++
    Check.references.flatMap fun (e, rs) => (t.rows e).flatMap fun row => rs.map (.reference row)

/-- What a check finds. -/
def violationOf? (t : Tables) : Check → Option Violation
  | .id row =>
    (t.idOf? row).bind fun id =>
      if id ∈ (t.ids row.entity).take row.position then some (.duplicateId row.entity id) else none
  | .reference row r =>
    (t.foreignKey? row r).bind fun key =>
      (t.idOf? row).bind fun id =>
        if key ∈ t.ids r.target then none else some (.missingReference row.entity id r key)

/-! ## faults are what the checks find -/

/-- The keys that occurred before, told by their positions.  The induction
moves the first key over to those that were seen. -/
theorem repeats_eq_filterMap (seen : Std.HashSet Int) (ks : List Int) :
    repeats seen ks = (List.range ks.length).filterMap fun i =>
      ks[i]?.bind fun k => if k ∈ seen ∨ k ∈ ks.take i then some k else none := by
  induction ks generalizing seen with
  | nil => rfl
  | cons k ks ih =>
      rw [List.length_cons, List.range_succ_eq_map, List.filterMap_cons, List.filterMap_map,
        repeats]
      by_cases hk : k ∈ seen
      · have hseen (k' : Int) : k' ∈ seen ∨ k' = k ↔ k' ∈ seen :=
          or_iff_left_of_imp fun h => h ▸ hk
        simp [hk, ih, ← or_assoc, hseen]
      · have hinsert (k' : Int) : k' ∈ seen.insert k ↔ k' ∈ seen ∨ k' = k := by
          rw [Std.HashSet.mem_insert, beq_iff_eq, eq_comm, or_comm]
        simp [hk, ih, hinsert, or_assoc]

/-- The repeated ids of a table are what the checks of its ids find. -/
theorem duplicates_eq_filterMap (t : Tables) (e : Entity) :
    t.duplicates e = ((t.rows e).map .id).filterMap t.violationOf? := by
  have hids : (t.keys e e.key).filterMap id = t.ids e := by
    rw [Entity.key, keys_id]
    simp
  have hlength : t.size e = (t.ids e).length := by
    rw [← length_keys t e .id, keys_id, List.length_map]
  rw [duplicates, hids, repeats_eq_filterMap, rows, hlength, List.map_filterMap, List.map_map,
    List.filterMap_map]
  apply List.filterMap_congr
  intro i _
  cases hi : (t.ids e)[i]? with
  | none => simp [violationOf?, idOf?, hi]
  | some id => by_cases hmem : id ∈ (t.ids e).take i <;> simp [violationOf?, idOf?, hi, hmem]

/-- The dangling references of a row are what the checks of its foreign keys
find. -/
theorem dangling_eq_filterMap (t : Tables) (row : RowRef) :
    t.dangling t.isId row =
      ((row.entity.relations.filter (·.isForward)).map (.reference row)).filterMap
        t.violationOf? := by
  rw [dangling, List.filterMap_map]
  apply List.filterMap_congr
  intro r hr
  obtain ⟨hrel, hforward⟩ := List.mem_filter.1 hr
  obtain ⟨⟨own, other⟩, hjoin⟩ := Option.isSome_iff_exists.1 (Entity.mem_relations_iff.1 hrel)
  have hkey := (t.key?_eq_foreignKey? hjoin hforward).1
  have htarget (key : Int) : (t.isId r.target key = true) = (key ∈ t.ids r.target) :=
    propext (t.isId_target hforward key)
  simp only [hjoin, hkey, key?_id, Entity.key, Option.bind_eq_bind, Option.bind_some,
    Function.comp_apply, violationOf?, htarget]

/-- The faults of tables are what the checks find, one after the other. -/
theorem violations_eq_filterMap (t : Tables) :
    t.violations = t.checks.filterMap t.violationOf? := by
  have hreferences (e : Entity) (rs : List Relation)
      (hrs : e.relations.filter (·.isForward) = rs) :
      (t.rows e).flatMap (t.dangling t.isId) =
        ((t.rows e).flatMap fun row => rs.map (.reference row)).filterMap t.violationOf? := by
    rw [List.filterMap_flatMap]
    apply List.flatMap_congr
    intro row hrow
    obtain ⟨i, -, rfl⟩ := List.mem_map.1 hrow
    rw [dangling_eq_filterMap, ← hrs]
  rw [violations_eq, checks, List.filterMap_append, List.filterMap_flatMap]
  congr 1
  · exact List.flatMap_congr fun e _ => t.duplicates_eq_filterMap e
  · rw [Check.references, List.filterMap_flatMap]
    simp only [List.flatMap_cons, List.flatMap_nil]
    rw [hreferences .user _ rfl, hreferences .blog _ rfl, hreferences .view _ rfl]
    rfl

end Tables

namespace Dataset

theorem ofTables_eq_error_iff {t : Tables} {v : Violation} :
    ofTables t = .error v ↔ t.violations.head? = some v := by
  unfold ofTables
  split
  · next h => simp [h]
  · next w ws h => simp [h]

theorem ofTables_eq_ok_iff {t : Tables} : (∃ d, ofTables t = .ok d) ↔ t.Consistent := by
  rw [Tables.consistent_iff_sound]
  constructor
  · intro h
    obtain ⟨d, hd⟩ := h
    exact tables_of_ofTables hd ▸ d.sound
  · exact exists_ofTables

/-- **The tables that make a dataset**: exactly the consistent ones do, and the
dataset holds them as they are.  Of any others the first violation is told,
in the order of the checks. -/
theorem ofTables_consistent_or_first_violation (t : Tables) :
    ((∃ d, ofTables t = .ok d) ↔ t.Consistent) ∧
    (∀ d, ofTables t = .ok d → d.tables = t) ∧
    ∀ v, ofTables t = .error v ↔ t.checks.findSome? t.violationOf? = some v := by
  refine ⟨ofTables_eq_ok_iff, fun d hd => tables_of_ofTables hd, fun v => ?_⟩
  rw [ofTables_eq_error_iff, Tables.violations_eq_filterMap, List.head?_filterMap]

/-- The small tables are kept as they are.  Without their country, and with one
view twice, they have two faults, and the second view is told: ids are looked
at before references. -/
theorem ofTables_consistent_or_first_violation_sample :
    let faulty := { Tables.sample with
      countries := #[]
      views := Tables.sample.views ++ Tables.sample.views }
    (∃ d, ofTables .sample = .ok d ∧ d.tables = .sample) ∧
    ofTables faulty = .error (.duplicateId .view 1) := by
  intro faulty
  constructor
  · obtain ⟨-, htables, -⟩ := ofTables_consistent_or_first_violation .sample
    obtain ⟨d, hd⟩ := exists_ofTables Tables.sound_sample
    exact ⟨d, hd, htables d hd⟩
  · obtain ⟨-, -, herror⟩ := ofTables_consistent_or_first_violation faulty
    have hfirst : faulty.checks.findSome? faulty.violationOf? = some (.duplicateId .view 1) := by
      decide +kernel
    exact (herror _).2 hfirst

end Dataset

end Readership
