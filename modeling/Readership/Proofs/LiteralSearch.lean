import Readership.Proofs.Lowercasing
import Readership.Proofs.WellTyped

/-!
# Readership.Proofs.LiteralSearch

Texts that contain a needle as it is written.

A search puts the needle and the texts in lower case and looks for the one in the
others.  Of two texts one of which stands in the other, the lower cases need not
do so (`Readership.Proofs.Lowercasing`), because of the two small forms of `Σ`.
So a needle that stands in a text as it is written is found:

* where each `Σ` of the needle has the form there that it has in the needle;
* in any text, exactly if each `Σ` of the needle takes its form from characters
  of the needle.

Without a `Σ`, and in particular when it is empty, a needle is found in any text
that it stands in.
-/

namespace Readership

open Text

/-- The condition that a text contains a needle. -/
def Condition.containing (path needle : String) : Condition := ⟨path, .contains, .string needle⟩

namespace Tables

/-- One view of a blog with a given title. -/
def titled (title : String) : Tables where
  users := #[{ id := 1, username := "ada", createdAt := .midnight sample.january }]
  blogs := #[{ id := 10, title, author := 1, createdAt := .midnight sample.january }]
  views := #[{ id := 1, blog := 10, viewedAt := .midnight sample.february }]

theorem sound_titled (title : String) : (titled title).Sound := by
  apply sound_of_rows
  · intro e
    cases e <;> simp [titled, ids]
  · intro e
    cases e <;>
      simp [titled, ids, rows, size, Entity.relations, foreignKey?, Relation.target]

end Tables

namespace ViewQuery

/-- That a needle is found in all texts that are such: at the end of any path of
texts, its condition is a filter and selects the views that reach one. -/
def Finds (needle : String) (such : String → Prop) : Prop :=
  ∀ path field, Entity.view.resolve path = .ok field → field.type = .text →
    ∃ q, everything.narrow (some (Condition.containing path needle).node) = .ok q ∧
      ∀ (d : Dataset) (i : Nat) (v : View) (s : String), d.tables.views[i]? = some v →
        .text s ∈ d.values ⟨.view, i⟩ field → such s → v.id ∈ q.ids d

theorem narrow_containing_eq_ok_iff {q q' : ViewQuery} {path needle : String} {field : FieldPath}
    (hfield : Entity.view.resolve path = .ok field) (htext : field.type = .text) :
    q.narrow (some (Condition.containing path needle).node) = .ok q' ↔
      q.filter (.test field (.containing needle)) = q' := by
  simp only [narrow_node_eq_ok_iff, Condition.containing, hfield, FieldPath.lookup,
    FieldPath.containing_eq_ok_iff]
  constructor
  · rintro ⟨_, _, h, ⟨-, _, h', rfl⟩, rfl⟩
    obtain rfl := Except.ok.inj h
    obtain rfl := Json.string.inj h'
    rfl
  · rintro rfl
    exact ⟨field, _, rfl, ⟨htext, needle, rfl, rfl⟩, rfl⟩

theorem mem_ids_containing_iff {field : FieldPath} {needle : String} {d : Dataset} {i : Nat}
    {v : View} (hv : d.tables.views[i]? = some v) :
    v.id ∈ (everything.filter (.test field (.containing needle))).ids d ↔
      ∃ s, .text s ∈ d.values ⟨.view, i⟩ field ∧
        (lowercase needle).toList <:+: (lowercase s).toList := by
  have htext {w : Value} {s : String} : w.text? = some s ↔ w = .text s := by
    cases w <;> simp [Value.text?]
  rw [mem_ids_test hv, FilterNode.testAny_containing, List.any_eq_true]
  simp only [Option.any_eq_true, htext, decide_eq_true_eq]
  constructor
  · rintro ⟨_, hw, s, rfl, hs⟩
    exact ⟨s, hw, hs⟩
  · rintro ⟨s, hw, hs⟩
    exact ⟨_, hw, s, rfl, hs⟩

theorem resolve_title :
    Entity.view.resolve "blog.title" = .ok ⟨"blog.title", [.blog], .title⟩ :=
  toOption_eq_some_iff.1 (by decide +kernel)

section
variable {title : String} {d : Dataset} (hd : Dataset.ofTables (.titled title) = .ok d)
include hd

theorem exists_view_titled : ∃ v, d.tables.views[0]? = some v ∧ v.id = 1 := by
  rw [Dataset.tables_of_ofTables hd]
  exact ⟨_, rfl, rfl⟩

/-- Any text is the one value at the end of a path, as the title of a blog. -/
theorem values_title (path : String) :
    d.values ⟨.view, 0⟩ ⟨path, [.blog], .title⟩ = [.text title] := by
  rw [Dataset.values_eq_scanValues, Dataset.tables_of_ofTables hd]
  rfl

theorem mem_ids_title_iff {path needle : String} :
    1 ∈ (everything.filter (.test ⟨path, [.blog], .title⟩ (.containing needle))).ids d ↔
      (lowercase needle).toList <:+: (lowercase title).toList := by
  obtain ⟨v, hv, hid⟩ := exists_view_titled hd
  rw [← hid, mem_ids_containing_iff hv, values_title hd]
  simp

end

/-- A search tells of two texts whether the one stands in the other in lower case. -/
theorem finds_iff {needle : String} {such : String → Prop} : Finds needle such ↔
    ∀ s, such s → lowerAfter [] needle.toList <:+: lowerAfter [] s.toList := by
  have hlower (s : String) : (lowercase s).toList = lowerAfter [] s.toList := String.toList_ofList
  simp only [← hlower]
  constructor
  · intro h s hs
    obtain ⟨d, hd⟩ := Dataset.exists_ofTables (Tables.sound_titled s)
    obtain ⟨v, hv, hid⟩ := exists_view_titled hd
    obtain ⟨q, hq, hfinds⟩ := h _ _ resolve_title rfl
    obtain rfl := (narrow_containing_eq_ok_iff resolve_title rfl).1 hq
    rw [← mem_ids_title_iff hd, ← hid]
    exact hfinds d 0 v s hv (by rw [values_title hd]; exact List.mem_singleton_self _) hs
  · intro h path field hfield htext
    refine ⟨_, (narrow_containing_eq_ok_iff hfield htext).2 rfl, ?_⟩
    intro d i v s hv hmem hs
    exact (mem_ids_containing_iff hv).2 ⟨s, hmem, h s hs⟩

/-- **Literal search**: a needle is found in the texts that it stands in with each
`Σ` in the form it has in the needle.  It is found in all that it stands in
exactly if each `Σ` takes its form from characters of the needle, as is the case
for a needle without any. -/
theorem finds_literal_iff (needle : String) :
    Finds needle (fun s => ∃ before after, s.toList = before ++ needle.toList ++ after ∧
      KeepsSigmas before needle.toList after) ∧
    (Finds needle (fun s => needle.toList <:+: s.toList) ↔
      settlesSigmas [] needle.toList = true) ∧
    ('Σ' ∉ needle.toList → Finds needle fun s => needle.toList <:+: s.toList) := by
  have hiff : Finds needle (fun s => needle.toList <:+: s.toList) ↔
      settlesSigmas [] needle.toList = true := by
    rw [finds_iff, ← infix_lowerAfter_iff]
    constructor
    · intro h ds hds
      simpa using h (.ofList ds) (by simpa using hds)
    · intro h s hs
      exact h s.toList hs
  refine ⟨finds_iff.2 ?_, hiff, fun h => hiff.2 (settlesSigmas_of_not_mem h)⟩
  rintro s ⟨before, after, hs, hkeeps⟩
  rw [hs]
  exact hkeeps.infix_lowerAfter

/-- The needle ends in a `Σ`, which is final there but not in the title that begins
with the needle. -/
theorem literal_not_found :
    let path := "blog.title"
    let title := "ΟΔΟΣΤΡΩΜΑ"
    let needle := "ΟΔΟΣ"
    needle.toList <:+: title.toList ∧
    ∃ d field q, Dataset.ofTables (.titled title) = .ok d ∧
      Entity.view.resolve path = .ok field ∧ field.type = .text ∧
      d.values ⟨.view, 0⟩ field = [.text title] ∧
      everything.narrow (some (Condition.containing path needle).node) = .ok q ∧
      d.tables.views[0]?.map (·.id) = some 1 ∧ 1 ∉ q.ids d := by
  intro path title needle
  obtain ⟨d, hd⟩ := Dataset.exists_ofTables (Tables.sound_titled title)
  obtain ⟨v, hv, hid⟩ := exists_view_titled hd
  refine ⟨by decide, d, _, _, hd, resolve_title, rfl, values_title hd path,
    (narrow_containing_eq_ok_iff resolve_title rfl).2 rfl, by rw [hv, Option.map_some, hid], ?_⟩
  rw [mem_ids_title_iff hd]
  decide +kernel

end ViewQuery

end Readership
