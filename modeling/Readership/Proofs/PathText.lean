import Readership.Proofs.Reading
import Readership.Schema.Path
import Readership.Text.Blank

/-!
# Readership.Proofs.PathText

Texts of paths, the names in them, and chains of relations.

* `pieces_dot`, `pieces_cons` -- one pass over a text cuts it at dots and at
  double underscores alike;
* `Entity.reach?` -- the table that a chain of relations leads to;
* `walk_chain`, `walk_column` -- the names of a chain are walked along the chain,
  and that of a column ends the walk;
* `isBlankText_of_resolve` -- whatever path resolves, it is not blank.
-/

namespace Readership

open Text

namespace Path

/-! ## cutting -/

/-- The segments of a text. -/
def pieces (cs : List Char) : List (List Char) := (cutUnderscores cs).flatMap cutDots

theorem segments_eq (path : String) : segments path = (pieces path.toList).map String.ofList := rfl

theorem exists_extend (c : Char) (pieces : List (List Char)) :
    ∃ s rest, extend c pieces = s :: rest := by
  cases pieces with
  | nil => exact ⟨_, _, rfl⟩
  | cons s rest => exact ⟨_, _, rfl⟩

theorem exists_cutUnderscores (cs : List Char) : ∃ s rest, cutUnderscores cs = s :: rest := by
  unfold cutUnderscores
  split
  · exact ⟨_, _, rfl⟩
  · exact ⟨_, _, rfl⟩
  · exact exists_extend _ _

theorem exists_cutDots (cs : List Char) : ∃ s rest, cutDots cs = s :: rest := by
  unfold cutDots
  split
  · exact ⟨_, _, rfl⟩
  · exact ⟨_, _, rfl⟩
  · exact exists_extend _ _

theorem cutUnderscores_cons {c : Char} {cs : List Char} (h : c = '_' → cs.head? ≠ some '_') :
    cutUnderscores (c :: cs) = extend c (cutUnderscores cs) := by
  rw [cutUnderscores]
  rintro rest rfl rfl
  exact h rfl rfl

/-- What it means for the text after a character that no separator begins with it. -/
theorem head?_ne_of_no_separator {c : Char} {cs : List Char}
    (h : ∀ rest, c = '_' → cs = '_' :: rest → False) : c = '_' → cs.head? ≠ some '_' := by
  intro hc hhead
  obtain ⟨rest, hcs⟩ := List.head?_eq_some_iff.1 hhead
  exact h rest hc hcs

/-- A dot ends a segment. -/
theorem pieces_dot (cs : List Char) : pieces ('.' :: cs) = [] :: pieces cs := by
  obtain ⟨s, rest, hcut⟩ := exists_cutUnderscores cs
  rw [pieces, cutUnderscores_cons (by simp), hcut, pieces, hcut]
  rfl

/-- A character that starts no separator belongs to the segment at hand. -/
theorem pieces_cons {c : Char} {cs : List Char} (hdot : c ≠ '.')
    (hunder : c = '_' → cs.head? ≠ some '_') : pieces (c :: cs) = extend c (pieces cs) := by
  obtain ⟨s, rest, hcut⟩ := exists_cutUnderscores cs
  obtain ⟨s', rest', hcut'⟩ := exists_cutDots s
  have hs : cutDots (c :: s) = extend c (cutDots s) := by
    rw [cutDots]
    exact hdot
  rw [pieces, cutUnderscores_cons hunder, hcut, pieces, hcut, extend, List.flatMap_cons,
    List.flatMap_cons, hs, hcut']
  rfl

/-! ## names -/

/-- Whether a name has no separator in it. -/
def isPlain : List Char → Bool
  | [] => true
  | c :: cs => c != '.' && !(c == '_' && cs.head? == some '_') && isPlain cs

theorem isPlain_cons {c : Char} {cs : List Char} (h : isPlain (c :: cs)) :
    c ≠ '.' ∧ (c = '_' → cs.head? ≠ some '_') ∧ isPlain cs := by
  simpa [isPlain, and_assoc, Decidable.imp_iff_not_or] using h

theorem pieces_of_isPlain {cs : List Char} (h : isPlain cs) : pieces cs = [cs] := by
  induction cs with
  | nil => rfl
  | cons c cs ih =>
      obtain ⟨hdot, hunder, hcs⟩ := isPlain_cons h
      rw [pieces_cons hdot hunder, ih hcs]
      rfl

theorem isPlain_of_blank {cs : List Char} (h : cs.all isBlank) : isPlain cs := by
  induction cs with
  | nil => rfl
  | cons c cs ih =>
      obtain ⟨hc, hcs⟩ : isBlank c ∧ cs.all isBlank := by simpa using h
      have hdot : c ≠ '.' := by rintro rfl; contradiction
      have hunder : c ≠ '_' := by rintro rfl; contradiction
      simp [isPlain, hdot, hunder, ih hcs]

theorem pieces_append_dot {cs : List Char} (h : isPlain cs) (rest : List Char) :
    pieces (cs ++ '.' :: rest) = cs :: pieces rest := by
  induction cs with
  | nil => exact pieces_dot rest
  | cons c cs ih =>
      obtain ⟨hdot, hunder, hcs⟩ := isPlain_cons h
      have hnext : c = '_' → (cs ++ '.' :: rest).head? ≠ some '_' := by
        intro hc
        cases cs with
        | nil => simp
        | cons c' cs => exact hunder hc
      rw [List.cons_append, pieces_cons hdot hnext, ih hcs]
      rfl

/-- Names with dots between them. -/
def dotted (names : List String) : String := String.intercalate "." names

theorem dotted_cons_cons (name next : String) (names : List String) :
    dotted (name :: next :: names) = name ++ "." ++ dotted (next :: names) :=
  String.intercalate_cons_cons

end Path

/-! ## chains of relations -/

theorem Column.isPlain_label (c : Column) : Path.isPlain c.label.toList := by
  cases c <;> decide

theorem Relation.isPlain_label (r : Relation) : Path.isPlain r.label.toList := by
  cases r <;> decide

theorem Column.isEmpty_label (c : Column) : c.label.isEmpty = false := by
  cases c <;> decide

theorem Relation.isEmpty_label (r : Relation) : r.label.isEmpty = false := by
  cases r <;> decide

theorem Column.isBlankText_label (c : Column) : isBlankText c.label = false := by
  cases c <;> decide

theorem Relation.isBlankText_label (r : Relation) : isBlankText r.label = false := by
  cases r <;> decide

namespace Entity

/-- The table that a chain of relations leads to from a table, if each is one
of the table reached. -/
def reach? : Entity → List Relation → Option Entity
  | e, [] => some e
  | e, r :: rest => if r ∈ e.relations then reach? r.target rest else none

theorem reach?_cons_eq_some_iff {e target : Entity} {r : Relation} {hops : List Relation} :
    e.reach? (r :: hops) = some target ↔ r ∈ e.relations ∧ r.target.reach? hops = some target := by
  rw [reach?]
  split
  · next h => simp [h]
  · next h => simp [h]

theorem reach?_append_eq_some_iff {e target : Entity} {hops rest : List Relation} :
    e.reach? (hops ++ rest) = some target ↔
      ∃ mid, e.reach? hops = some mid ∧ mid.reach? rest = some target := by
  induction hops generalizing e with
  | nil => simp [reach?]
  | cons r hops ih =>
      rw [List.cons_append, reach?_cons_eq_some_iff, ih]
      simp [reach?_cons_eq_some_iff, and_assoc]

/-- The names of a table are found, and no relation has the name of a column. -/
theorem names_of_relation {e : Entity} {r : Relation} (h : r ∈ e.relations) :
    e.column? r.label = none ∧ e.relation? r.label = some r := by
  cases e <;> revert h r <;> decide

theorem column?_label {e : Entity} {c : Column} (h : c ∈ e.columns) :
    e.column? c.label = some c := by
  cases e <;> revert h c <;> decide

theorem names_of_blank {name : String} (h : isBlankText name = true) (e : Entity) :
    e.column? name = none ∧ e.relation? name = none := by
  have hcolumn (c : Column) : c.label ≠ name := by
    rintro rfl
    exact Bool.false_ne_true (c.isBlankText_label.symm.trans h)
  have hrelation (r : Relation) : r.label ≠ name := by
    rintro rfl
    exact Bool.false_ne_true (r.isBlankText_label.symm.trans h)
  constructor
  · exact List.find?_eq_none.2 fun c _ => by simpa using hcolumn c
  · exact List.find?_eq_none.2 fun r _ => by simpa using hrelation r

end Entity

namespace Path

theorem walk_relation {path : String} {e : Entity} {r : Relation} (h : r ∈ e.relations)
    (rest : List String) :
    walk path e (r.label :: rest) =
      (walk path r.target rest).map fun (hops, column) => (r :: hops, column) := by
  obtain ⟨hcolumn, hrelation⟩ := Entity.names_of_relation h
  rw [walk.eq_def]
  simp only [r.isEmpty_label, hcolumn, hrelation, Bool.false_eq_true, if_false]

theorem walk_column {path : String} {e : Entity} {c : Column} (h : c ∈ e.columns) :
    walk path e [c.label] = .ok ([], c) := by
  unfold walk
  simp only [c.isEmpty_label, Entity.column?_label h, Bool.false_eq_true, if_false]

/-- The names of a chain are walked along the chain. -/
theorem walk_chain {path : String} {e target : Entity} {hops : List Relation}
    (h : e.reach? hops = some target) (rest : List String) :
    walk path e (hops.map (·.label) ++ rest) =
      (walk path target rest).map fun (more, column) => (hops ++ more, column) := by
  induction hops generalizing e with
  | nil =>
      obtain rfl : e = target := Option.some.inj h
      cases hwalk : walk path e rest <;> simp [Except.map, hwalk]
  | cons r hops ih =>
      obtain ⟨hr, hrest⟩ := Entity.reach?_cons_eq_some_iff.1 h
      rw [List.map_cons, List.cons_append, walk_relation hr, ih hrest]
      cases walk path target rest <;> rfl

end Path

open Readership.Path

namespace Entity

/-- A path that resolves is not blank: a blank one is a single segment, and
nothing is named by blanks. -/
theorem isBlankText_of_resolve {e : Entity} {path : String} {field : FieldPath}
    (h : e.resolve path = .ok field) : isBlankText path = false := by
  rw [Bool.eq_false_iff]
  intro hblank
  have hsegments : segments path = [path] := by
    rw [segments_eq, pieces_of_isPlain (isPlain_of_blank hblank), List.map_singleton,
      String.ofList_toList]
  obtain ⟨hcolumn, hrelation⟩ := names_of_blank hblank e
  rw [resolve, hsegments] at h
  cases hempty : path.isEmpty <;> simp [walk, hempty, hcolumn, hrelation, Except.map] at h

end Entity

end Readership
