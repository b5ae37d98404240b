import Readership.Proofs.PathResolution

/-!
# Readership.Proofs.PathSeparators

Double underscores are another spelling of dots.

`Path.withDots` writes a dot for each double underscore of a path, from the left
and without overlap, so that none is left (`not_infix_withDots`).

* The path is cut into the same names as before (`segments_withDots`).  A single
  underscore that was kept starts no separator afterwards either: what follows it
  is what followed it before, or a dot (`head?_dottedChars_ne`).
* Where the names lead, or which of them is wrong and why, does not depend on the
  spelling of the path, only the path that errors quote does
  (`Entity.Offends.told`).
-/

namespace Readership

/-- The same error, told of another path. -/
def PathError.told (path : String) : PathError → PathError
  | empty => .empty
  | emptySegment _ => .emptySegment path
  | unknownField entity segment => .unknownField entity segment
  | notARelation _ column => .notARelation path column

namespace Path

/-! ## the other spelling -/

/-- A text with a dot for each double underscore, from the left. -/
def dottedChars : List Char → List Char
  | [] => []
  | '_' :: '_' :: cs => '.' :: dottedChars cs
  | c :: cs => c :: dottedChars cs

/-- A path with a dot for each double underscore, from the left. -/
def withDots (path : String) : String := String.ofList (dottedChars path.toList)

/-- Of three underscores in a row the first two are a separator. -/
example : withDots "a___b.__c____" = "a._b..c.." := by decide

theorem dottedChars_cons {c : Char} {cs : List Char} (h : c = '_' → cs.head? ≠ some '_') :
    dottedChars (c :: cs) = c :: dottedChars cs := by
  rw [dottedChars]
  rintro rest rfl rfl
  exact h rfl rfl

/-- Where no underscore stood first, none does. -/
theorem head?_dottedChars_ne {cs : List Char} (h : cs.head? ≠ some '_') :
    (dottedChars cs).head? ≠ some '_' := by
  cases cs with
  | nil => simp [dottedChars]
  | cons c cs =>
      have hc : c ≠ '_' := fun hc => h (congrArg some hc)
      rw [dottedChars_cons fun hc' => absurd hc' hc]
      simpa using hc

theorem not_infix_dottedChars (cs : List Char) : ¬ ['_', '_'] <:+: dottedChars cs := by
  induction cs using cutUnderscores.induct with
  | case1 => simp [dottedChars]
  | case2 cs ih => simpa [dottedChars, List.infix_cons_iff] using ih
  | case3 c cs hno ih =>
      have hunder := head?_ne_of_no_separator hno
      rw [dottedChars_cons hunder, List.infix_cons_iff, not_or]
      refine ⟨fun hpre => ?_, ih⟩
      obtain ⟨hc, hrest⟩ := List.cons_prefix_cons.1 hpre
      apply head?_dottedChars_ne (hunder hc.symm)
      exact List.head?_eq_some_iff.2 (hrest.imp fun _ => Eq.symm)

theorem pieces_dottedChars (cs : List Char) : pieces (dottedChars cs) = pieces cs := by
  induction cs using cutUnderscores.induct with
  | case1 => rfl
  | case2 cs ih => rw [dottedChars, pieces_dot, ih, pieces_underscores]
  | case3 c cs hno ih =>
      have hunder := head?_ne_of_no_separator hno
      rw [dottedChars_cons hunder]
      by_cases hdot : c = '.'
      · subst hdot
        rw [pieces_dot, ih, pieces_dot]
      · rw [pieces_cons hdot fun hc => head?_dottedChars_ne (hunder hc), ih,
          pieces_cons hdot hunder]

/-- No double underscore is left. -/
theorem not_infix_withDots (path : String) : ¬ ['_', '_'] <:+: (withDots path).toList := by
  rw [withDots, String.toList_ofList]
  exact not_infix_dottedChars path.toList

/-- A path is cut into the same names in either spelling. -/
theorem segments_withDots (path : String) : segments (withDots path) = segments path := by
  rw [segments_eq, segments_eq, withDots, String.toList_ofList, pieces_dottedChars]

end Path

namespace Entity

/-! ## resolution -/

/-- What is wrong with a name is the same in another path. -/
theorem Offends.told {e : Entity} {path name : String} {more : List String} {error : PathError}
    (h : e.Offends path name more error) (path' : String) :
    e.Offends path' name more (error.told path') := by
  cases h with
  | empty => exact .empty
  | column hc => exact .column hc
  | unknown hname hcolumn hrelation => exact .unknown hname hcolumn hrelation

/-- What it means that two paths resolve alike from a table: to the same chain and
column, or to nothing for the same reason, at the same name and the same table. -/
inductive ResolvesAlike (e : Entity) (path path' : String) : Prop
  | leads {hops : List Relation} {c : Column} (resolves : e.resolve path = .ok ⟨path, hops, c⟩)
      (resolves' : e.resolve path' = .ok ⟨path', hops, c⟩)
  | empty (fails : e.resolve path = .error .empty) (fails' : e.resolve path' = .error .empty)
  | strays {hops : List Relation} {target : Entity} {name : String} {more : List String}
      {error : PathError} (reaches : e.reach? hops = some target)
      (names : Path.segments path = hops.map (·.label) ++ name :: more)
      (names' : Path.segments path' = hops.map (·.label) ++ name :: more)
      (offends : target.Offends path name more error)
      (offends' : target.Offends path' name more (error.told path'))
      (fails : e.resolve path = .error error)
      (fails' : e.resolve path' = .error (error.told path'))

/-- Only the names in a path count. -/
theorem resolvesAlike_of_segments {path path' : String}
    (h : Path.segments path' = Path.segments path) (e : Entity) : e.ResolvesAlike path path' := by
  by_cases hempty : ∀ name ∈ Path.segments path, name = ""
  · exact .empty (resolve_of_all_empty hempty) (resolve_of_all_empty (h ▸ hempty))
  have hname : ∃ name ∈ Path.segments path, name ≠ "" := by simpa using hempty
  have hname' : ∃ name ∈ Path.segments path', name ≠ "" := h ▸ hname
  rcases e.leads_or_strays path (Path.segments path) with ⟨hops, c, hleads⟩ | ⟨error, hstrays⟩
  · have hleads' : e.Leads (Path.segments path') hops c := h ▸ hleads
    exact .leads (resolve_eq_ok_iff.2 ⟨rfl, hleads⟩) (resolve_eq_ok_iff.2 ⟨rfl, hleads'⟩)
  · have hfails := resolve_eq_error_iff.2 (.inr ⟨hname, hstrays⟩)
    obtain ⟨hops, target, name, more, hreach, hnames, hoffends⟩ := hstrays
    have hnames' := h.trans hnames
    have hoffends' := hoffends.told path'
    have hfails' := resolve_eq_error_iff.2
      (.inr ⟨hname', hops, target, name, more, hreach, hnames', hoffends'⟩)
    exact .strays hreach hnames hnames' hoffends hoffends' hfails hfails'

/-- **Double underscores are another spelling of dots**: a path and the one with a dot
for each double underscore, which has none left, are cut into the same names and
resolve alike from every table. -/
theorem resolvesAlike_withDots (e : Entity) (path : String) :
    ¬ ['_', '_'] <:+: (Path.withDots path).toList ∧
      Path.segments (Path.withDots path) = Path.segments path ∧
      e.ResolvesAlike path (Path.withDots path) :=
  ⟨Path.not_infix_withDots path, Path.segments_withDots path,
    resolvesAlike_of_segments (Path.segments_withDots path) e⟩

end Entity

end Readership
