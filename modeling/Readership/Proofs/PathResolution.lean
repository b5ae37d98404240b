import Readership.Proofs.PathText

/-!
# Readership.Proofs.PathResolution

Which paths resolve, to what, and which error is told of the others.

* `Path.Cut` says how a text falls into names without going through it from the
  left: a name holds no separator, and one that stands before a double underscore
  does not end in an underscore, or the separator would begin there
  (`segments_eq_iff`).
* `Entity.Leads` says which names lead where: along a chain of relations of the
  schema, and then to a column of the table at its end or, if there is no name
  left, to its key (`resolve_eq_ok_iff`).
* `Entity.Offends` says what is wrong with a name at a table.  Names that lead
  nowhere follow a chain for a while; the first one that does not decides the
  error (`resolve_eq_error_iff`).

Names of the schema neither hold a separator nor end in an underscore, so that
they can be joined by either separator and are cut apart again
(`resolve_joined`); by dots alone in `resolve_dotted_column` and
`resolve_dotted_relation`.
-/

namespace Readership

namespace Path

/-! ## cutting -/

/-- What it means that a text is cut into names. -/
inductive Cut : List Char → List (List Char) → Prop
  | last {name : List Char} (plain : isPlain name) : Cut name [name]
  | dot {name text : List Char} {names : List (List Char)} (plain : isPlain name)
      (rest : Cut text names) : Cut (name ++ '.' :: text) (name :: names)
  | underscores {name text : List Char} {names : List (List Char)} (plain : isPlain name)
      (leftmost : name.getLast? ≠ some '_') (rest : Cut text names) :
      Cut (name ++ '_' :: '_' :: text) (name :: names)

/-- A double underscore ends a segment. -/
theorem pieces_underscores (cs : List Char) : pieces ('_' :: '_' :: cs) = [] :: pieces cs := rfl

theorem pieces_append_underscores {name : List Char} (h : isPlain name)
    (hlast : name.getLast? ≠ some '_') (rest : List Char) :
    pieces (name ++ '_' :: '_' :: rest) = name :: pieces rest := by
  induction name with
  | nil => exact pieces_underscores rest
  | cons c cs ih =>
      obtain ⟨hdot, hunder, hcs⟩ := isPlain_cons h
      have hnext : c = '_' → (cs ++ '_' :: '_' :: rest).head? ≠ some '_' := by
        intro hc
        cases cs with
        | nil => exact absurd (congrArg some hc) hlast
        | cons c' cs => exact hunder hc
      have hrest : cs.getLast? ≠ some '_' := by
        cases cs with
        | nil => simp
        | cons c' cs => rwa [List.getLast?_cons_cons] at hlast
      rw [List.cons_append, pieces_cons hdot hnext, ih hcs hrest]
      rfl

theorem pieces_of_cut {text : List Char} {names : List (List Char)} (h : Cut text names) :
    pieces text = names := by
  induction h with
  | last plain => exact pieces_of_isPlain plain
  | dot plain _ ih => rw [pieces_append_dot plain, ih]
  | underscores plain leftmost _ ih => rw [pieces_append_underscores plain leftmost, ih]

theorem isPlain_cons_of {c : Char} {cs : List Char} (hdot : c ≠ '.')
    (hunder : c = '_' → cs.head? ≠ some '_') (h : isPlain cs) : isPlain (c :: cs) := by
  simpa [isPlain, hdot, h, Decidable.imp_iff_not_or] using hunder

/-- A character that starts no separator belongs to the first name. -/
theorem Cut.extend {c : Char} {text : List Char} {names : List (List Char)}
    (hdot : c ≠ '.') (hunder : c = '_' → text.head? ≠ some '_') (h : Cut text names) :
    Cut (c :: text) (extend c names) := by
  -- what follows the character in the text follows it in the first name, if anything does
  have hname {name : List Char} {rest : List Char} (htext : text = name ++ rest) :
      c = '_' → name.head? ≠ some '_' := by
    intro hc
    have hhead := hunder hc
    cases name with
    | nil => simp
    | cons c' name => simpa [htext] using hhead
  cases h with
  | last plain => exact .last (isPlain_cons_of hdot hunder plain)
  | dot plain rest => exact .dot (isPlain_cons_of hdot (hname rfl) plain) rest
  | @underscores name text names plain leftmost rest =>
      refine .underscores (isPlain_cons_of hdot (hname rfl) plain) ?_ rest
      cases name with
      | nil =>
          intro hc
          exact hunder (Option.some.inj hc) rfl
      | cons c' name => rwa [List.getLast?_cons_cons]

theorem cut_pieces (text : List Char) : Cut text (pieces text) := by
  induction text using cutUnderscores.induct with
  | case1 => exact .last rfl
  | case2 cs ih => exact @Cut.underscores [] _ _ rfl (by simp) ih
  | case3 c cs hno ih =>
      by_cases hdot : c = '.'
      · subst hdot
        rw [pieces_dot]
        exact @Cut.dot [] _ _ rfl ih
      · have hunder := head?_ne_of_no_separator hno
        rw [pieces_cons hdot hunder]
        exact ih.extend hdot hunder

/-- The segments of a path are the names that it is cut into. -/
theorem segments_eq_iff {path : String} {names : List String} :
    segments path = names ↔ Cut path.toList (names.map String.toList) := by
  constructor
  · rintro rfl
    have hlist : (segments path).map String.toList = pieces path.toList := by
      simp [segments_eq, Function.comp_def]
    rw [hlist]
    exact cut_pieces path.toList
  · intro h
    rw [segments_eq, pieces_of_cut h]
    simp [Function.comp_def]

theorem Cut.ne_nil {text : List Char} {names : List (List Char)} (h : Cut text names) :
    names ≠ [] := by
  cases h <;> simp

theorem segments_ne_nil (path : String) : segments path ≠ [] := by
  intro h
  exact (segments_eq_iff.1 h).ne_nil rfl

/-! ## joining -/

/-- What may stand between two names. -/
inductive Separator where
  | dot
  | underscores
deriving DecidableEq

def Separator.text : Separator → String
  | dot => "."
  | underscores => "__"

/-- Names with separators between them. -/
def joined (first : String) : List (Separator × String) → String
  | [] => first
  | (separator, name) :: rest => first ++ separator.text ++ joined name rest

/-- Whether a name can be told apart from the separator after it. -/
def IsName (name : String) : Prop := isPlain name.toList ∧ name.toList.getLast? ≠ some '_'

/-- Names are what their joined text is cut into, whatever the separators. -/
theorem segments_joined {first : String} {rest : List (Separator × String)}
    (h : ∀ name ∈ first :: rest.map (·.2), IsName name) :
    segments (joined first rest) = first :: rest.map (·.2) := by
  rw [segments_eq_iff]
  induction rest generalizing first with
  | nil => exact .last (h first List.mem_cons_self).1
  | cons next rest ih =>
      obtain ⟨separator, name⟩ := next
      rw [List.map_cons, List.forall_mem_cons] at h
      obtain ⟨⟨hplain, hlast⟩, hrest⟩ := h
      have hcut := ih hrest
      rw [joined, String.toList_append, String.toList_append, List.append_assoc]
      cases separator with
      | dot => exact .dot hplain hcut
      | underscores => exact .underscores hplain hlast hcut

theorem joined_dot (first : String) (rest : List String) :
    joined first (rest.map (Separator.dot, ·)) = dotted (first :: rest) := by
  induction rest generalizing first with
  | nil => exact String.intercalate_singleton.symm
  | cons next rest ih => rw [List.map_cons, joined, ih, dotted_cons_cons, Separator.text]

end Path

theorem Column.isName_label (c : Column) : Path.IsName c.label :=
  ⟨c.isPlain_label, by cases c <;> decide⟩

theorem Relation.isName_label (r : Relation) : Path.IsName r.label :=
  ⟨r.isPlain_label, by cases r <;> decide⟩

/-! ## walking along names -/

namespace Entity

/-- What it means that names lead from a table to a column: along a chain of
relations, and then there is the name of a column, or the key is meant. -/
def Leads (e : Entity) (names : List String) (hops : List Relation) (c : Column) : Prop :=
  ∃ target, e.reach? hops = some target ∧
    ((c ∈ target.columns ∧ names = hops.map (·.label) ++ [c.label]) ∨
      (c = target.key ∧ names = hops.map (·.label)))

/-- What is wrong with a name at a table, given the names that follow. -/
inductive Offends (e : Entity) (path : String) : String → List String → PathError → Prop
  | empty {more : List String} : Offends e path "" more (.emptySegment path)
  | column {c : Column} {next : String} {more : List String} (hc : c ∈ e.columns) :
      Offends e path c.label (next :: more) (.notARelation path c.label)
  | unknown {name : String} {more : List String} (hname : name ≠ "")
      (hcolumn : ∀ c ∈ e.columns, c.label ≠ name) (hrelation : ∀ r ∈ e.relations, r.label ≠ name) :
      Offends e path name more (.unknownField e name)

/-- What it means that names lead along a chain of relations up to a name that is
wrong where it stands. -/
def Strays (e : Entity) (path : String) (names : List String) (error : PathError) : Prop :=
  ∃ hops target name more, e.reach? hops = some target ∧
    names = hops.map (·.label) ++ name :: more ∧ target.Offends path name more error

/-- Names that lead somewhere are those of the schema. -/
theorem Leads.ne_empty {e : Entity} {names : List String} {hops : List Relation} {c : Column}
    (h : e.Leads names hops c) {name : String} (hname : name ∈ names) : name ≠ "" := by
  have hlabels {name : String} (hmem : name ∈ hops.map (·.label)) : name ≠ "" := by
    obtain ⟨r, -, rfl⟩ := List.mem_map.1 hmem
    cases r <;> decide
  obtain ⟨target, -, ⟨-, rfl⟩ | ⟨-, rfl⟩⟩ := h
  · rcases List.mem_append.1 hname with hmem | hmem
    · exact hlabels hmem
    · obtain rfl := List.mem_singleton.1 hmem
      cases c <;> decide
  · exact hlabels hname

theorem Leads.cons {e : Entity} {r : Relation} {names : List String} {hops : List Relation}
    {c : Column} (hr : r ∈ e.relations) (h : r.target.Leads names hops c) :
    e.Leads (r.label :: names) (r :: hops) c := by
  obtain ⟨target, hreach, hend⟩ := h
  refine ⟨target, reach?_cons_eq_some_iff.2 ⟨hr, hreach⟩, ?_⟩
  rcases hend with ⟨hc, rfl⟩ | ⟨hc, rfl⟩
  · exact .inl ⟨hc, rfl⟩
  · exact .inr ⟨hc, rfl⟩

theorem Strays.cons {e : Entity} {path : String} {r : Relation} {names : List String}
    {error : PathError} (hr : r ∈ e.relations) (h : r.target.Strays path names error) :
    e.Strays path (r.label :: names) error := by
  obtain ⟨hops, target, name, more, hreach, rfl, hoffends⟩ := h
  exact ⟨r :: hops, target, name, more, reach?_cons_eq_some_iff.2 ⟨hr, hreach⟩, rfl, hoffends⟩

/-- One name: a relation to go on by, a column to end at, or wrong. -/
theorem relation_or_column_or_offends (e : Entity) (path name : String) (more : List String) :
    (∃ r ∈ e.relations, r.label = name) ∨ (more = [] ∧ ∃ c ∈ e.columns, c.label = name) ∨
      ∃ error, e.Offends path name more error := by
  by_cases hrelation : ∃ r ∈ e.relations, r.label = name
  · exact .inl hrelation
  by_cases hcolumn : ∃ c ∈ e.columns, c.label = name
  · cases more with
    | nil => exact .inr (.inl ⟨rfl, hcolumn⟩)
    | cons next more =>
        obtain ⟨c, hc, rfl⟩ := hcolumn
        exact .inr (.inr ⟨_, .column hc⟩)
  · by_cases hname : name = ""
    · subst hname
      exact .inr (.inr ⟨_, .empty⟩)
    · exact .inr (.inr ⟨_, .unknown hname (by simpa using hcolumn) (by simpa using hrelation)⟩)

/-- All names together: they lead somewhere or go wrong. -/
theorem leads_or_strays (e : Entity) (path : String) (names : List String) :
    (∃ hops c, e.Leads names hops c) ∨ ∃ error, e.Strays path names error := by
  induction names generalizing e with
  | nil => exact .inl ⟨[], e.key, e, rfl, .inr ⟨rfl, rfl⟩⟩
  | cons name more ih =>
      rcases e.relation_or_column_or_offends path name more with
        ⟨r, hr, rfl⟩ | ⟨rfl, c, hc, rfl⟩ | ⟨error, hoffends⟩
      · rcases ih r.target with ⟨hops, c, hleads⟩ | ⟨error, hstrays⟩
        · exact .inl ⟨_, _, hleads.cons hr⟩
        · exact .inr ⟨_, hstrays.cons hr⟩
      · exact .inl ⟨[], c, e, rfl, .inl ⟨hc, rfl⟩⟩
      · exact .inr ⟨error, [], e, name, more, rfl, rfl, hoffends⟩

/-- No column has the name of a relation. -/
theorem relation?_label_column {e : Entity} {c : Column} (h : c ∈ e.columns) :
    e.relation? c.label = none := by
  cases e <;> revert h c <;> decide

end Entity

namespace Path

open Entity

variable {path : String} {e : Entity} {names : List String} {hops : List Relation} {c : Column}
  {error : PathError}

theorem walk_of_offends {name : String} {more : List String} (h : e.Offends path name more error) :
    walk path e (name :: more) = .error error := by
  rw [walk.eq_def]
  cases h with
  | empty => rfl
  | column hc =>
      simp only [Column.isEmpty_label, column?_label hc, relation?_label_column hc,
        Bool.false_eq_true, if_false]
  | unknown hname hcolumn hrelation =>
      have hempty : name.isEmpty = false := by simpa using hname
      have hnoColumn : e.column? name = none :=
        List.find?_eq_none.2 fun c hc => by simpa using hcolumn c hc
      have hnoRelation : e.relation? name = none :=
        List.find?_eq_none.2 fun r hr => by simpa using hrelation r hr
      simp only [hempty, hnoColumn, hnoRelation, Bool.false_eq_true, if_false]

theorem walk_of_leads (h : e.Leads names hops c) : walk path e names = .ok (hops, c) := by
  obtain ⟨target, hreach, ⟨hc, rfl⟩ | ⟨rfl, rfl⟩⟩ := h
  · rw [walk_chain hreach, walk_column hc]
    simp [Except.map]
  · rw [← List.append_nil (hops.map (·.label)), walk_chain hreach]
    simp [walk, Except.map]

theorem walk_of_strays (h : e.Strays path names error) : walk path e names = .error error := by
  obtain ⟨hops, target, name, more, hreach, rfl, hoffends⟩ := h
  rw [walk_chain hreach, walk_of_offends hoffends]
  rfl

/-- Walking along names finds where they lead. -/
theorem walk_eq_ok_iff : walk path e names = .ok (hops, c) ↔ e.Leads names hops c := by
  constructor
  · intro hwalk
    rcases e.leads_or_strays path names with ⟨hops', c', hleads⟩ | ⟨error, hstrays⟩
    · rw [walk_of_leads hleads] at hwalk
      obtain ⟨rfl, rfl⟩ : hops' = hops ∧ c' = c := by simpa using hwalk
      exact hleads
    · rw [walk_of_strays hstrays] at hwalk
      contradiction
  · exact walk_of_leads

theorem walk_eq_error_iff : walk path e names = .error error ↔ e.Strays path names error := by
  constructor
  · intro hwalk
    rcases e.leads_or_strays path names with ⟨hops, c, hleads⟩ | ⟨error', hstrays⟩
    · rw [walk_of_leads hleads] at hwalk
      contradiction
    · rw [walk_of_strays hstrays] at hwalk
      rwa [← Except.error.inj hwalk]
  · exact walk_of_strays

end Path

/-! ## paths -/

namespace Entity

open Readership.Path

variable {e : Entity} {path : String}

theorem resolve_of_all_empty (h : ∀ name ∈ segments path, name = "") :
    e.resolve path = .error .empty := by
  have hall : (segments path).all (·.isEmpty) = true := by simpa using h
  rw [resolve]
  simp only [hall, if_true]

theorem resolve_of_not_empty (h : ∃ name ∈ segments path, name ≠ "") :
    e.resolve path =
      (walk path e (segments path)).map fun (hops, column) => ⟨path, hops, column⟩ := by
  have hall : (segments path).all (·.isEmpty) = false := by simpa using h
  rw [resolve]
  simp only [hall, Bool.false_eq_true, if_false]

theorem resolve_eq_ok_iff {field : FieldPath} : e.resolve path = .ok field ↔
    field.path = path ∧ e.Leads (segments path) field.hops field.column := by
  by_cases hempty : ∀ name ∈ segments path, name = ""
  · rw [resolve_of_all_empty hempty]
    obtain ⟨name, hname⟩ := List.exists_mem_of_ne_nil _ (segments_ne_nil path)
    constructor
    · intro h
      contradiction
    · rintro ⟨-, hleads⟩
      exact (hleads.ne_empty hname (hempty name hname)).elim
  · rw [resolve_of_not_empty (by simpa using hempty), map_eq_ok_iff]
    constructor
    · rintro ⟨⟨hops, c⟩, hwalk, rfl⟩
      exact ⟨rfl, walk_eq_ok_iff.1 hwalk⟩
    · rintro ⟨rfl, hleads⟩
      exact ⟨_, walk_eq_ok_iff.2 hleads, rfl⟩

theorem resolve_eq_error_iff {error : PathError} : e.resolve path = .error error ↔
    (∀ name ∈ segments path, name = "") ∧ error = .empty ∨
      (∃ name ∈ segments path, name ≠ "") ∧ e.Strays path (segments path) error := by
  by_cases hempty : ∀ name ∈ segments path, name = ""
  · have hno : ¬ ∃ name ∈ segments path, name ≠ "" := by simpa using hempty
    rw [resolve_of_all_empty hempty, Except.error.injEq, and_iff_right hempty, eq_comm]
    exact (or_iff_left fun h => hno h.1).symm
  · have hsome : ∃ name ∈ segments path, name ≠ "" := by simpa using hempty
    rw [resolve_of_not_empty hsome, and_iff_right hsome, ← walk_eq_error_iff]
    have hmap : ((walk path e (segments path)).map fun x : List Relation × Column =>
        (⟨path, x.1, x.2⟩ : FieldPath)) = .error error ↔
          walk path e (segments path) = .error error := by
      cases walk path e (segments path) <;> simp [Except.map]
    exact hmap.trans (or_iff_right fun h => hempty h.1).symm

/-- The names of a chain and of a column at its end, if any, lead along the chain,
whichever separators they are joined by. -/
theorem resolve_joined {target : Entity} {hops : List Relation}
    (hreach : e.reach? hops = some target) {last : Option Column}
    (hlast : ∀ c ∈ last, c ∈ target.columns) {first : String} {rest : List (Separator × String)}
    (hnames : first :: rest.map (·.2) = hops.map (·.label) ++ last.toList.map (·.label)) :
    e.resolve (joined first rest) = .ok ⟨joined first rest, hops, last.getD target.key⟩ := by
  have hplain : ∀ name ∈ first :: rest.map (·.2), IsName name := by
    rw [hnames]
    intro name hname
    rcases List.mem_append.1 hname with hmem | hmem
    · obtain ⟨r, -, rfl⟩ := List.mem_map.1 hmem
      exact r.isName_label
    · obtain ⟨c, -, rfl⟩ := List.mem_map.1 hmem
      exact c.isName_label
  rw [resolve_eq_ok_iff, segments_joined hplain, hnames]
  refine ⟨rfl, target, hreach, ?_⟩
  cases last with
  | none => exact .inr ⟨rfl, by simp⟩
  | some c => exact .inl ⟨hlast c rfl, rfl⟩

/-- So they do where all of them are dots. -/
theorem resolve_dotted {target : Entity} {hops : List Relation}
    (hreach : e.reach? hops = some target) (last : Option Column)
    (hlast : ∀ c ∈ last, c ∈ target.columns)
    (hne : hops.map (·.label) ++ last.toList.map (·.label) ≠ []) :
    let path := dotted (hops.map (·.label) ++ last.toList.map (·.label))
    e.resolve path = .ok ⟨path, hops, last.getD target.key⟩ := by
  intro path
  obtain ⟨first, rest, hnames⟩ := List.exists_cons_of_ne_nil hne
  have hpath : path = joined first (rest.map (Separator.dot, ·)) := by
    rw [joined_dot, ← hnames]
  rw [hpath]
  apply resolve_joined hreach hlast
  rw [hnames, List.map_map]
  exact congrArg _ (List.map_id rest)

/-- The names of a chain and of a column at its end resolve to them. -/
theorem resolve_dotted_column {target : Entity} {hops : List Relation} {c : Column}
    (h : e.reach? hops = some target) (hc : c ∈ target.columns) :
    let path := dotted (hops.map (·.label) ++ [c.label])
    e.resolve path = .ok ⟨path, hops, c⟩ :=
  resolve_dotted h (some c) (by simpa using hc) (by simp)

/-- The names of a chain resolve to it and the key of the table at its end. -/
theorem resolve_dotted_relation {target : Entity} {hops : List Relation}
    (h : e.reach? hops = some target) (hne : hops ≠ []) :
    let path := dotted (hops.map (·.label))
    e.resolve path = .ok ⟨path, hops, .id⟩ := by
  have hpath := resolve_dotted h none (by simp) (by simpa using hne)
  rwa [Option.toList_none, List.map_nil, List.append_nil] at hpath

/-- What a path resolves to is a chain of relations and a column at its end. -/
theorem reach?_of_resolve {field : FieldPath} (h : e.resolve path = .ok field) :
    ∃ target, e.reach? field.hops = some target ∧ field.column ∈ target.columns := by
  obtain ⟨-, target, hreach, ⟨hc, -⟩ | ⟨hkey, -⟩⟩ := resolve_eq_ok_iff.1 h
  · exact ⟨target, hreach, hc⟩
  · exact ⟨target, hreach, by rw [hkey]; cases target <;> decide⟩

/-- **Paths and the schema**: a path is cut into names at each dot and at each
double underscore from the left.  It resolves where these lead along relations of
the schema to a column or, at the end of a relation, to the key of its target.
Where they do not, the first name that is wrong decides the error, but for a path
without any name.  Conversely, the names of any chain of the schema, joined by
either separator at each place, resolve to that chain. -/
theorem resolve_leads_or_strays (e : Entity) :
    (∀ path names, segments path = names ↔ Cut path.toList (names.map String.toList)) ∧
    (∀ path field, e.resolve path = .ok field ↔
      field.path = path ∧ e.Leads (segments path) field.hops field.column) ∧
    (∀ path error, e.resolve path = .error error ↔
      (∀ name ∈ segments path, name = "") ∧ error = .empty ∨
        (∃ name ∈ segments path, name ≠ "") ∧ e.Strays path (segments path) error) ∧
    ∀ (hops : List Relation) (target : Entity) (last : Option Column),
      e.reach? hops = some target → (∀ c ∈ last, c ∈ target.columns) →
      ∀ (first : String) (rest : List (Separator × String)),
        first :: rest.map (·.2) = hops.map (·.label) ++ last.toList.map (·.label) →
        e.resolve (joined first rest) = .ok ⟨joined first rest, hops, last.getD target.key⟩ :=
  ⟨fun _ _ => segments_eq_iff, fun _ _ => resolve_eq_ok_iff, fun _ _ => resolve_eq_error_iff,
    fun _ _ _ hreach hlast _ _ hnames => resolve_joined hreach hlast hnames⟩

/-- Names with underscores in them, joined by both separators. -/
theorem resolve_leads_or_strays_sample :
    let rest : List (Separator × String) :=
      [(.underscores, "author"), (.dot, "viewed_blogs"), (.underscores, "viewed_at")]
    Entity.view.reach? [.blog, .author, .viewedBlogs] = some .view ∧
    (∀ c ∈ some Column.viewedAt, c ∈ Entity.view.columns) ∧
    "blog" :: rest.map (·.2) = [Relation.blog, .author, .viewedBlogs].map (·.label) ++
      (some Column.viewedAt).toList.map (·.label) ∧
    joined "blog" rest = "blog__author.viewed_blogs__viewed_at" ∧
    Entity.view.resolve (joined "blog" rest) =
      .ok ⟨joined "blog" rest, [.blog, .author, .viewedBlogs], .viewedAt⟩ := by
  intro rest
  have hreach : Entity.view.reach? [.blog, .author, .viewedBlogs] = some .view := by decide
  have hlast : ∀ c ∈ some Column.viewedAt, c ∈ Entity.view.columns := by simp [columns]
  have hnames : "blog" :: rest.map (·.2) = [Relation.blog, .author, .viewedBlogs].map (·.label) ++
      (some Column.viewedAt).toList.map (·.label) := by decide
  obtain ⟨-, -, -, hjoined⟩ := resolve_leads_or_strays .view
  exact ⟨hreach, hlast, hnames, by decide +kernel, hjoined _ _ _ hreach hlast _ _ hnames⟩

end Entity

end Readership
