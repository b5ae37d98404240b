import Readership.Proofs.Answers

/-!
# Readership.Proofs.Parts

Reports on some of the views against the report on all of them.

What a report tells of a name or of a period is read from its rows: the counts
of the row, or none where there is no such row (`CountsFor`, `CountsIn`).  That
is one number of each kind (`CountsFor.unique`, `CountsIn.unique`).

* Grouped counts: fewer views make no count of a name greater
  (`viewsUnder_le_of_sublist`, `blogsUnder_le_of_sublist`).  Views that are
  shared out between two selections are counted once, the blogs that they are
  of once or twice (`viewsUnder_eq_add`, `blogsUnder_le_add`).
* Series: there is one exactly if the period of each view and blog is in range,
  and the one before it where it is asked for (`exists_series_iff`).  Views
  that are shared out by a key are counted once (`countIn_eq_sum_filter`).
-/

namespace Readership

open Calendar

/-- The name of a row tells the number of blogs. -/
theorem Period.label_inj {p : Date} {g : Granularity} {m n : Nat}
    (h : label p g m = label p g n) : m = n := by
  have hdigits (k : Nat) (rest : List Char) :
      (Nat.toDigits 10 k ++ ' ' :: rest).takeWhile Char.isDigit = Nat.toDigits 10 k := by
    rw [List.takeWhile_append_of_pos fun c hc =>
      Nat.isDigit_of_mem_toDigits (by decide) (by decide) hc]
    simp
  have hlabel (k : Nat) : ∃ rest, (label p g k).toList =
      (text p g).toList ++ " (".toList ++ (Nat.toDigits 10 k ++ ' ' :: rest) := by
    have hk : (toString k).toList = Nat.toDigits 10 k := by simp
    refine ⟨if k = 1 then "blog)".toList else "blogs)".toList, ?_⟩
    rw [label]
    simp only [String.toList_append, hk]
    split <;> simp
  obtain ⟨rest, hm⟩ := hlabel m
  obtain ⟨rest', hn⟩ := hlabel n
  have hsame : Nat.toDigits 10 m ++ ' ' :: rest = Nat.toDigits 10 n ++ ' ' :: rest' :=
    List.append_cancel_left (hm.symm.trans ((congrArg String.toList h).trans hn))
  have hchars : Nat.toDigits 10 m = Nat.toDigits 10 n := by
    rw [← hdigits m rest, hsame, hdigits]
  have hvalue := congrArg (Nat.ofDigitChars 10 · 0) hchars
  simpa [Nat.ofDigitChars_ten_toDigits] using hvalue

namespace Report

/-! ## counts by name -/

/-- What rows tell of a name: the numbers of blogs and of views in its row, and
none of either if there is no row of that name. -/
def CountsFor (rows : List Row) (x : String) (blogs views : Nat) : Prop :=
  match rows.find? (·.x = x) with
  | some r => r.y = .count blogs ∧ r.z = .count views
  | none => blogs = 0 ∧ views = 0

theorem CountsFor.unique {rows : List Row} {x : String} {y y' z z' : Nat}
    (h : CountsFor rows x y z) (h' : CountsFor rows x y' z') : y = y' ∧ z = z' := by
  unfold CountsFor at h h'
  cases hr : rows.find? (·.x = x) with
  | none =>
      simp only [hr] at h h'
      exact ⟨h.1.trans h'.1.symm, h.2.trans h'.2.symm⟩
  | some r =>
      simp only [hr] at h h'
      have hy := h.1.symm.trans h'.1
      have hz := h.2.symm.trans h'.2
      rw [Cell.count.injEq, Int.natCast_inj] at hy hz
      exact ⟨hy, hz⟩

section
variable {name : View → Option String} {views : List View} {names : List String} {rows : List Row}

/-- Grouped counts tell of every name how often it is counted. -/
theorem IsGrouped.countsFor (g : IsGrouped name views names rows) (x : String) :
    CountsFor rows x (blogsUnder name views x) (viewsUnder name views x) := by
  unfold CountsFor
  split
  · next r hr =>
    have hmem := List.mem_of_find?_eq_some hr
    have hx : r.x = x := by simpa using List.find?_some hr
    rw [g.rows_eq] at hmem
    obtain ⟨y, -, rfl⟩ := List.mem_map.1 hmem
    obtain rfl : y = x := hx
    exact ⟨rfl, rfl⟩
  · next hnone =>
    have hnot : x ∉ names := by
      rw [← g.map_x, List.mem_map]
      rintro ⟨r, hr, hx⟩
      exact absurd hx (by simpa using List.find?_eq_none.1 hnone r hr)
    have hviews : ∀ v ∈ views, ¬ name v = some x := fun v hv hname =>
      hnot ((g.mem_iff x).2 ⟨v, hv, hname⟩)
    have hfilter : views.filter (name · = some x) = [] := by
      rw [List.filter_eq_nil_iff]
      exact fun v hv => by simpa using hviews v hv
    rw [blogsUnder, viewsUnder, List.countP_eq_length_filter, hfilter]
    exact ⟨rfl, rfl⟩

end

section
variable {name : View → Option String} {views part : List View}

theorem viewsUnder_le_of_sublist (h : part.Sublist views) (x : String) :
    viewsUnder name part x ≤ viewsUnder name views x := h.countP_le

theorem blogsUnder_eq_card (x : String) :
    blogsUnder name views x = ((views.filter (name · = some x)).map (·.blog)).toFinset.card :=
  (List.card_toFinset _).symm

theorem blogsUnder_le_of_sublist (h : part.Sublist views) (x : String) :
    blogsUnder name part x ≤ blogsUnder name views x := by
  rw [blogsUnder_eq_card, blogsUnder_eq_card]
  refine Finset.card_le_card fun id hid => ?_
  rw [List.mem_toFinset] at hid ⊢
  exact ((h.filter _).map _).subset hid

variable (name views) (keep : View → Bool)

/-- Views are counted once where they are shared out in two. -/
theorem viewsUnder_eq_add (x : String) :
    viewsUnder name views x =
      viewsUnder name (views.filter keep) x + viewsUnder name (views.filter (! keep ·)) x := by
  have hsplit := List.countP_eq_countP_filter_add views (name · = some x) keep
  simpa [viewsUnder] using hsplit

/-- A blog is counted in the one share of the views or in the other, or in both. -/
theorem blogsUnder_le_add (x : String) :
    blogsUnder name views x ≤
      blogsUnder name (views.filter keep) x + blogsUnder name (views.filter (! keep ·)) x := by
  rw [blogsUnder_eq_card, blogsUnder_eq_card, blogsUnder_eq_card]
  refine le_trans (Finset.card_le_card ?_) (Finset.card_union_le _ _)
  intro id hid
  rw [List.mem_toFinset, List.mem_map] at hid
  obtain ⟨v, hv, rfl⟩ := hid
  rw [Finset.mem_union, List.mem_toFinset, List.mem_toFinset, List.mem_map, List.mem_map]
  obtain ⟨hmem, hname⟩ := List.mem_filter.1 hv
  cases hkeep : keep v with
  | true => exact .inl ⟨v, List.mem_filter.2 ⟨List.mem_filter.2 ⟨hmem, hkeep⟩, hname⟩, rfl⟩
  | false =>
      exact .inr ⟨v, List.mem_filter.2 ⟨List.mem_filter.2 ⟨hmem, by simp [hkeep]⟩, hname⟩, rfl⟩

end

/-! ## counts by period -/

/-- What a series tells of a period: the number of views in its row and that of
blogs in the name of the row, and none of either if there is no row of it. -/
def CountsIn (g : Granularity) (ps : List Date) (rows : List Row) (p : Date)
    (views blogs : Nat) : Prop :=
  match (ps.zip rows).lookup p with
  | some r => r.y = .count views ∧ r.x = Period.label p g blogs
  | none => views = 0 ∧ blogs = 0

theorem CountsIn.unique {g : Granularity} {ps : List Date} {rows : List Row} {p : Date}
    {n n' b b' : Nat} (h : CountsIn g ps rows p n b) (h' : CountsIn g ps rows p n' b') :
    n = n' ∧ b = b' := by
  unfold CountsIn at h h'
  cases hr : (ps.zip rows).lookup p with
  | none =>
      simp only [hr] at h h'
      exact ⟨h.1.trans h'.1.symm, h.2.trans h'.2.symm⟩
  | some r =>
      simp only [hr] at h h'
      have hn := h.1.symm.trans h'.1
      rw [Cell.count.injEq, Int.natCast_inj] at hn
      exact ⟨hn, Period.label_inj (h.2.symm.trans h'.2)⟩

section
variable {g : Granularity} {baseline : Baseline}

/-- A series tells of every period how often it is counted. -/
theorem IsSeries.countsIn {views : List View} {blogs : List Blog} {ps : List Date}
    {rows : List Row} (s : IsSeries views blogs g baseline ps rows) (p : Date) :
    CountsIn g ps rows p (viewsIn views g p) (blogsIn blogs g p) := by
  unfold CountsIn
  split
  · next r hr =>
    obtain ⟨before, after, hzip, -⟩ := List.lookup_eq_some_iff.1 hr
    have hmem : (p, r) ∈ ps.zip rows := by simp [hzip]
    obtain ⟨reference, rfl⟩ := s.exists_rowOf_of_mem_zip hmem
    exact ⟨rfl, rfl⟩
  · next hnone =>
    have hnot : p ∉ ps := by
      intro hp
      rw [← List.map_fst_zip s.length_rows.ge, List.mem_map] at hp
      obtain ⟨x, hx, rfl⟩ := hp
      simpa using List.lookup_eq_none_iff.1 hnone x hx
    exact ⟨s.viewsIn_eq_zero hnot, s.blogsIn_eq_zero hnot⟩

/-- Items that are shared out by a key are counted once. -/
theorem countIn_eq_sum_filter {α κ : Type} [DecidableEq κ] {time : α → Instant}
    (key : α → Option κ) {ks : List κ} (hnodup : ks.Nodup) {items : List α}
    (hkey : ∀ a ∈ items, ∃ k ∈ ks, key a = some k) (p : Date) :
    countIn time items g p =
      (ks.map fun k => countIn time (items.filter (key · = some k)) g p).sum := by
  let within := items.filter fun a => (Period.truncate (time a) g).toOption = some p
  have hwithin : ∀ a ∈ within, ∃ k ∈ ks, key a = some k := fun a ha =>
    hkey a (List.mem_filter.1 ha).1
  have hpart (k : κ) : countIn time (items.filter (key · = some k)) g p =
      within.countP (key · = some k) := by
    rw [countIn, List.countP_filter, List.countP_filter]
    simp only [Bool.and_comm]
  calc countIn time items g p = within.length := List.countP_eq_length_filter
    _ = (ks.map fun k => within.countP (key · = some k)).sum :=
        (sum_map_countP key hnodup hwithin).symm
    _ = (ks.map fun k => countIn time (items.filter (key · = some k)) g p).sum := by
        simp only [hpart]

/-- Items are counted once where they are shared out in two. -/
theorem countIn_eq_add {α : Type} (time : α → Instant) (items : List α) (keep : α → Bool)
    (p : Date) :
    countIn time items g p =
      countIn time (items.filter keep) g p + countIn time (items.filter (! keep ·)) g p := by
  have hsplit := List.countP_eq_countP_filter_add items
    (fun a => (Period.truncate (time a) g).toOption = some p) keep
  simpa [countIn] using hsplit

/-! ## series that are there -/

/-- What it means that the period of an instant is in range and, for a comparison
by the calendar, the one before it. -/
def InRange (g : Granularity) (baseline : Baseline) (t : Instant) : Prop :=
  ∃ p, Period.truncate t g = .ok p ∧
    (baseline = .calendar → ∃ p', Period.previous p g = .ok p')

theorem exists_seriesRows {views blogs : Groups Date Date} {ps : List Date}
    (h : baseline = .calendar → ∀ p ∈ ps, ∃ p', Period.previous p g = .ok p') (before : Nat) :
    ∃ rows, seriesRows views blogs g baseline before ps = .ok rows := by
  induction ps generalizing before with
  | nil => exact ⟨[], rfl⟩
  | cons p ps ih =>
      have href : ∃ n, reference views g baseline before p = .ok n := by
        cases baseline with
        | sequential => exact ⟨before, rfl⟩
        | calendar =>
            obtain ⟨p', hp'⟩ := h rfl p List.mem_cons_self
            exact ⟨_, by rw [reference, hp']; rfl⟩
      obtain ⟨n, hn⟩ := href
      obtain ⟨rest, hrest⟩ := ih (fun hb p' hp' => h hb p' (List.mem_cons_of_mem p hp'))
        (countOf views p)
      exact ⟨_, by rw [seriesRows, hn]; simp only [hrest]; rfl⟩

/-- There is a series exactly if the periods of all its views and blogs are in
range. -/
theorem exists_series_iff {d : Dataset} {q : ViewQuery} {blogs : List Blog} :
    (∃ rows, series d q blogs g baseline = .ok rows) ↔
      (∀ v ∈ q.rows d, InRange g baseline v.viewedAt) ∧
        ∀ b ∈ blogs, InRange g baseline b.createdAt := by
  constructor
  · rintro ⟨rows, hrows⟩
    obtain ⟨ps, s⟩ := exists_isSeries hrows
    constructor
    · intro v hv
      obtain ⟨p, hp⟩ := s.views_ok v hv
      exact ⟨p, hp, fun hb => s.previous_ok hb p ((s.mem_iff p).2 (.inl ⟨v, hv, hp⟩))⟩
    · intro b hb
      obtain ⟨p, hp⟩ := s.blogs_ok b hb
      exact ⟨p, hp, fun hc => s.previous_ok hc p ((s.mem_iff p).2 (.inr ⟨b, hb, hp⟩))⟩
  · rintro ⟨hviews, hblogs⟩
    -- the periods of both are there, and each has one before it where that is asked for
    have hperiods {α : Type} {time : α → Instant} {items : List α}
        (h : ∀ a ∈ items, InRange g baseline (time a)) :
        ∃ ps, periodsOf g (items.map time) = .ok ps ∧
          (baseline = .calendar → ∀ p ∈ ps, ∃ p', Period.previous p g = .ok p') := by
      have hok : ∀ t ∈ items.map time, ∃ p, Period.truncate t g = .ok p := by
        intro t ht
        obtain ⟨a, ha, rfl⟩ := List.mem_map.1 ht
        obtain ⟨p, hp, -⟩ := h a ha
        exact ⟨p, hp⟩
      refine ⟨_, periodsOf_eq_ok hok, fun hb p hp => ?_⟩
      obtain ⟨a, ha, hap⟩ := (mem_of_periodsOf (periodsOf_eq_ok hok) p).1 hp
      obtain ⟨p', hp', hprevious⟩ := h a ha
      obtain rfl : p' = p := Except.ok.inj (hp'.symm.trans hap)
      exact hprevious hb
    obtain ⟨vps, hvps, hvprevious⟩ := hperiods hviews
    obtain ⟨bps, hbps, hbprevious⟩ := hperiods hblogs
    simp only [series, hvps, hbps]
    refine exists_seriesRows (fun hb p hp => ?_) 0
    obtain ⟨p', hmem, hp'⟩ := (mem_keys_groupBy _ _ _).1 hp
    obtain rfl : p' = p := Option.some.inj hp'
    rcases List.mem_append.1 hmem with hv | hblog
    · exact hvprevious hb p' hv
    · exact hbprevious hb p' hblog

end

end Report

end Readership
