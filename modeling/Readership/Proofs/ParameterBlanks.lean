import Readership.Proofs.Parameters
import Readership.Proofs.StorageOrder

/-!
# Readership.Proofs.ParameterBlanks

Blanks around parameters say nothing.

Parameters that differ in blanks alone are *respaced* (`Request.Respaced`):
blanks stand around the same text, or one parameter is blank and the other one is
missing.

* These are exactly the parameters of which the same text is given
  (`Request.respaced_iff`), since trimming cuts the blanks off both ends and
  nothing else.
* A parameter is read through what is given of it, whether it has to be there or
  not (`Request.required_eq_of_respaced`, `Request.optional_eq_of_respaced`).  So
  requests with respaced parameters have the same outcome.

Users of one name and with as many views may be told in any order.  Respacing leaves
what may be answered to a request for a ranking as it is (`Analytics.MayAnswer`),
and whichever of it is told before and after, names and counts are the same row by
row (`Analytics.AnsweredAlike`).
-/

namespace Readership

open Calendar Report Text

/-! ## blanks around texts -/

namespace Text

theorem trim_append_append {before after : String} (hbefore : isBlankText before)
    (hafter : isBlankText after) (s : String) : trim (before ++ s ++ after) = trim s := by
  rw [trim, String.toList_append, String.toList_append,
    trimChars_append_right (List.all_eq_true.1 hafter),
    trimChars_append_left (List.all_eq_true.1 hbefore), trim]

/-- A text is what trimming leaves of it, with blank texts before and after. -/
theorem exists_blanks_trim (s : String) :
    ∃ before after, isBlankText before ∧ isBlankText after ∧ s = before ++ trim s ++ after := by
  obtain ⟨before, after, hbefore, hafter, hs⟩ := exists_blanks_trimChars s.toList
  refine ⟨.ofList before, .ofList after, ?_, ?_, ?_⟩
  · simpa [isBlankText] using hbefore
  · simpa [isBlankText] using hafter
  · apply String.toList_injective
    simpa [trim] using hs

end Text

/-! ## respaced parameters -/

namespace Request

/-- What it means that two parameters differ in blanks alone. -/
inductive Respaced : Option String → Option String → Prop
  /-- Blanks are added around a text or taken away. -/
  | around {before after before' after' : String} (hbefore : isBlankText before)
      (hafter : isBlankText after) (hbefore' : isBlankText before') (hafter' : isBlankText after')
      (s : String) : Respaced (some (before ++ s ++ after)) (some (before' ++ s ++ after'))
  /-- A blank text takes the place of a missing one. -/
  | filled {s : String} (h : isBlankText s) : Respaced none (some s)
  /-- A blank text is left out. -/
  | emptied {s : String} (h : isBlankText s) : Respaced (some s) none
  | missing : Respaced none none

theorem given?_some_eq_iff {s s' : String} :
    given? (some s) = given? (some s') ↔ trim s = trim s' := by
  constructor
  · intro h
    rw [given?_some, given?_some] at h
    split at h <;> split at h <;> try contradiction
    next hblank hblank' =>
      rw [← isEmpty_trim, String.isEmpty_iff] at hblank hblank'
      rw [hblank, hblank']
    next => exact Option.some.inj h
  · intro h
    rw [given?, given?, Option.map_some, Option.map_some, h]

/-- Parameters are respaced exactly if the same text is given, or none. -/
theorem respaced_iff {p p' : Option String} : Respaced p p' ↔ given? p = given? p' := by
  constructor
  · intro h
    cases h with
    | around hbefore hafter hbefore' hafter' s =>
        rw [given?_some_eq_iff, trim_append_append hbefore hafter,
          trim_append_append hbefore' hafter']
    | filled h => rw [given?_some, if_pos h]; rfl
    | emptied h => rw [given?_some, if_pos h]; rfl
    | missing => rfl
  · intro h
    have hblank {s : String} (hs : given? (some s) = none) : isBlankText s := by
      by_contra hno
      rw [given?_some, if_neg hno] at hs
      contradiction
    cases p with
    | none =>
        cases p' with
        | none => exact .missing
        | some s' => exact .filled (hblank h.symm)
    | some s =>
        cases p' with
        | none => exact .emptied (hblank h)
        | some s' =>
            obtain ⟨before, after, hbefore, hafter, hs⟩ := exists_blanks_trim s
            obtain ⟨before', after', hbefore', hafter', hs'⟩ := exists_blanks_trim s'
            have haround := Respaced.around hbefore hafter hbefore' hafter' (trim s)
            rwa [← hs, given?_some_eq_iff.1 h, ← hs'] at haround

theorem Respaced.refl (p : Option String) : Respaced p p := respaced_iff.2 rfl

theorem Respaced.padded {before after : String} (hbefore : isBlankText before)
    (hafter : isBlankText after) (s : String) :
    Respaced (some s) (some (before ++ s ++ after)) := by
  rw [respaced_iff, given?_some_eq_iff, trim_append_append hbefore hafter]

section
variable {α : Type} {p p' : Option String} (h : Respaced p p')
  (read : String → Except ParameterError α)
include h

theorem required_eq_of_respaced (missing : ParameterError) :
    required p' missing read = required p missing read := by
  rw [required, required, respaced_iff.1 h]

theorem optional_eq_of_respaced : Request.optional p' read = Request.optional p read := by
  rw [Request.optional, Request.optional, respaced_iff.1 h]

theorem loadFilters_eq_of_respaced : loadFilters p' = loadFilters p :=
  optional_eq_of_respaced h readTree

end

end Request

/-! ## requests -/

/-- What it means that requests for grouped counts differ in blanks alone. -/
structure BlogViewsRequest.Respaced (r r' : BlogViewsRequest) : Prop where
  objectType : Request.Respaced r.objectType r'.objectType
  range : Request.Respaced r.range r'.range
  filters : Request.Respaced r.filters r'.filters

/-- What it means that requests for rankings differ in blanks alone. -/
structure TopRequest.Respaced (r r' : TopRequest) : Prop where
  top : Request.Respaced r.top r'.top
  range : Request.Respaced r.range r'.range
  filters : Request.Respaced r.filters r'.filters

/-- What it means that requests for series differ in blanks alone. -/
structure PerformanceRequest.Respaced (r r' : PerformanceRequest) : Prop where
  compare : Request.Respaced r.compare r'.compare
  userId : Request.Respaced r.userId r'.userId
  filters : Request.Respaced r.filters r'.filters

/-- The ends of the window that a request for a ranking is about, if it has one. -/
def TopRequest.bounds (r : TopRequest) (now : Instant) :
    Except AnalyticsError (Option (Instant × Instant)) :=
  (r.window.mapError .parameter).bind (Analytics.boundsOf? · now)

namespace Analytics

/-- What may be answered to a request for a ranking.  Where it asks for users, those
of one name and with as many views may stand in any order. -/
def MayAnswer (d : Dataset) (now : Instant) (r : TopRequest)
    (answer : Except AnalyticsError (List Row)) : Prop :=
  match r.dimension, r.bounds now, Request.loadFilters r.filters with
  | .ok .user, .ok bounds, .ok tree => IsUserAnswer d bounds tree answer
  | _, _, _ => answer = top d now r

/-- Names and counts of an answer, without what is said beside the names. -/
def namesAndCounts (answer : Except AnalyticsError (List Row)) :
    Except AnalyticsError (List (String × Cell)) :=
  answer.map (·.map fun row => (row.x, row.z))

theorem IsUserAnswer.namesAndCounts_unique {d : Dataset} {window : Option (Instant × Instant)}
    {tree : Option Json} {answer answer' : Except AnalyticsError (List Row)}
    (h : IsUserAnswer d window tree answer) (h' : IsUserAnswer d window tree answer') :
    namesAndCounts answer = namesAndCounts answer' := by
  unfold IsUserAnswer at h h'
  cases hq : narrowed (windowed window) tree with
  | error e =>
      simp only [hq] at h h'
      rw [h, h']
  | ok q =>
      simp only [hq] at h h'
      obtain ⟨rows, rfl, htop⟩ := h
      obtain ⟨rows', rfl, htop'⟩ := h'
      simp only [namesAndCounts, Except.map, htop.map_cells_unique htop']

section
variable (d : Dataset) (now : Instant)

theorem top_eq_bind (r : TopRequest) :
    top d now r = (r.dimension.mapError .parameter).bind fun dimension =>
      (r.bounds now).bind fun bounds =>
        ((Request.loadFilters r.filters).mapError .parameter).bind fun tree =>
          topRows d dimension bounds tree := by
  rw [top, TopRequest.bounds]
  cases r.window <;> rfl

/-- What is answered is one of the possible answers. -/
theorem mayAnswer_top (r : TopRequest) : MayAnswer d now r (top d now r) := by
  unfold MayAnswer
  split
  next bounds tree hdimension hbounds htree =>
    have hanswer : top d now r = topRows d .user bounds tree := by
      rw [top_eq_bind, hdimension, hbounds, htree]
      rfl
    rw [hanswer]
    exact isUserAnswer_topRows d bounds tree
  next => rfl

variable {d now} in
/-- Whichever possible answer is told, it has the same names and counts. -/
theorem MayAnswer.namesAndCounts_unique {r : TopRequest}
    {answer answer' : Except AnalyticsError (List Row)} (h : MayAnswer d now r answer)
    (h' : MayAnswer d now r answer') : namesAndCounts answer = namesAndCounts answer' := by
  unfold MayAnswer at h h'
  split at h
  next bounds tree hdimension hbounds htree =>
    simp only [hdimension, hbounds, htree] at h'
    exact h.namesAndCounts_unique h'
  next hno =>
    split at h'
    next bounds tree hdimension hbounds htree =>
      exact absurd htree (hno bounds tree hdimension hbounds)
    next => rw [h, h']

/-! ## outcomes -/

theorem blogViews_eq_of_respaced {r r' : BlogViewsRequest} (h : r.Respaced r') :
    blogViews d now r' = blogViews d now r := by
  have hdimension : r'.dimension = r.dimension := Request.required_eq_of_respaced h.objectType _ _
  have hwindow : r'.window = r.window := Request.required_eq_of_respaced h.range _ _
  rw [blogViews, blogViews, hdimension, hwindow, Request.loadFilters_eq_of_respaced h.filters]

theorem performance_eq_of_respaced (baseline : Baseline) {r r' : PerformanceRequest}
    (h : r.Respaced r') : performance d baseline r' = performance d baseline r := by
  have hgranularity : r'.granularity = r.granularity :=
    Request.required_eq_of_respaced h.compare _ _
  have hauthor : r'.author = r.author := Request.optional_eq_of_respaced h.userId _
  rw [performance, performance, hgranularity, hauthor,
    Request.loadFilters_eq_of_respaced h.filters]

/-- What it means that two requests for rankings are answered alike.  The same answers
are possible, the one that is told is the same, and whichever is told, names and
counts are. -/
structure AnsweredAlike (r r' : TopRequest) : Prop where
  mayAnswer_iff : ∀ answer, MayAnswer d now r' answer ↔ MayAnswer d now r answer
  mayAnswer : MayAnswer d now r (top d now r)
  top_eq : top d now r' = top d now r
  namesAndCounts_eq : ∀ answer answer', MayAnswer d now r answer → MayAnswer d now r' answer' →
    namesAndCounts answer' = namesAndCounts answer

theorem answeredAlike_of_respaced {r r' : TopRequest} (h : r.Respaced r') :
    AnsweredAlike d now r r' := by
  have hdimension : r'.dimension = r.dimension := Request.required_eq_of_respaced h.top _ _
  have hbounds : r'.bounds now = r.bounds now := by
    rw [TopRequest.bounds, TopRequest.window, Request.optional_eq_of_respaced h.range]
    rfl
  have hfilters := Request.loadFilters_eq_of_respaced h.filters
  have htop : top d now r' = top d now r := by
    rw [top_eq_bind, top_eq_bind, hdimension, hbounds, hfilters]
  have hmay (answer : Except AnalyticsError (List Row)) :
      MayAnswer d now r' answer ↔ MayAnswer d now r answer := by
    rw [MayAnswer, MayAnswer, hdimension, hbounds, hfilters, htop]
  exact ⟨hmay, mayAnswer_top d now r, htop, fun answer answer' hanswer hanswer' =>
    ((hmay answer').1 hanswer').namesAndCounts_unique hanswer⟩

end

/-- **Blanks in a request say nothing**: blanks added to its parameters or taken from
them, and blank parameters in the place of missing ones or the other way round, leave
its outcome as it is, the rows or the error.  Users that rank the same may be told in
any order before and after. -/
theorem outcome_eq_of_respaced (d : Dataset) (now : Instant) (baseline : Baseline) :
    (∀ r r' : BlogViewsRequest, r.Respaced r' → blogViews d now r' = blogViews d now r) ∧
    (∀ r r' : TopRequest, r.Respaced r' → AnsweredAlike d now r r') ∧
    ∀ r r' : PerformanceRequest, r.Respaced r' →
      performance d baseline r' = performance d baseline r :=
  ⟨fun _ _ => blogViews_eq_of_respaced d now, fun _ _ => answeredAlike_of_respaced d now,
    fun _ _ => performance_eq_of_respaced d baseline⟩

/-- Blanks of several kinds, also around a filter, and a bad author that stays as bad. -/
theorem outcome_eq_of_respaced_sample :
    let now := Instant.midnight ⟨738918, by decide, by decide⟩
    let filter := "\x7b\"field\":\"blog.id\",\"op\":\"eq\",\"value\":10\x7d"
    let counts : BlogViewsRequest := { objectType := some "user", range := some "week" }
    let counts' : BlogViewsRequest :=
      { objectType := some ("\t" ++ "user" ++ "\u00a0"), range := some ("" ++ "week" ++ " \n"),
        filters := some "\u3000 " }
    let ranking : TopRequest := { top := some "user", filters := some filter }
    let ranking' : TopRequest :=
      { top := some "user", range := some "\u2028", filters := some ("\u0085" ++ filter ++ "\r\n") }
    let series : PerformanceRequest :=
      { compare := some "day", userId := some "1a", filters := some " " }
    let series' : PerformanceRequest :=
      { compare := some ("\u2003" ++ "day" ++ ""), userId := some (" " ++ "1a" ++ " ") }
    counts.Respaced counts' ∧ ranking.Respaced ranking' ∧ series.Respaced series' ∧
      ∃ d, Dataset.ofTables .sample = .ok d ∧ blogViews d now counts' = blogViews d now counts ∧
        AnsweredAlike d now ranking ranking' ∧
        performance d .calendar series' = .error (.parameter .userIdNotAnInteger) := by
  intro now filter counts counts' ranking ranking' series series'
  obtain ⟨d, hd⟩ := Dataset.exists_ofTables Tables.sound_sample
  obtain ⟨hblogViews, htop, hperformance⟩ := outcome_eq_of_respaced d now .calendar
  have hcounts : counts.Respaced counts' :=
    ⟨.padded (by decide) (by decide) _, .padded (by decide) (by decide) _, .filled (by decide)⟩
  have hranking : ranking.Respaced ranking' :=
    ⟨.refl _, .filled (by decide), .padded (by decide) (by decide) _⟩
  have hseries : series.Respaced series' :=
    ⟨.padded (by decide) (by decide) _, .padded (by decide) (by decide) _, .emptied (by decide)⟩
  have hauthor : series.author = .error .userIdNotAnInteger := by decide +kernel
  refine ⟨hcounts, hranking, hseries, d, hd, hblogViews counts counts' hcounts,
    htop ranking ranking' hranking, ?_⟩
  rw [hperformance series series' hseries, performance, hauthor]
  rfl

end Analytics

end Readership
