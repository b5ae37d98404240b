import Readership.Proofs.FilterFaults
import Readership.Proofs.PeriodFaults
import Readership.Proofs.Windows

/-!
# Readership.Proofs.RequestFaults

What is wrong with a request, and which of it is told.

The faults of a request are listed from its texts, stage by stage: its
parameters, its window (`windowFaults`) and its filter (`filterFaults`).  A stage
is reached where none before it has a fault, so that an answer is the first of
all faults, or rows where there is none (`DecidedBy`).

What comes after these stages cannot fail for grouped counts and rankings of a
dataset.  A series may have periods out of range; they are those of the views
and blogs that the texts ask for (`PerformanceRequest.views`,
`PerformanceRequest.blogs`), told by the tables.
-/

namespace Readership

open Calendar Text

/-! ## windows -/

namespace Calendar.Instant

/-- The day that a window is counted back from: for a leap second that of the
second after it. -/
def countedDay (t : Instant) : Int :=
  if t.nano < 1000000000 then t.date.number
  else t.date.number + ((t.second + 1) / 86400 : Nat)

theorem exists_ofParts?_iff {day : Int} {second nano : Nat}
    (hsecond : second < 86400) (hnano : nano < 1000000000) :
    (∃ t, ofParts? day second nano = some t) ↔ firstNumber ≤ day ∧ day ≤ lastNumber := by
  simp only [ofParts?_eq_some_iff]
  constructor
  · rintro ⟨t, rfl, -⟩
    exact ⟨t.date.first_le, t.date.le_last⟩
  · rintro ⟨hfirst, hlast⟩
    exact ⟨⟨⟨day, hfirst, hlast⟩, second, nano, hsecond, by omega, by omega⟩, rfl, rfl, rfl⟩

/-- An instant some days back is there unless its day comes before the first. -/
theorem exists_daysBefore?_iff (t : Instant) {n : Nat} (hn : 0 < n) :
    (∃ earlier, t.daysBefore? n = some earlier) ↔ firstNumber ≤ t.countedDay - n := by
  have hlast := t.date.le_last
  have hsecond := t.second_lt
  have hnano := t.nano_lt
  unfold daysBefore? countedDay
  split
  · next hlow =>
    rw [exists_ofParts?_iff hsecond hlow]
    omega
  · dsimp only
    rw [exists_ofParts?_iff (Nat.mod_lt _ (by decide)) (by omega)]
    omega

end Calendar.Instant

/-- The days that the text of a range asks for. -/
def rangeDays? (range : Option String) : Option Nat :=
  (range.map trim).bind fun s => List.lookup s [("week", 7), ("month", 30), ("year", 365)]

/-- What is wrong with the window that a range asks for, if it asks for one: it
would start before the first day. -/
def windowFaults (range : Option String) (now : Instant) : List AnalyticsError :=
  match rangeDays? range with
  | some n => if now.countedDay - n < firstNumber then [.windowOutOfRange] else []
  | none => []

theorem windowFaults_of_missing {range : Option String} (h : Request.given? range = none)
    (now : Instant) : windowFaults range now = [] := by
  have hdays : rangeDays? range = none := by
    rcases Request.given?_eq_none_iff.1 h with rfl | h
    · rfl
    · rw [rangeDays?, h]
      rfl
  rw [windowFaults, hdays]

theorem Analytics.faultOf?_boundsOf {range : Option String} {w : Window}
    (hrange : range.map trim = some w.name) (now : Instant) :
    faultOf? (boundsOf w now) = (windowFaults range now).head? := by
  have hdays : 0 < w.days := by cases w <;> decide
  have hasked : rangeDays? range = some w.days := by
    rw [rangeDays?, hrange]
    cases w <;> rfl
  have hiff := now.exists_daysBefore?_iff hdays
  rw [boundsOf, Window.bounds?, windowFaults, hasked]
  cases h : now.daysBefore? w.days with
  | none =>
      have hlow : now.countedDay - w.days < firstNumber := by simpa [h] using hiff
      simp [hlow]
  | some earlier =>
      have hlow : ¬ now.countedDay - w.days < firstNumber := by simpa [h] using hiff
      simp [hlow]

/-! ## requests -/

/-- What is wrong with a request for grouped counts. -/
def BlogViewsRequest.faults (r : BlogViewsRequest) (now : Instant) : List AnalyticsError :=
  (Request.faults (some .objectTypeRequired) .objectTypeUnknown
      (fun s => trim s ∈ ["country", "user"]) r.objectType).map .parameter ++
    ((Request.faults (some .rangeRequired) .rangeUnknown
      (fun s => trim s ∈ ["week", "month", "year"]) r.range).map .parameter ++
    (windowFaults r.range now ++ filterFaults r.filters))

/-- What is wrong with a request for a ranking, which may have no window. -/
def TopRequest.faults (r : TopRequest) (now : Instant) : List AnalyticsError :=
  (Request.faults (some .topRequired) .topUnknown
      (fun s => trim s ∈ ["user", "country", "blog"]) r.top).map .parameter ++
    ((Request.faults none .rangeUnknown
      (fun s => trim s ∈ ["week", "month", "year"]) r.range).map .parameter ++
    (windowFaults r.range now ++ filterFaults r.filters))

/-- What is wrong with a request for a series, which may name no author. -/
def PerformanceRequest.faults (r : PerformanceRequest) : List AnalyticsError :=
  (Request.faults (some .compareRequired) .compareUnknown
      (fun s => trim s ∈ ["day", "week", "month", "year"]) r.compare).map .parameter ++
    ((Request.faults none .userIdNotAnInteger
      (fun s => ∃ n, IsInteger s n) r.userId).map .parameter ++
    filterFaults r.filters)

/-- The length of the periods that a text asks for. -/
def granularityOf? (compare : Option String) : Option Granularity :=
  (compare.map trim).bind fun s =>
    List.lookup s [("day", .day), ("week", .week), ("month", .month), ("year", .year)]

namespace PerformanceRequest

/-- Whether a user's blogs are asked for: where no user is named, all blogs
are. -/
def AsksFor (r : PerformanceRequest) (user : Int) : Prop :=
  ∀ s ∈ r.userId, isBlankText s = true ∨ IsInteger s user

instance (r : PerformanceRequest) (user : Int) : Decidable (r.AsksFor user) :=
  inferInstanceAs (Decidable (∀ s ∈ r.userId, _ ∨ _))

/-- The views that a series is of, told by the tables: those of the blogs that are
asked for that the tree holds of. -/
def views (r : PerformanceRequest) (t : Tables) : List View :=
  (t.views.toList.zipIdx.filter fun (v, i) =>
    (t.authorOf? v).any (r.AsksFor ·) &&
      (treeOf? r.filters).all (FilterNode.satTree t ⟨.view, i⟩)).map (·.1)

def blogs (r : PerformanceRequest) (t : Tables) : List Blog :=
  t.blogs.toList.filter fun b => r.AsksFor b.author

/-- The periods out of range of the series that a request is for. -/
def periodFaults (r : PerformanceRequest) (t : Tables) (baseline : Baseline) :
    List Period.OutOfRange :=
  (granularityOf? r.compare).elim [] fun g => Report.periodFaults (r.views t) (r.blogs t) g baseline

theorem granularityOf?_eq {r : PerformanceRequest} {g : Granularity}
    (h : r.granularity = .ok g) : granularityOf? r.compare = some g := by
  rw [granularityOf?, granularity_eq_ok_iff.1 h]
  cases g <;> rfl

theorem asksFor_iff {r : PerformanceRequest} {author : Option Int} (h : r.author = .ok author)
    {user : Int} : r.AsksFor user ↔ ∀ a ∈ author, user = a := by
  cases author with
  | none =>
      have hmissing := Request.given?_eq_none_iff.1 (Request.optional_eq_none_iff.1 h)
      simp only [AsksFor, Option.mem_def, reduceCtorEq, false_implies, implies_true, iff_true]
      intro s hs
      have hblank : trim s = "" := by simpa [hs] using hmissing
      rw [← isEmpty_trim, hblank]
      exact .inl rfl
  | some a =>
      obtain ⟨t, ht, hread⟩ := Request.optional_eq_some_iff.1 h
      obtain ⟨htrim, hne⟩ := Request.given?_eq_some_iff.1 ht
      obtain ⟨s, hs, rfl⟩ := Option.map_eq_some_iff.1 htrim
      have hinteger : readInteger? (trim s) = some a := by
        rw [Request.readUserId] at hread
        split at hread <;> simp_all
      have hblank : ¬ isBlankText s = true := by
        rwa [← isEmpty_trim, String.isEmpty_iff]
      simp only [AsksFor, hs, Option.mem_def, Option.some.injEq, forall_eq', hblank,
        Bool.false_eq_true, false_or, ← readInteger?_trim_eq_some_iff, hinteger, eq_comm]

section
variable {r : PerformanceRequest} {author : Option Int} (d : Dataset)

theorem rows_selected_eq_views (h : r.author = .ok author) {f : Option RowFilter}
    (hf : Analytics.filterOf r.filters = .ok f) :
    (Analytics.selected f author).rows d = r.views d.tables := by
  have hauthor : (Analytics.selected f author).rows d =
      ((Analytics.selected f none).rows d).filter
        fun v => (d.tables.authorOf? v).any (r.AsksFor ·) := by
    cases author with
    | none =>
        rw [List.filter_eq_self.2]
        intro v hv
        obtain ⟨a, -, ha⟩ := Dataset.exists_authorOf? (ViewQuery.mem_views_of_mem_rows hv)
        simp [ha, asksFor_iff h]
    | some a =>
        rw [Analytics.rows_selected]
        apply List.filter_congr
        intro v _
        cases d.tables.authorOf? v <;> simp [asksFor_iff h]
  rw [hauthor, Analytics.rows_selected_none d hf, List.filter_map, List.filter_filter, views]
  rfl

theorem blogsBy_eq_blogs (h : r.author = .ok author) :
    Analytics.blogsBy d author = r.blogs d.tables := by
  apply List.filter_congr
  intro b _
  rw [Bool.eq_iff_iff, decide_eq_true_eq, asksFor_iff h, Option.all_eq_true]
  simp

end

end PerformanceRequest

namespace Analytics

open Report

/-- What it means that some faults decide an answer: it is the first of them, or
rows where there is none. -/
def DecidedBy (answer : Except AnalyticsError (List Row)) : List AnalyticsError → Prop
  | [] => ∃ rows, answer = .ok rows
  | e :: _ => answer = .error e

theorem decidedBy_iff {answer : Except AnalyticsError (List Row)} {faults : List AnalyticsError} :
    DecidedBy answer faults ↔ faultOf? answer = faults.head? := by
  cases faults with
  | nil => exact faultOf?_eq_none_iff.symm
  | cons e _ => exact faultOf?_eq_some_iff.symm

/-- A parameter is read before what depends on it. -/
theorem faultOf?_parameter_bind {α β : Type} {r : Except ParameterError α}
    {next : α → Except AnalyticsError β} {fs : List ParameterError} {gs : List AnalyticsError}
    (hr : faultOf? r = fs.head?) (hnext : ∀ a, r = .ok a → faultOf? (next a) = gs.head?) :
    faultOf? ((r.mapError AnalyticsError.parameter).bind next) =
      (fs.map AnalyticsError.parameter ++ gs).head? := by
  apply faultOf?_bind
  · rw [faultOf?_mapError, hr, List.head?_map]
  · intro a ha
    exact hnext a (mapError_eq_ok_iff.1 ha)

/-- A report that every selection has leaves the filter as the last stage. -/
theorem faultOf?_answer_of_exists {ε α : Type} (q : ViewQuery) {report : ViewQuery → Except ε α}
    (h : ∀ q, ∃ a, report q = .ok a) (f : ε → AnalyticsError) (filters : Option String) :
    faultOf? (answer q (fun q => (report q).mapError f) filters) =
      (filterFaults filters).head? := by
  rw [← List.append_nil (filterFaults filters)]
  apply faultOf?_answer
  intro filter _
  obtain ⟨a, ha⟩ := h (filter.elim q q.filter)
  rw [ha]
  rfl

section
variable (d : Dataset) (now : Instant)

theorem faultOf?_blogViews (r : BlogViewsRequest) :
    faultOf? (blogViews d now r) = (r.faults now).head? := by
  have hbind : blogViews d now r = (r.dimension.mapError .parameter).bind fun dimension =>
      (r.window.mapError .parameter).bind fun w => (boundsOf w now).bind fun bounds =>
        answer (windowed (some bounds))
          (fun q => (Report.groupedCounts d q dimension).mapError .missingRow) r.filters := rfl
  rw [hbind]
  apply faultOf?_parameter_bind
    (Request.faultOf?_required (fun s => faultOf?_groupDimension (trim s)) _ _)
  intro dimension _
  apply faultOf?_parameter_bind
    (Request.faultOf?_required (fun s => faultOf?_window (trim s)) _ _)
  intro w hw
  apply faultOf?_bind (faultOf?_boundsOf (BlogViewsRequest.window_eq_ok_iff.1 hw) now)
  intro bounds _
  exact faultOf?_answer_of_exists _ (exists_groupedCounts d · dimension) _ r.filters

theorem faultOf?_top (r : TopRequest) : faultOf? (top d now r) = (r.faults now).head? := by
  have hbind : top d now r = (r.dimension.mapError .parameter).bind fun dimension =>
      (r.window.mapError .parameter).bind fun window => (boundsOf? window now).bind fun bounds =>
        answer (windowed bounds)
          (fun q => (Report.top d q dimension).mapError .missingRow) r.filters := by
    simp only [top, topRows_eq_bind]
    rfl
  rw [hbind]
  apply faultOf?_parameter_bind
    (Request.faultOf?_required (fun s => faultOf?_topDimension (trim s)) _ _)
  intro dimension _
  apply faultOf?_parameter_bind
    (Request.faultOf?_optional (fun s => faultOf?_window (trim s)) _)
  intro window hw
  apply faultOf?_bind
  · cases window with
    | none =>
        rw [windowFaults_of_missing (Request.optional_eq_none_iff.1 hw)]
        rfl
    | some w =>
        have hname := TopRequest.window_eq_some_iff.1 hw
        exact (faultOf?_map _ _).trans (faultOf?_boundsOf hname now)
  intro bounds _
  exact faultOf?_answer_of_exists _ (exists_top d · dimension) _ r.filters

theorem faultOf?_performance (baseline : Baseline) (r : PerformanceRequest) :
    faultOf? (performance d baseline r) =
      (r.faults ++ (r.periodFaults d.tables baseline).map AnalyticsError.period).head? := by
  have hbind : performance d baseline r = (r.granularity.mapError .parameter).bind fun g =>
      (r.author.mapError .parameter).bind fun author =>
        answer (authored author) (fun q => (Report.series d q
          (d.tables.blogs.toList.filter fun b => author.all (b.author == ·)) g baseline).mapError
            .period) r.filters := by
    simp only [performance, performanceSeries_eq_bind]
    rfl
  rw [hbind, PerformanceRequest.faults, List.append_assoc, List.append_assoc]
  apply faultOf?_parameter_bind
    (Request.faultOf?_required (fun s => faultOf?_granularity (trim s)) _ _)
  intro g hg
  apply faultOf?_parameter_bind (Request.faultOf?_optional Request.faultOf?_readUserId _)
  intro author ha
  apply faultOf?_answer
  intro f hf
  have hviews := PerformanceRequest.rows_selected_eq_views d ha hf
  have hblogs := PerformanceRequest.blogsBy_eq_blogs d ha
  rw [Analytics.selected] at hviews
  rw [Analytics.blogsBy] at hblogs
  rw [faultOf?_mapError, faultOf?_series, hviews, hblogs, PerformanceRequest.periodFaults,
    PerformanceRequest.granularityOf?_eq hg, Option.elim_some, List.head?_map]

end

/-! ## what a client is told -/

/-- What it means that an error is the client's, who is told all of it. -/
def ToldToClient (e : AnalyticsError) : Prop :=
  e.isClientError = true ∧ e.publicMessage = e.message

theorem toldToClient_of_isClientError {e : AnalyticsError} (h : e.isClientError = true) :
    ToldToClient e := by
  rw [ToldToClient, AnalyticsError.publicMessage, if_pos h]
  exact ⟨h, rfl⟩

theorem toldToClient_of_mem_filterFaults {filters : Option String} {e : AnalyticsError}
    (h : e ∈ filterFaults filters) : ToldToClient e := by
  apply toldToClient_of_isClientError
  rcases List.mem_append.1 h with hparameter | hfilter
  · obtain ⟨cause, -, rfl⟩ := List.mem_map.1 hparameter
    rfl
  · cases htree : treeOf? filters with
    | none => simp [htree] at hfilter
    | some tree =>
        rw [htree, Option.elim_some] at hfilter
        obtain ⟨cause, -, rfl⟩ := List.mem_map.1 hfilter
        rfl

theorem eq_of_mem_windowFaults {range : Option String} {now : Instant} {e : AnalyticsError}
    (h : e ∈ windowFaults range now) : e = .windowOutOfRange := by
  unfold windowFaults at h
  split at h
  · split at h
    · exact List.mem_singleton.1 h
    · contradiction
  · contradiction

/-- A fault that is not of a parameter is among those that come after them. -/
theorem toldToClient_or_mem {fs : List ParameterError} {gs : List AnalyticsError}
    {e : AnalyticsError} (h : e ∈ fs.map AnalyticsError.parameter ++ gs) :
    ToldToClient e ∨ e ∈ gs := by
  rcases List.mem_append.1 h with hparameter | hrest
  · obtain ⟨cause, -, rfl⟩ := List.mem_map.1 hparameter
    exact .inl (toldToClient_of_isClientError rfl)
  · exact .inr hrest

/-- Of two parameters, a window and a filter only the window has a fault that the
client is not told. -/
theorem toldToClient_or_eq_windowOutOfRange {fs fs' : List ParameterError}
    {range : Option String} {now : Instant} {filters : Option String} {e : AnalyticsError}
    (h : e ∈ fs.map AnalyticsError.parameter ++ (fs'.map AnalyticsError.parameter ++
      (windowFaults range now ++ filterFaults filters))) :
    ToldToClient e ∨ e = .windowOutOfRange := by
  rcases toldToClient_or_mem h with htold | h
  · exact .inl htold
  rcases toldToClient_or_mem h with htold | h
  · exact .inl htold
  rcases List.mem_append.1 h with hwindow | hfilter
  · exact .inr (eq_of_mem_windowFaults hwindow)
  · exact .inl (toldToClient_of_mem_filterFaults hfilter)

theorem toldToClient_of_mem_faults {r : PerformanceRequest} {e : AnalyticsError}
    (h : e ∈ r.faults) : ToldToClient e := by
  rcases toldToClient_or_mem h with htold | h
  · exact htold
  rcases toldToClient_or_mem h with htold | h
  · exact htold
  · exact toldToClient_of_mem_filterFaults h

/-- **The outcome of a request**: the first of its faults in the order of the
stages, or rows where it has none.  Every fault of grouped counts and rankings is
told to the client, but for a window out of range.  A series without such a fault
may have periods out of range; then the first of them is the outcome, and the
client is told nothing of it. -/
theorem outcome_of_request (d : Dataset) (now : Instant) (baseline : Baseline) :
    (∀ r : BlogViewsRequest, DecidedBy (blogViews d now r) (r.faults now) ∧
      ∀ e ∈ r.faults now, ToldToClient e ∨ e = .windowOutOfRange) ∧
    (∀ r : TopRequest, DecidedBy (top d now r) (r.faults now) ∧
      ∀ e ∈ r.faults now, ToldToClient e ∨ e = .windowOutOfRange) ∧
    ∀ r : PerformanceRequest,
      DecidedBy (performance d baseline r)
        (r.faults ++ (r.periodFaults d.tables baseline).map AnalyticsError.period) ∧
      (∀ e ∈ r.faults, ToldToClient e) ∧
      ∀ cause, (AnalyticsError.period cause).isClientError = false ∧
        (AnalyticsError.period cause).publicMessage = "Server error" := by
  refine ⟨fun r => ⟨?_, fun e => toldToClient_or_eq_windowOutOfRange⟩,
    fun r => ⟨?_, fun e => toldToClient_or_eq_windowOutOfRange⟩,
    fun r => ⟨?_, fun e => toldToClient_of_mem_faults, fun cause => ⟨rfl, rfl⟩⟩⟩
  · exact decidedBy_iff.2 (faultOf?_blogViews d now r)
  · exact decidedBy_iff.2 (faultOf?_top d now r)
  · exact decidedBy_iff.2 (faultOf?_performance d baseline r)

/-- On the first day a week back is out of range, which is told before the filter
is looked at.  A fault of shape is told before one of typing that comes earlier in
the tree, a bad author before a bad filter, and the week of the first day last. -/
theorem outcome_of_request_sample :
    let now := Instant.midnight .first
    let notJson := some "\x7b"
    let illTyped := some "\x7b\"field\": \"viewer.bio\", \"op\": \"eq\", \"value\": 1\x7d"
    let illShaped := some ("\x7b\"and\": [\x7b\"field\": \"viewer.bio\", \"op\": \"eq\", " ++
      "\"value\": 1\x7d, \x7b\"not\": []\x7d]\x7d")
    let counts : BlogViewsRequest :=
      { objectType := some "user", range := some " week", filters := notJson }
    let ranking (filters : Option String) : TopRequest :=
      { top := some "user", range := some " ", filters := filters }
    let series : PerformanceRequest := { compare := some "day ", userId := some " +1 " }
    ∃ d, Dataset.ofTables .earliest = .ok d ∧ blogViews d now counts = .error .windowOutOfRange ∧
      top d now (ranking notJson) = .error (.parameter .filtersNotJson) ∧
      top d now (ranking illShaped) = .error (.filter (.shape (.expectedObject "array"))) ∧
      top d now (ranking illTyped) =
        .error (.filter (.typing (.typeMismatch "viewer.bio" .text "1"))) ∧
      performance d .sequential { series with userId := some "1a", filters := illTyped } =
        .error (.parameter .userIdNotAnInteger) ∧
      (∃ rows, performance d .sequential series = .ok rows) ∧
      performance d .sequential { series with compare := some "week" } =
        .error (.period ⟨.first, .week⟩) := by
  intro now notJson illTyped illShaped counts ranking series
  obtain ⟨d, hd⟩ := Dataset.exists_ofTables Tables.sound_earliest
  have htables := Dataset.tables_of_ofTables hd
  obtain ⟨hblogViews, htop, hperformance⟩ := outcome_of_request d now .sequential
  have hcounts : counts.faults now = [.windowOutOfRange, .parameter .filtersNotJson] := by
    decide +kernel
  have hnotJson : (ranking notJson).faults now = [.parameter .filtersNotJson] := by decide +kernel
  have hshape : (ranking illShaped).faults now =
      [.filter (.shape (.expectedObject "array")),
        .filter (.typing (.typeMismatch "viewer.bio" .text "1"))] := by decide +kernel
  have htyping : (ranking illTyped).faults now =
      [.filter (.typing (.typeMismatch "viewer.bio" .text "1"))] := by decide +kernel
  have hauthor : PerformanceRequest.faults { series with userId := some "1a", filters := illTyped } =
      [.parameter .userIdNotAnInteger,
        .filter (.typing (.typeMismatch "viewer.bio" .text "1"))] := by decide +kernel
  have hdays : series.faults = [] ∧ series.periodFaults .earliest .sequential = [] := by
    decide +kernel
  have hweeks : PerformanceRequest.faults { series with compare := some "week" } = [] ∧
      PerformanceRequest.periodFaults { series with compare := some "week" } .earliest
        .sequential = [⟨.first, .week⟩] := by decide +kernel
  refine ⟨d, hd, ?_, ?_, ?_, ?_, ?_, ?_, ?_⟩
  · have hdecided := (hblogViews counts).1
    rwa [hcounts] at hdecided
  · have hdecided := (htop (ranking notJson)).1
    rwa [hnotJson] at hdecided
  · have hdecided := (htop (ranking illShaped)).1
    rwa [hshape] at hdecided
  · have hdecided := (htop (ranking illTyped)).1
    rwa [htyping] at hdecided
  · have hdecided := (hperformance { series with userId := some "1a", filters := illTyped }).1
    rwa [hauthor] at hdecided
  · have hdecided := (hperformance series).1
    rwa [htables, hdays.1, hdays.2] at hdecided
  · have hdecided := (hperformance { series with compare := some "week" }).1
    rwa [htables, hweeks.1, hweeks.2] at hdecided

end Analytics

end Readership
