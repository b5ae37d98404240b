import Readership.Proofs.StorageOrder

/-!
# Readership.Proofs.Validation

Checking a filter ahead of the requests that use it.

All requests read their filter alike: its text is decoded, and the tree is read
and typed (`filterOf`).  None of that looks at the dataset or at the views that
were selected before, and the check does nothing else (`validate_eq`).  What
comes after it in a request ends in an answer or in an internal error
(`Internal`).  So where the other parameters of a request are usable, its
client errors are those of the check (`client_error_iff`).
-/

namespace Readership

open Calendar Report

/-! ## requests whose other parameters are usable -/

/-- What it means that a request for grouped counts can be answered, but for
its filter. -/
structure BlogViewsRequest.Usable (r : BlogViewsRequest) (now : Instant) : Prop where
  dimension : ∃ dimension, r.dimension = .ok dimension
  window : ∃ w bounds, r.window = .ok w ∧ w.bounds? now = some bounds

/-- What it means that a request for a ranking can be answered, but for its
filter. -/
structure TopRequest.Usable (r : TopRequest) (now : Instant) : Prop where
  dimension : ∃ dimension, r.dimension = .ok dimension
  window : ∃ window, r.window = .ok window ∧ ∀ w ∈ window, (w.bounds? now).isSome

/-- What it means that a request for a series can be answered, but for its
filter. -/
structure PerformanceRequest.Usable (r : PerformanceRequest) : Prop where
  granularity : ∃ g, r.granularity = .ok g
  author : ∃ author, r.author = .ok author

namespace Analytics

/-! ## the filter of a request -/

/-- The filter that a tree stands for, if there is one. -/
def filterOfTree : Option Json → Except AnalyticsError (Option RowFilter)
  | none => .ok none
  | some tree => ((RowFilter.ofTree tree).mapError .filter).map some

/-- The filter that a parameter stands for, if there is one. -/
def filterOf (filters : Option String) : Except AnalyticsError (Option RowFilter) :=
  ((Request.loadFilters filters).mapError .parameter).bind filterOfTree

/-- A parameter that cannot be used as a filter is the client's fault. -/
theorem isClientError_of_filterOf {filters : Option String} {e : AnalyticsError}
    (h : filterOf filters = .error e) : e.isClientError = true := by
  unfold filterOf at h
  cases hload : Request.loadFilters filters with
  | error cause =>
      rw [hload] at h
      obtain rfl : .parameter cause = e := Except.error.inj h
      rfl
  | ok tree =>
      rw [hload] at h
      cases tree with
      | none => contradiction
      | some tree =>
          cases hread : RowFilter.ofTree tree with
          | error cause =>
              simp only [Except.mapError, Except.bind, filterOfTree, hread] at h
              obtain rfl : .filter cause = e := Except.error.inj h
              rfl
          | ok f =>
              simp only [Except.mapError, Except.bind, filterOfTree, hread] at h
              contradiction

/-- The check reads the filter and no more. -/
theorem validate_eq (filters : Option String) :
    validate filters = (filterOf filters).map fun _ => () := by
  unfold validate filterOf
  cases Request.loadFilters filters with
  | error cause => rfl
  | ok tree =>
      cases tree with
      | none => rfl
      | some tree =>
          simp only [Except.mapError, bind, Except.bind, filterOfTree]
          cases RowFilter.ofTree tree <;> rfl

/-- A selection is narrowed by the filter of a tree. -/
theorem narrowed_eq (q : ViewQuery) (tree : Option Json) :
    narrowed q tree = (filterOfTree tree).map fun f => f.elim q q.filter := by
  cases tree with
  | none => rfl
  | some tree =>
      simp only [narrowed, ViewQuery.narrow, filterOfTree]
      cases RowFilter.ofTree tree <;> rfl

/-! ## what comes after the filter -/

/-- What it means that an outcome is no error of the client. -/
def Internal {α : Type} (r : Except AnalyticsError α) : Prop :=
  ∀ e, r = .error e → e.isClientError = false

theorem internal_mapError {ε α : Type} {f : ε → AnalyticsError}
    (hf : ∀ cause, (f cause).isClientError = false) (r : Except ε α) :
    Internal (r.mapError f) := by
  intro e h
  cases r with
  | error cause =>
      obtain rfl : f cause = e := Except.error.inj h
      exact hf cause
  | ok a => contradiction

/-- The outcome of narrowing a selection by a parameter and reporting on what is
left. -/
def answer {α : Type} (q : ViewQuery) (report : ViewQuery → Except AnalyticsError α)
    (filters : Option String) : Except AnalyticsError α :=
  ((Request.loadFilters filters).mapError .parameter).bind fun tree =>
    (narrowed q tree).bind report

section
variable (filters : Option String)

/-- To narrow a selection takes the filter only. -/
theorem answer_eq {α : Type} (q : ViewQuery) (report : ViewQuery → Except AnalyticsError α) :
    answer q report filters = (filterOf filters).bind fun f => report (f.elim q q.filter) := by
  simp only [answer, narrowed_eq, filterOf]
  cases Request.loadFilters filters with
  | error cause => rfl
  | ok tree =>
      simp only [Except.mapError, Except.bind]
      cases filterOfTree tree <;> rfl

/-- Whatever is selected and reported on, the client errors are those of the
check. -/
theorem client_error_iff {α : Type} (q : ViewQuery) {report : ViewQuery → Except AnalyticsError α}
    (hreport : ∀ q, Internal (report q)) (e : AnalyticsError) :
    validate filters = .error e ↔ answer q report filters = .error e ∧ e.isClientError = true := by
  rw [validate_eq, answer_eq]
  cases hf : filterOf filters with
  | error cause =>
      simp only [Except.map, Except.bind, Except.error.injEq]
      constructor
      · rintro rfl
        exact ⟨rfl, isClientError_of_filterOf hf⟩
      · exact And.left
  | ok f =>
      simp only [Except.map, Except.bind, reduceCtorEq, false_iff, not_and]
      intro h
      rw [hreport _ e h]
      exact Bool.false_ne_true

/-- Where a parameter holds a tree, the check finds the fault of its shape. -/
theorem validate_eq_shape_iff {tree : Option Json}
    (h : Request.loadFilters filters = .ok tree) (fault : StructureError) :
    StructureError.check tree = .error fault ↔
      validate filters = .error (.filter (.shape fault)) := by
  rw [validate_eq, filterOf, h]
  cases tree with
  | none => simp [StructureError.check, Except.mapError, Except.bind, filterOfTree, Except.map]
  | some tree =>
      simp only [StructureError.check, Except.mapError, Except.bind, filterOfTree, RowFilter.ofTree]
      cases Predicate.ofTree tree with
      | error cause => simp [Except.map]
      | ok p => cases hp : p.toRowFilter <;> simp [Except.map, hp]

end

/-! ## the three requests -/

section
variable (d : Dataset) {now : Instant} (filters : Option String)

theorem blogViews_eq_answer {r : BlogViewsRequest} {dimension : GroupDimension} {w : Window}
    {bounds : Instant × Instant} (hdimension : r.dimension = .ok dimension)
    (hwindow : r.window = .ok w) (hbounds : w.bounds? now = some bounds) :
    blogViews d now { r with filters := filters } =
      answer (windowed (some bounds))
        (fun q => (Report.groupedCounts d q dimension).mapError .missingRow) filters := by
  have hdimension' : BlogViewsRequest.dimension { r with filters := filters } = .ok dimension :=
    hdimension
  have hwindow' : BlogViewsRequest.window { r with filters := filters } = .ok w := hwindow
  have hboundsOf : boundsOf w now = .ok bounds := by rw [boundsOf, hbounds]
  simp only [blogViews, hdimension', hwindow', Except.mapError, bind, Except.bind, hboundsOf]
  rfl

theorem top_eq_answer {r : TopRequest} {dimension : TopDimension} {window : Option Window}
    {bounds : Option (Instant × Instant)} (hdimension : r.dimension = .ok dimension)
    (hwindow : r.window = .ok window) (hbounds : boundsOf? window now = .ok bounds) :
    top d now { r with filters := filters } =
      answer (windowed bounds)
        (fun q => (Report.top d q dimension).mapError .missingRow) filters := by
  have hdimension' : TopRequest.dimension { r with filters := filters } = .ok dimension :=
    hdimension
  have hwindow' : TopRequest.window { r with filters := filters } = .ok window := hwindow
  simp only [top, hdimension', hwindow', Except.mapError, bind, Except.bind, hbounds]
  simp only [topRows_eq_bind]
  rfl

theorem performance_eq_answer (baseline : Baseline) {r : PerformanceRequest} {g : Granularity}
    {author : Option Int} (hgranularity : r.granularity = .ok g) (hauthor : r.author = .ok author) :
    performance d baseline { r with filters := filters } =
      answer (authored author) (fun q => (Report.series d q
        (d.tables.blogs.toList.filter fun b => author.all (b.author == ·)) g baseline).mapError
          .period) filters := by
  have hgranularity' : PerformanceRequest.granularity { r with filters := filters } = .ok g :=
    hgranularity
  have hauthor' : PerformanceRequest.author { r with filters := filters } = .ok author := hauthor
  simp only [performance, hgranularity', hauthor', answer, ← performanceSeries_eq_bind]
  rfl

end

/-- The ends of a usable window can be told. -/
theorem exists_boundsOf? {window : Option Window} {now : Instant}
    (h : ∀ w ∈ window, (w.bounds? now).isSome) : ∃ bounds, boundsOf? window now = .ok bounds := by
  cases window with
  | none => exact ⟨none, rfl⟩
  | some w =>
      obtain ⟨bounds, hbounds⟩ := Option.isSome_iff_exists.1 (h w rfl)
      exact ⟨some bounds, by rw [boundsOf?, boundsOf, hbounds]; rfl⟩

/-- **Checking a filter tells how requests with it fail**: whatever the dataset,
and as long as the other parameters are usable, each request ends in a client
error exactly where the check does, and in the same one.  Where the parameter
holds a tree or none, it is a fault of shape exactly if the tree has one by
itself. -/
theorem validate_eq_client_error (d : Dataset) (now : Instant) (baseline : Baseline)
    {blogViewsRequest : BlogViewsRequest} (hblogViews : blogViewsRequest.Usable now)
    {topRequest : TopRequest} (htop : topRequest.Usable now)
    {performanceRequest : PerformanceRequest} (hperformance : performanceRequest.Usable)
    (filters : Option String) :
    (∀ e, validate filters = .error e ↔
      blogViews d now { blogViewsRequest with filters := filters } = .error e ∧
        e.isClientError = true) ∧
    (∀ e, validate filters = .error e ↔
      top d now { topRequest with filters := filters } = .error e ∧ e.isClientError = true) ∧
    (∀ e, validate filters = .error e ↔
      performance d baseline { performanceRequest with filters := filters } = .error e ∧
        e.isClientError = true) ∧
    ∀ tree, Request.loadFilters filters = .ok tree → ∀ fault,
      StructureError.check tree = .error fault ↔
        validate filters = .error (.filter (.shape fault)) := by
  refine ⟨fun e => ?_, fun e => ?_, fun e => ?_, fun tree => validate_eq_shape_iff filters⟩
  · obtain ⟨dimension, hdimension⟩ := hblogViews.dimension
    obtain ⟨w, bounds, hwindow, hbounds⟩ := hblogViews.window
    rw [blogViews_eq_answer d filters hdimension hwindow hbounds]
    exact client_error_iff filters _ (fun q => internal_mapError (fun _ => rfl) _) e
  · obtain ⟨dimension, hdimension⟩ := htop.dimension
    obtain ⟨window, hwindow, hspan⟩ := htop.window
    obtain ⟨bounds, hbounds⟩ := exists_boundsOf? hspan
    rw [top_eq_answer d filters hdimension hwindow hbounds]
    exact client_error_iff filters _ (fun q => internal_mapError (fun _ => rfl) _) e
  · obtain ⟨g, hgranularity⟩ := hperformance.granularity
    obtain ⟨author, hauthor⟩ := hperformance.author
    rw [performance_eq_answer d filters baseline hgranularity hauthor]
    exact client_error_iff filters _ (fun q => internal_mapError (fun _ => rfl) _) e

/-- Of two faults the one of shape is told, though a condition before it does
not fit its field. -/
theorem validate_eq_client_error_sample :
    let now := Instant.midnight ⟨738916, by decide, by decide⟩
    let blogViewsRequest : BlogViewsRequest := { objectType := some "user", range := some " week " }
    let topRequest : TopRequest := { top := some "blog" }
    let performanceRequest : PerformanceRequest := { compare := some "month", userId := some "1" }
    let filters := some (" \x7b\"and\": [\x7b\"field\": \"viewer.bio\", \"op\": \"eq\", " ++
      "\"value\": 1\x7d, \x7b\"not\": []\x7d]\x7d")
    let e : AnalyticsError := .filter (.shape (.expectedObject "array"))
    blogViewsRequest.Usable now ∧ topRequest.Usable now ∧ performanceRequest.Usable ∧
    ∃ d, Dataset.ofTables .sample = .ok d ∧ validate filters = .error e ∧
      blogViews d now { blogViewsRequest with filters := filters } = .error e ∧
      top d now { topRequest with filters := filters } = .error e ∧
      performance d .calendar { performanceRequest with filters := filters } = .error e := by
  intro now blogViewsRequest topRequest performanceRequest filters e
  obtain ⟨d, hd⟩ := Dataset.exists_ofTables Tables.sound_sample
  have hblogViews : blogViewsRequest.Usable now := by
    obtain ⟨bounds, hbounds⟩ : ∃ bounds, Window.week.bounds? now = some bounds :=
      Option.isSome_iff_exists.1 (by decide +kernel)
    exact ⟨⟨.user, by decide +kernel⟩, .week, bounds, by decide +kernel, hbounds⟩
  have htop : topRequest.Usable now :=
    ⟨⟨.blog, by decide +kernel⟩, none, by decide +kernel, by simp⟩
  have hperformance : performanceRequest.Usable :=
    ⟨⟨.month, by decide +kernel⟩, some 1, by decide +kernel⟩
  have hvalidate : validate filters = .error e := by
    rw [← faultOf?_eq_some_iff]
    decide +kernel
  obtain ⟨hb, ht, hp, -⟩ := validate_eq_client_error d now .calendar hblogViews htop hperformance
    filters
  exact ⟨hblogViews, htop, hperformance, d, hd, hvalidate, ((hb e).1 hvalidate).1,
    ((ht e).1 hvalidate).1, ((hp e).1 hvalidate).1⟩

end Analytics

end Readership
