import Readership.Proofs.Flooring
import Readership.Proofs.Parts

/-!
# Readership.Proofs.PeriodFaults

Which periods of a series are out of range, and which of them is told.

A series computes the period of each view and then that of each blog; where the
growth is over the calendar period before, it computes that one too.
`periodFaults` lists what would begin before the first date, and the first of it
is told (`faultOf?_series`).

The periods before come last, and of these at most one is out of range, the one
before the earliest period (`Period.eq_of_fault?_eq_some`).  So it makes no
difference in which order the periods are listed, nor how often.
-/

namespace Readership

open Calendar

/-! ## periods out of range -/

namespace Period

variable {g : Granularity} {p p' : Date}

/-- What is wrong with the period of the day with number `n`, if it would begin
before the first date; the date that it is computed for is told. -/
def fault? (g : Granularity) (d : Date) (n : Int) : Option OutOfRange :=
  if startNumber g n < firstNumber then some ⟨d, g⟩ else none

theorem fault?_eq_some_iff {d : Date} {n : Int} {e : OutOfRange} :
    fault? g d n = some e ↔ startNumber g n < firstNumber ∧ e = ⟨d, g⟩ := by
  rw [fault?, Option.ite_none_right_eq_some, Option.some.injEq, eq_comm]

theorem faultOf?_truncate (t : Instant) (g : Granularity) :
    faultOf? (truncate t g) = fault? g t.date t.date.number :=
  faultOf?_eq_ite (fun _ => eq_of_truncate_eq_error) (exists_truncate_iff.trans not_lt.symm)

theorem faultOf?_previous (h : IsStart g p) :
    faultOf? (previous p g) = fault? g p (p.number - 1) :=
  faultOf?_eq_ite (fun _ => eq_of_previous_eq_error) ((exists_previous_iff h).trans not_lt.symm)

theorem toOption_truncate (t : Instant) (g : Granularity) :
    (truncate t g).toOption = Date.ofNumber? (startNumber g t.date.number) := by
  apply Option.ext
  intro p
  rw [toOption_eq_some_iff, truncate_eq_ok]

/-- A period with none before it in range is the earliest one. -/
theorem le_of_startNumber_lt (h' : IsStart g p')
    (hfirst : startNumber g (p.number - 1) < firstNumber) : p ≤ p' := by
  by_contra hlt
  rw [not_le, Date.lt_iff] at hlt
  have hstart : p'.number ≤ startNumber g (p.number - 1) := by
    rw [← isStart_iff.1 h']
    exact startNumber_mono (by omega)
  have hp' := p'.first_le
  omega

/-- So no two periods have none before them in range. -/
theorem eq_of_fault?_eq_some (h : IsStart g p) (h' : IsStart g p') {e e' : OutOfRange}
    (he : fault? g p (p.number - 1) = some e) (he' : fault? g p' (p'.number - 1) = some e') :
    e = e' := by
  obtain ⟨hfirst, rfl⟩ := fault?_eq_some_iff.1 he
  obtain ⟨hfirst', rfl⟩ := fault?_eq_some_iff.1 he'
  rw [le_antisymm (le_of_startNumber_lt h' hfirst) (le_of_startNumber_lt h hfirst')]

end Period

/-! ## the faults of a series -/

namespace Report

/-- What is wrong with the periods of some instants. -/
def truncationFaults (g : Granularity) (ts : List Instant) : List Period.OutOfRange :=
  ts.filterMap fun t => Period.fault? g t.date t.date.number

/-- The periods of some instants, as often as they occur. -/
def periodsAmong (g : Granularity) (ts : List Instant) : List Date :=
  ts.filterMap fun t => Date.ofNumber? (Period.startNumber g t.date.number)

/-- What is wrong with the periods before some others, if they are asked for. -/
def previousFaults (g : Granularity) (baseline : Baseline) (ps : List Date) :
    List Period.OutOfRange :=
  match baseline with
  | .sequential => []
  | .calendar => ps.filterMap fun p => Period.fault? g p (p.number - 1)

/-- The periods that a series cannot compute. -/
def periodFaults (views : List View) (blogs : List Blog) (g : Granularity) (baseline : Baseline) :
    List Period.OutOfRange :=
  let viewed := views.map (·.viewedAt)
  let created := blogs.map (·.createdAt)
  truncationFaults g viewed ++
    (truncationFaults g created ++ previousFaults g baseline (periodsAmong g (viewed ++ created)))

section
variable {g : Granularity} {baseline : Baseline}

theorem isStart_of_mem_periodsAmong {ts : List Instant} {p : Date} (h : p ∈ periodsAmong g ts) :
    Period.IsStart g p := by
  obtain ⟨t, -, hp⟩ := List.mem_filterMap.1 h
  exact Period.isStart_of_ofNumber? hp

/-- At most one period before is out of range, so that in which order they are
listed makes no difference. -/
theorem head?_previousFaults {ps ps' : List Date} (hps : ∀ p ∈ ps, Period.IsStart g p)
    (h : ∀ p, p ∈ ps ↔ p ∈ ps') :
    (previousFaults g baseline ps).head? = (previousFaults g baseline ps').head? := by
  cases baseline with
  | sequential => rfl
  | calendar =>
      have hsame : ∀ e ∈ previousFaults g .calendar ps, ∀ e' ∈ previousFaults g .calendar ps',
          e = e' := by
        intro e he e' he'
        obtain ⟨p, hp, hfault⟩ := List.mem_filterMap.1 he
        obtain ⟨p', hp', hfault'⟩ := List.mem_filterMap.1 he'
        exact Period.eq_of_fault?_eq_some (hps p hp) (hps p' ((h p').2 hp')) hfault hfault'
      have hmem : ∀ e, e ∈ previousFaults g .calendar ps ↔ e ∈ previousFaults g .calendar ps' := by
        simp only [previousFaults, List.mem_filterMap, h, implies_true]
      revert hsame hmem
      rcases previousFaults g .calendar ps with _ | ⟨e, es⟩ <;>
        rcases previousFaults g .calendar ps' with _ | ⟨e', es'⟩ <;> intro hsame hmem
      · rfl
      · simpa using hmem e'
      · simpa using hmem e
      · rw [List.head?_cons, List.head?_cons, hsame e List.mem_cons_self e' List.mem_cons_self]

theorem faultOf?_periodsOf (ts : List Instant) :
    faultOf? (periodsOf g ts) = (truncationFaults g ts).head? := by
  simp only [truncationFaults, List.head?_filterMap, ← Period.faultOf?_truncate]
  apply faultOf?_list (fun t => Period.truncate t g) (periodsOf g) rfl
  intro t ts
  rw [periodsOf]
  cases Period.truncate t g <;> rfl

theorem faultOf?_seriesRows (views blogs : Groups Date Date) (before : Nat) {ps : List Date}
    (hps : ∀ p ∈ ps, Period.IsStart g p) :
    faultOf? (seriesRows views blogs g baseline before ps) =
      (previousFaults g baseline ps).head? := by
  induction ps generalizing before with
  | nil => cases baseline <;> rfl
  | cons p ps ih =>
      rw [List.forall_mem_cons] at hps
      rw [seriesRows]
      cases baseline with
      | sequential => exact (faultOf?_map _ _).trans (ih _ hps.2)
      | calendar =>
          rw [reference, previousFaults, List.filterMap_cons, ← Period.faultOf?_previous hps.1]
          cases Period.previous p g with
          | error e => rfl
          | ok p' => exact (faultOf?_map _ _).trans (ih _ hps.2)

/-- Periods are computed where none is out of range. -/
theorem eq_periodsAmong_of_periodsOf {ts : List Instant} {ps : List Date}
    (h : periodsOf g ts = .ok ps) : ps = periodsAmong g ts := by
  have hid : periodsOf g (ts.map id) = .ok ps := by rwa [List.map_id]
  have hps := Except.ok.inj (h.symm.trans (periodsOf_eq_ok (exists_of_periodsOf hid)))
  simpa only [periodsAmong, ← Period.toOption_truncate] using hps

/-- A series ends with the first period that is out of range. -/
theorem faultOf?_series (d : Dataset) (q : ViewQuery) (blogs : List Blog) :
    faultOf? (series d q blogs g baseline) =
      (periodFaults (q.rows d) blogs g baseline).head? := by
  have hbind : series d q blogs g baseline =
      (periodsOf g ((q.rows d).map (·.viewedAt))).bind fun vps =>
        (periodsOf g (blogs.map (·.createdAt))).bind fun bps =>
          seriesRows (groupBy some vps) (groupBy some bps) g baseline 0
            (groupBy some (vps ++ bps)).keys := by
    rw [series]
    cases periodsOf g ((q.rows d).map (·.viewedAt)) with
    | error e => rfl
    | ok vps => cases periodsOf g (blogs.map (·.createdAt)) <;> rfl
  rw [hbind]
  refine faultOf?_bind (faultOf?_periodsOf _) fun vps hvps =>
    faultOf?_bind (faultOf?_periodsOf _) fun bps hbps => ?_
  have hperiods : vps ++ bps =
      periodsAmong g ((q.rows d).map (·.viewedAt) ++ blogs.map (·.createdAt)) := by
    rw [periodsAmong, List.filterMap_append, ← periodsAmong, ← periodsAmong,
      ← eq_periodsAmong_of_periodsOf hvps, ← eq_periodsAmong_of_periodsOf hbps]
  have hmem (p : Date) : p ∈ (groupBy some (vps ++ bps)).keys ↔
      p ∈ periodsAmong g ((q.rows d).map (·.viewedAt) ++ blogs.map (·.createdAt)) := by
    rw [mem_keys_groupBy, hperiods]
    simp
  have hstart : ∀ p ∈ (groupBy some (vps ++ bps)).keys, Period.IsStart g p :=
    fun p hp => isStart_of_mem_periodsAmong ((hmem p).1 hp)
  rw [faultOf?_seriesRows _ _ _ hstart, head?_previousFaults hstart hmem]

end

end Report

end Readership
