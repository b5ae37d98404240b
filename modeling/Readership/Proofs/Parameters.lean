import Readership.Proofs.IntegerText
import Readership.Proofs.Reading
import Readership.Request

/-!
# Readership.Proofs.Parameters

What is wrong with a parameter.

A parameter is missing where there is no text or a blank one, and else it is read
without the blanks around it (`given?_some`).  So there is at most one fault of
it, told from its text: it is missing where it has to be there, or it is not
readable (`Request.faults`).  The accessors end with that fault
(`faultOf?_required`, `faultOf?_optional`).

Where they do not, what they read is told from the text as well: windows and
granularities are named by it (`BlogViewsRequest.window_eq_ok_iff` and its like).
-/

namespace Readership

open Calendar Report Text

/-- Nothing is left of a text without its blanks exactly if it is blank. -/
theorem Text.isEmpty_trim (s : String) : (trim s).isEmpty = isBlankText s := by
  rw [Bool.eq_iff_iff, String.isEmpty_iff, isBlankText, List.all_eq_true]
  constructor
  · intro h
    have hchars : trimChars s.toList = [] := by
      simpa [trim] using congrArg String.toList h
    obtain ⟨before, after, hbefore, hafter, hs⟩ := exists_blanks_trimChars s.toList
    rw [hchars, List.append_nil] at hs
    rw [hs]
    exact fun c hc => (List.mem_append.1 hc).elim (hbefore c) (hafter c)
  · intro h
    have hstart : trimStart s.toList = [] := trimStart_eq_nil_iff.2 h
    rw [trim, trimChars, hstart]
    rfl

namespace Request

/-! ## missing parameters -/

theorem given?_some (s : String) :
    given? (some s) = if isBlankText s then none else some (trim s) := by
  rw [given?, Option.map_some, Option.filter_some, ← isEmpty_trim]
  cases (trim s).isEmpty <;> rfl

theorem given?_eq_some_iff {parameter : Option String} {t : String} :
    given? parameter = some t ↔ parameter.map trim = some t ∧ t ≠ "" := by
  rw [given?, Option.filter_eq_some_iff, Bool.not_eq_true', ← Bool.not_eq_true, String.isEmpty_iff]

theorem given?_eq_none_iff {parameter : Option String} :
    given? parameter = none ↔ parameter = none ∨ parameter.map trim = some "" := by
  cases parameter with
  | none => simp [given?]
  | some s => simp [given?, Option.filter_some]

/-! ## what is read of a parameter -/

section
variable {α : Type} {read : String → Except ParameterError α} {parameter : Option String} {a : α}

theorem required_eq_ok_iff {missing : ParameterError} :
    required parameter missing read = .ok a ↔ ∃ t, given? parameter = some t ∧ read t = .ok a := by
  rw [required]
  cases given? parameter <;> simp

theorem optional_eq_some_iff :
    Request.optional parameter read = .ok (some a) ↔
      ∃ t, given? parameter = some t ∧ read t = .ok a := by
  rw [Request.optional]
  cases given? parameter <;> simp [map_eq_ok_iff]

theorem optional_eq_none_iff :
    Request.optional parameter read = .ok none ↔ given? parameter = none := by
  rw [Request.optional]
  cases given? parameter <;> simp [map_eq_ok_iff]

/-- Where names are read, a text is read as what it is the name of. -/
theorem exists_given_iff_of_name {name : α → String} (hname : ∀ a, name a ≠ "")
    (hread : ∀ s a, read s = .ok a ↔ s = name a) :
    (∃ t, given? parameter = some t ∧ read t = .ok a) ↔ parameter.map trim = some (name a) := by
  simp only [given?_eq_some_iff, hread]
  constructor
  · rintro ⟨t, ⟨ht, -⟩, rfl⟩
    exact ht
  · exact fun ht => ⟨name a, ⟨ht, hname a⟩, rfl⟩

end

/-! ## the fault of a parameter -/

/-- What is wrong with a parameter, which may be left out if that is no
fault. -/
def faults (missing : Option ParameterError) (unreadable : ParameterError)
    (Readable : String → Prop) [DecidablePred Readable] : Option String → List ParameterError
  | none => missing.toList
  | some s =>
    if isBlankText s then missing.toList
    else if Readable s then [] else [unreadable]

section
variable {α : Type} {read : String → Except ParameterError α} {unreadable : ParameterError}
  {Readable : String → Prop} [DecidablePred Readable]
  (hread : ∀ s, faultOf? (read (trim s)) = if Readable s then none else some unreadable)
include hread

theorem faultOf?_required (missing : ParameterError) (parameter : Option String) :
    faultOf? (required parameter missing read) =
      (faults (some missing) unreadable Readable parameter).head? := by
  cases parameter with
  | none => rfl
  | some s =>
      rw [required, given?_some, faults]
      by_cases hblank : isBlankText s = true
      · simp [hblank]
      · by_cases hs : Readable s <;> simp [hblank, hs, hread]

theorem faultOf?_optional (parameter : Option String) :
    faultOf? (Request.optional parameter read) =
      (faults none unreadable Readable parameter).head? := by
  cases parameter with
  | none => rfl
  | some s =>
      rw [Request.optional, given?_some, faults]
      by_cases hblank : isBlankText s = true
      · simp [hblank]
      · by_cases hs : Readable s <;> simp [hblank, hs, hread]

end

/-! ## readable texts -/

instance (s : String) (n : Int) : Decidable (IsInteger s n) :=
  decidable_of_iff _ readInteger?_trim_eq_some_iff

instance (s : String) : Decidable (∃ n, IsInteger s n) :=
  decidable_of_iff ((readInteger? (trim s)).isSome) (by
    rw [Option.isSome_iff_exists]
    simp only [readInteger?_trim_eq_some_iff])

theorem faultOf?_readUserId (s : String) :
    faultOf? (readUserId (trim s)) =
      if ∃ n, IsInteger s n then none else some .userIdNotAnInteger := by
  rw [readUserId]
  cases hread : readInteger? (trim s) with
  | none =>
      have hno : ¬ ∃ n, IsInteger s n := by
        rintro ⟨n, hn⟩
        rw [readInteger?_trim_eq_some_iff.2 hn] at hread
        contradiction
      simp [hno]
  | some n =>
      have hsome : ∃ n, IsInteger s n := ⟨n, readInteger?_trim_eq_some_iff.1 hread⟩
      simp [hsome]

theorem faultOf?_readTree (s : String) :
    faultOf? (readTree (trim s)) =
      if (Json.read? (trim s)).isSome then none else some .filtersNotJson := by
  rw [readTree]
  cases Json.read? (trim s) <;> simp

end Request

/-- The names of dimensions, granularities and windows are read and no other
texts. -/
theorem faultOf?_groupDimension (s : String) :
    faultOf? (GroupDimension.ofName s) =
      if s ∈ ["country", "user"] then none else some .objectTypeUnknown := by
  unfold GroupDimension.ofName
  split <;> simp_all

theorem faultOf?_topDimension (s : String) :
    faultOf? (TopDimension.ofName s) =
      if s ∈ ["user", "country", "blog"] then none else some .topUnknown := by
  unfold TopDimension.ofName
  split <;> simp_all

theorem faultOf?_granularity (s : String) :
    faultOf? (Granularity.ofName s) =
      if s ∈ ["day", "week", "month", "year"] then none else some .compareUnknown := by
  unfold Granularity.ofName
  split <;> simp_all

theorem faultOf?_window (s : String) :
    faultOf? (Window.ofName s) =
      if s ∈ ["week", "month", "year"] then none else some .rangeUnknown := by
  unfold Window.ofName
  split <;> simp_all

/-! ## texts that name windows and granularities -/

/-- The text that asks for a window. -/
def Window.name : Window → String
  | week => "week"
  | month => "month"
  | year => "year"

theorem Window.ofName_eq_ok_iff (s : String) (w : Window) : ofName s = .ok w ↔ s = w.name := by
  constructor
  · unfold ofName
    split <;> intro h <;> cases h <;> rfl
  · rintro rfl
    cases w <;> rfl

theorem Granularity.ofName_eq_ok_iff (s : String) (g : Granularity) :
    ofName s = .ok g ↔ s = g.name := by
  constructor
  · unfold ofName
    split <;> intro h <;> cases h <;> rfl
  · rintro rfl
    cases g <;> rfl

theorem Window.name_ne_empty (w : Window) : w.name ≠ "" := by
  cases w <;> decide

theorem Granularity.name_ne_empty (g : Granularity) : g.name ≠ "" := by
  cases g <;> decide

theorem BlogViewsRequest.window_eq_ok_iff {r : BlogViewsRequest} {w : Window} :
    r.window = .ok w ↔ r.range.map trim = some w.name :=
  Request.required_eq_ok_iff.trans
    (Request.exists_given_iff_of_name Window.name_ne_empty Window.ofName_eq_ok_iff)

theorem TopRequest.window_eq_some_iff {r : TopRequest} {w : Window} :
    r.window = .ok (some w) ↔ r.range.map trim = some w.name :=
  Request.optional_eq_some_iff.trans
    (Request.exists_given_iff_of_name Window.name_ne_empty Window.ofName_eq_ok_iff)

theorem PerformanceRequest.granularity_eq_ok_iff {r : PerformanceRequest} {g : Granularity} :
    r.granularity = .ok g ↔ r.compare.map trim = some g.name :=
  Request.required_eq_ok_iff.trans
    (Request.exists_given_iff_of_name Granularity.name_ne_empty Granularity.ofName_eq_ok_iff)

end Readership
