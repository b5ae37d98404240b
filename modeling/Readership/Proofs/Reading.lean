/-!
# Readership.Proofs.Reading

Readings that may fail, and the faults they end with.

A reading is an `Except`.  Of a reading that is made of others one asks two
things: what it was made of when it succeeds (`map_eq_ok_iff`,
`list_eq_ok_iff`, `map_two_steps_eq_ok_iff`), and which fault it ends with when
it does not (`faultOf?_map`, `faultOf?_bind`, `faultOf?_list`).
-/

namespace Readership

section
variable {ε α β : Type}

/-- A mapped reading succeeds where the reading does. -/
theorem map_eq_ok_iff {f : α → β} {r : Except ε α} {b : β} :
    r.map f = .ok b ↔ ∃ a, r = .ok a ∧ f a = b := by
  cases r <;> simp [Except.map]

theorem mapError_eq_ok_iff {ε' : Type} {f : ε → ε'} {r : Except ε α} {a : α} :
    r.mapError f = .ok a ↔ r = .ok a := by
  cases r with
  | error e => constructor <;> (intro h; contradiction)
  | ok b =>
      constructor
      · intro h
        rw [Except.ok.inj h]
      · intro h
        rw [Except.ok.inj h]
        rfl

theorem exists_error_iff {r : Except ε α} : (∃ e, r = .error e) ↔ ¬ ∃ a, r = .ok a := by
  cases r <;> simp

/-- A reading that has one fault only ends with it where it does not succeed. -/
theorem eq_error_iff_of_forall {r : Except ε α} {fault e : ε}
    (h : ∀ e', r = .error e' → e' = fault) :
    r = .error e ↔ e = fault ∧ ¬ ∃ a, r = .ok a := by
  rw [← exists_error_iff]
  constructor
  · exact fun he => ⟨h e he, e, he⟩
  · rintro ⟨rfl, e', he'⟩
    rwa [h e' he'] at he'

theorem toOption_eq_some_iff {r : Except ε α} {a : α} : r.toOption = some a ↔ r = .ok a := by
  cases r <;> simp [Except.toOption]

/-- Reading a list item by item succeeds where reading each item does. -/
theorem list_eq_ok_iff (one : α → Except ε β) (all : List α → Except ε (List β))
    (nil : all [] = .ok [])
    (cons : ∀ a as, all (a :: as) = (one a).bind fun b => (all as).map (b :: ·))
    {as : List α} {bs : List β} : all as = .ok bs ↔ as.map one = bs.map .ok := by
  induction as generalizing bs with
  | nil => cases bs <;> simp [nil]
  | cons a as ih =>
      rw [cons, List.map_cons]
      cases one a with
      | error e => cases bs <;> simp [Except.bind]
      | ok b =>
          cases bs with
          | nil => cases all as <;> simp [Except.bind, Except.map]
          | cons b' bs =>
              rw [List.map_cons, List.cons.injEq, Except.ok.injEq, ← ih]
              cases all as <;> simp [Except.bind, Except.map]

/-- What is read in two steps, item by item, can be read with the first step for
all items before the second for all. -/
theorem map_two_steps_eq_ok_iff {ε' ε'' γ : Type} {first : α → Except ε β}
    {second : β → Except ε' γ} {both : α → Except ε'' γ} {as : List α} {cs : List γ}
    (h : ∀ a ∈ as, ∀ c, both a = .ok c ↔ ∃ b, first a = .ok b ∧ second b = .ok c) :
    as.map both = cs.map .ok ↔
      ∃ bs : List β, as.map first = bs.map .ok ∧ bs.map second = cs.map .ok := by
  induction as generalizing cs with
  | nil => cases cs <;> simp [eq_comm]
  | cons a as ih =>
      rw [List.forall_mem_cons] at h
      cases cs with
      | nil =>
          simp only [List.map_cons, List.map_nil, reduceCtorEq, false_iff, not_exists, not_and]
          intro bs hfirst hsecond
          obtain rfl := List.map_eq_nil_iff.1 hsecond
          contradiction
      | cons c cs =>
          simp only [List.map_cons, List.cons.injEq, h.1 c, ih h.2]
          constructor
          · rintro ⟨⟨b, hb, hc⟩, bs, hbs, hcs⟩
            exact ⟨b :: bs, by simp [hb, hbs], by simp [hc, hcs]⟩
          · rintro ⟨bs, hfirst, hsecond⟩
            cases bs with
            | nil => contradiction
            | cons b bs =>
                simp only [List.map_cons, List.cons.injEq] at hfirst hsecond
                exact ⟨⟨b, hfirst.1, hsecond.1⟩, bs, hfirst.2, hsecond.2⟩

/-- The fault that a reading ends with, if it ends with one. -/
def faultOf? : Except ε α → Option ε
  | .error e => some e
  | .ok _ => none

@[simp] theorem faultOf?_error (e : ε) : faultOf? (.error e : Except ε α) = some e := rfl

@[simp] theorem faultOf?_ok (a : α) : faultOf? (.ok a : Except ε α) = none := rfl

@[simp] theorem faultOf?_map (f : α → β) (r : Except ε α) : faultOf? (r.map f) = faultOf? r := by
  cases r <;> rfl

theorem faultOf?_mapError {ε' : Type} (f : ε → ε') (r : Except ε α) :
    faultOf? (r.mapError f) = (faultOf? r).map f := by
  cases r <;> rfl

/-- Of two stages the second is reached where the first has no fault, so that the
faults of the first come first. -/
theorem faultOf?_bind {r : Except ε α} {next : α → Except ε β} {fs gs : List ε}
    (hr : faultOf? r = fs.head?) (hnext : ∀ a, r = .ok a → faultOf? (next a) = gs.head?) :
    faultOf? (r.bind next) = (fs ++ gs).head? := by
  rw [List.head?_append, ← hr]
  cases r with
  | error e => rfl
  | ok a => exact hnext a rfl

/-- Reading a list item by item ends with the fault of the first item that has
one. -/
theorem faultOf?_list (one : α → Except ε β) (all : List α → Except ε (List β))
    (nil : all [] = .ok [])
    (cons : ∀ a as, all (a :: as) = (one a).bind fun b => (all as).map (b :: ·)) (as : List α) :
    faultOf? (all as) = as.findSome? fun a => faultOf? (one a) := by
  induction as with
  | nil => rw [nil, faultOf?_ok, List.findSome?_nil]
  | cons a as ih =>
      rw [cons, List.findSome?_cons, ← ih]
      cases one a with
      | error e => rfl
      | ok b => exact faultOf?_map _ _

theorem faultOf?_eq_some_iff {r : Except ε α} {e : ε} : faultOf? r = some e ↔ r = .error e := by
  cases r <;> simp

theorem faultOf?_eq_none_iff {r : Except ε α} : faultOf? r = none ↔ ∃ a, r = .ok a := by
  cases r <;> simp

/-- A reading that has one fault only ends with it exactly where it has it. -/
theorem faultOf?_eq_ite {r : Except ε α} {fault : ε} {p : Prop} [Decidable p]
    (h : ∀ e, r = .error e → e = fault) (hok : (∃ a, r = .ok a) ↔ ¬ p) :
    faultOf? r = if p then some fault else none := by
  cases r with
  | error e =>
      obtain rfl := h e rfl
      simpa using hok
  | ok a => simpa using hok

end

end Readership
