import Readership.Proofs.Baselines
import Readership.Proofs.InstantText
import Readership.Proofs.Parts

/-!
# Readership.Proofs.PeriodLabels

Labels tell periods apart, and in order.

A label is the text of a period, the number of its blogs and a noun.  The text
is a year and after it none, one or two numbers of two digits
(`Period.toList_label`):

* the year that is written, that of a week being the year it belongs to, and
  the numbers after it grow with the period (`Period.written_lt`), so periods of
  one length are told apart by them;
* a year is read back from its text up to a character that is no digit, with any
  sign and any number of digits (`Notation.year_yearText`), and the numbers from
  their two digits, so no other label has the same text before its first blank;
* in years of four digits, earlier periods have smaller labels, as a padded number
  is before a greater one whatever comes after them (`zeroPadded_append_lt`).
-/

namespace Readership

namespace Text

/-! ## padded numbers in order -/

section
variable {ds ds' xs ys : List Char} {width n n' : Nat}

theorem digitsValue_cons (c : Char) (ds : List Char) :
    digitsValue (c :: ds) = (c.toNat - 48) * 10 ^ ds.length + digitsValue ds := by
  rw [digitsValue_eq_ofDigitChars, Nat.ofDigitChars_cons, Nat.ofDigitChars_eq_ofDigitChars_zero,
    ← digitsValue_eq_ofDigitChars, Nat.mul_zero, Nat.zero_add, Nat.mul_comm]
  rfl

theorem digitsValue_lt (h : ∀ c ∈ ds, c.isDigit = true) : digitsValue ds < 10 ^ ds.length := by
  induction ds with
  | nil => exact Nat.one_pos
  | cons c ds ih =>
      obtain ⟨hc, hds⟩ := List.forall_mem_cons.1 h
      have hdigit := toNat_of_isDigit hc
      have hrest := ih hds
      have hfirst : (c.toNat - 48) * 10 ^ ds.length ≤ 9 * 10 ^ ds.length :=
        Nat.mul_le_mul_right _ (by omega)
      rw [digitsValue_cons, List.length_cons, Nat.pow_succ]
      omega

/-- Rows of as many digits are ordered as their values. -/
theorem lt_of_digitsValue_lt (hds : ∀ c ∈ ds, c.isDigit = true)
    (hds' : ∀ c ∈ ds', c.isDigit = true) (hlength : ds.length = ds'.length)
    (h : digitsValue ds < digitsValue ds') : ds < ds' := by
  induction ds generalizing ds' with
  | nil =>
      obtain rfl := List.length_eq_zero_iff.1 hlength.symm
      exact absurd h (lt_irrefl _)
  | cons c ds ih =>
      obtain ⟨c', ds', rfl⟩ := List.exists_cons_of_length_eq_add_one hlength.symm
      obtain ⟨hc, hrest⟩ := List.forall_mem_cons.1 hds
      obtain ⟨hc', hrest'⟩ := List.forall_mem_cons.1 hds'
      have hlengths : ds.length = ds'.length := Nat.succ.inj hlength
      have hlow := toNat_of_isDigit hc
      have hlow' := toNat_of_isDigit hc'
      rw [digitsValue_cons, digitsValue_cons, hlengths] at h
      rw [List.cons_lt_cons_iff]
      rcases lt_trichotomy c.toNat c'.toNat with hlt | heq | hgt
      · exact .inl hlt
      · rw [heq] at h
        exact .inr ⟨Char.toNat_inj.1 heq, ih hrest hrest' hlengths (by omega)⟩
      · -- a greater first digit outweighs all that follow
        have hfirst : (c'.toNat - 48 + 1) * 10 ^ ds'.length ≤ (c.toNat - 48) * 10 ^ ds'.length :=
          Nat.mul_le_mul_right _ (by omega)
        have hbound := digitsValue_lt hrest'
        rw [Nat.succ_mul] at hfirst
        omega

/-- What follows does not change the order of texts of one length. -/
theorem append_lt_append (hlength : ds.length = ds'.length) (h : ds < ds') :
    ds ++ xs < ds' ++ ys := by
  induction ds generalizing ds' with
  | nil =>
      obtain rfl := List.length_eq_zero_iff.1 hlength.symm
      exact absurd h (List.lt_irrefl _)
  | cons c ds ih =>
      obtain ⟨c', ds', rfl⟩ := List.exists_cons_of_length_eq_add_one hlength.symm
      rw [List.cons_append, List.cons_append, List.cons_lt_cons_iff]
      rcases List.cons_lt_cons_iff.1 h with hlt | ⟨heq, hrest⟩
      · exact .inl hlt
      · exact .inr ⟨heq, ih (Nat.succ.inj hlength) hrest⟩

/-- A padded number comes before a greater one, whatever follows them. -/
theorem zeroPadded_append_lt (hwidth : 0 < width) (hn' : n' < 10 ^ width) (h : n < n') :
    (zeroPadded width n).toList ++ xs < (zeroPadded width n').toList ++ ys := by
  have hlength := length_zeroPadded hwidth (h.trans hn')
  have hlength' := length_zeroPadded hwidth hn'
  apply append_lt_append (hlength.trans hlength'.symm)
  apply lt_of_digitsValue_lt (fun _ => isDigit_of_mem_zeroPadded)
    (fun _ => isDigit_of_mem_zeroPadded) (hlength.trans hlength'.symm)
  rwa [digitsValue_zeroPadded, digitsValue_zeroPadded]

/-- A padded number is told by the text it begins. -/
theorem zeroPadded_append_inj (hwidth : 0 < width) (hn : n < 10 ^ width) (hn' : n' < 10 ^ width)
    (h : (zeroPadded width n).toList ++ xs = (zeroPadded width n').toList ++ ys) :
    n = n' ∧ xs = ys := by
  have hread := Reader.digits_zeroPadded hwidth (Nat.le_refl _) hn xs
  rw [h, Reader.digits_zeroPadded hwidth (Nat.le_refl _) hn' ys] at hread
  obtain ⟨hvalue, hrest⟩ := Prod.mk.inj (Option.some.inj hread)
  exact ⟨hvalue.symm, hrest.symm⟩

end

/-! ## readers -/

namespace Reader

/-- Digits are read up to what follows them. -/
theorem digits_all_zeroPadded (width n : Nat) (hwidth : 0 < width) {rest : List Char}
    (h : ∀ c ∈ rest.head?, c.isDigit = false) :
    digits 1 ((zeroPadded width n).toList ++ rest).length
      ((zeroPadded width n).toList ++ rest) = some (n, rest) := by
  have hdigits : ∀ c ∈ (zeroPadded width n).toList, c.isDigit = true := fun _ =>
    isDigit_of_mem_zeroPadded
  have hnone : rest.takeWhile Char.isDigit = [] := by
    cases rest with
    | nil => rfl
    | cons c rest => exact List.takeWhile_cons_of_neg (by simp [h c rfl])
  have htake : ((zeroPadded width n).toList ++ rest).takeWhile Char.isDigit =
      (zeroPadded width n).toList := by
    rw [List.takeWhile_append_of_pos hdigits, hnone, List.append_nil]
  have hlength : 1 ≤ (zeroPadded width n).toList.length := by
    rw [toList_zeroPadded, List.length_append, List.length_replicate]
    omega
  simp only [digits, List.take_length, htake]
  rw [if_neg (by omega), List.drop_left' rfl, digitsValue_zeroPadded]

/-- What a reader makes of what another one reads. -/
theorem bind_pure {α β : Type} (r : Reader α) (f : α → β) (cs : List Char) :
    (r >>= fun a => pure (f a)) cs = (r cs).map fun x => (f x.1, x.2) := by
  change (r cs).bind _ = _
  cases r cs <;> rfl

end Reader

end Text

open Text

namespace Calendar

/-! ## years are read back -/

namespace Notation

variable {rest rest' : List Char}

/-- What is read after a minus is taken off zero. -/
theorem year_minus (cs : List Char) :
    year ('-' :: cs) = (Reader.digits 1 cs.length cs).map fun x => (-(x.1 : Int), x.2) := by
  rw [year, Reader.bind_eq (show Reader.next? _ = some (some '-', _) from rfl)]
  simp only
  rw [Reader.bind_eq (Reader.char_cons _ _), Reader.bind_pure]

theorem year_plus (cs : List Char) :
    year ('+' :: cs) = (Reader.digits 1 cs.length cs).map fun x => ((x.1 : Int), x.2) := by
  rw [year, Reader.bind_eq (show Reader.next? _ = some (some '+', _) from rfl)]
  simp only
  rw [Reader.bind_eq (Reader.char_cons _ _), Reader.bind_pure]

/-- A year is read back up to what follows it, whatever its sign and the number of
its digits. -/
theorem year_yearText (y : Int) (h : ∀ c ∈ rest.head?, c.isDigit = false) :
    year ((Instant.yearText y).toList ++ rest) = some (y, rest) := by
  have hread := Reader.digits_all_zeroPadded 4 y.natAbs (by decide) h
  rw [Instant.yearText]
  split
  · next hneg =>
    have hvalue : -(y.natAbs : Int) = y := by omega
    have hsign : ("-" ++ zeroPadded 4 y.natAbs).toList ++ rest =
        '-' :: ((zeroPadded 4 y.natAbs).toList ++ rest) := by simp
    rw [hsign, year_minus, hread, Option.map_some, hvalue]
  split
  · next hnonneg hlarge =>
    have hvalue : (y.natAbs : Int) = y := by omega
    have hsign : ("+" ++ zeroPadded 4 y.natAbs).toList ++ rest =
        '+' :: ((zeroPadded 4 y.natAbs).toList ++ rest) := by simp
    rw [hsign, year_plus, hread, Option.map_some, hvalue]
  · next hnonneg hsmall =>
    have hvalue : (y.natAbs : Int) = y := by omega
    rw [year_zeroPadded (by omega), hvalue]

/-- A year is told by the text it begins. -/
theorem yearText_append_inj {y y' : Int} (hrest : ∀ c ∈ rest.head?, c.isDigit = false)
    (hrest' : ∀ c ∈ rest'.head?, c.isDigit = false)
    (h : (Instant.yearText y).toList ++ rest = (Instant.yearText y').toList ++ rest') :
    y = y' ∧ rest = rest' := by
  have hread := year_yearText y hrest
  rw [h, year_yearText y' hrest'] at hread
  obtain ⟨hyear, hsame⟩ := Prod.mk.inj (Option.some.inj hread)
  exact ⟨hyear.symm, hsame.symm⟩

end Notation

end Calendar

open Calendar

namespace Period

/-! ## what is written of a period -/

/-- The year that a period is written with: of a week the one that it belongs to. -/
def writtenYear (g : Granularity) (p : Date) : Int :=
  match g with
  | .week => p.week.year
  | .day | .month | .year => p.year

/-- The numbers that are written after the year. -/
def writtenNumbers (g : Granularity) (p : Date) : List Nat :=
  match g with
  | .day => [p.civil.month, p.civil.day]
  | .week => [p.week.week]
  | .month => [p.civil.month]
  | .year => []

/-- What is written before each number. -/
def mark : Granularity → List Char
  | .week => ['-', 'W']
  | .day | .month | .year => ['-']

/-- Numbers of two digits, each after a mark. -/
def numbersText (mark : List Char) : List Nat → List Char
  | [] => []
  | n :: ns => mark ++ (zeroPadded 2 n).toList ++ numbersText mark ns

section
variable {g : Granularity} {p q : Date} {mark xs ys : List Char} {ns ns' : List Nat}

/-- A label is a year, the numbers after it and, after a blank, what is told of the
blogs. -/
theorem toList_label (p : Date) (g : Granularity) (blogs : Nat) :
    ∃ rest, (label p g blogs).toList = (Instant.yearText (writtenYear g p)).toList ++
      (numbersText (Period.mark g) (writtenNumbers g p) ++ ' ' :: rest) := by
  refine ⟨('(' :: (toString blogs).toList) ++
    (if blogs = 1 then " blog)" else " blogs)").toList, ?_⟩
  have htext : (text p g).toList = (Instant.yearText (writtenYear g p)).toList ++
      numbersText (Period.mark g) (writtenNumbers g p) := by
    cases g <;> simp [text, Instant.dateText, writtenYear, writtenNumbers, numbersText,
      Period.mark, String.toList_append] <;> rfl
  rw [label, String.toList_append, String.toList_append, String.toList_append, htext]
  simp

theorem length_writtenNumbers (g : Granularity) (p q : Date) :
    (writtenNumbers g p).length = (writtenNumbers g q).length := by
  cases g <;> rfl

/-- Months, days and weeks have two digits. -/
theorem writtenNumbers_lt (g : Granularity) (p : Date) : ∀ n ∈ writtenNumbers g p, n < 10 ^ 2 := by
  have hdate : p.civil.month < 100 ∧ p.civil.day < 100 := Civil.month_day_lt p.number
  cases g with
  | day => simpa [writtenNumbers] using hdate
  | week =>
      have hlast := dayOfYear_lt (p.number - p.weekday + 3)
      have hlength : yearLength (isLeap (yearOf (p.number - p.weekday + 3))) ≤ 366 := by
        unfold yearLength
        split <;> decide
      simp only [writtenNumbers, Date.week, dayOfYear, List.mem_singleton, forall_eq] at hlast ⊢
      omega
  | month => simpa [writtenNumbers] using hdate.1
  | year => simp [writtenNumbers]

/-- The week that begins with a Monday is numbered by its Thursday. -/
theorem week_of_isStart (h : IsStart .week p) :
    p.week = ⟨yearOf (p.number + 3),
      ((p.number + 3 - daysBeforeYear (yearOf (p.number + 3))) / 7).toNat + 1⟩ := by
  have hmonday : p.weekday = 0 := h
  simp [Date.week, hmonday]

/-- What is written grows with the period. -/
theorem written_lt (hp : IsStart g p) (hq : IsStart g q) (h : p < q) :
    writtenYear g p < writtenYear g q ∨
      writtenYear g p = writtenYear g q ∧ writtenNumbers g p < writtenNumbers g q := by
  have hcivil : p.year < q.year ∨ p.year = q.year ∧ (p.civil.month < q.civil.month ∨
      p.civil.month = q.civil.month ∧ p.civil.day < q.civil.day) :=
    Civil.lt_of_number_lt (Date.lt_iff.1 h)
  cases g with
  | day => simpa [writtenYear, writtenNumbers, List.cons_lt_cons_iff] using hcivil
  | week =>
      have hmonday : p.number % 7 = 0 := isStart_iff_beginsPeriod.1 hp
      have hmonday' : q.number % 7 = 0 := isStart_iff_beginsPeriod.1 hq
      have hlt := Date.lt_iff.1 h
      have hyear : yearOf (p.number + 3) ≤ yearOf (q.number + 3) := yearOf_mono (by omega)
      have hle := daysBeforeYear_yearOf_le (p.number + 3)
      simp only [writtenYear, writtenNumbers, week_of_isStart hp, week_of_isStart hq]
      rcases hyear.lt_or_eq with hearlier | hsame
      · exact .inl hearlier
      · -- within a year, Thursdays are whole weeks apart
        refine .inr ⟨hsame, List.cons_lt_cons_iff.2 (.inl ?_)⟩
        rw [← hsame]
        omega
  | month =>
      have hfirst : p.civil.day = 1 := hp
      have hfirst' : q.civil.day = 1 := hq
      rw [hfirst, hfirst'] at hcivil
      simpa [writtenYear, writtenNumbers, List.cons_lt_cons_iff] using hcivil
  | year =>
      obtain ⟨hmonth, hday⟩ := hp
      obtain ⟨hmonth', hday'⟩ := hq
      rw [hmonth, hmonth', hday, hday'] at hcivil
      simpa [writtenYear, writtenNumbers] using hcivil

/-- A period is told by what is written of it. -/
theorem eq_of_written (hp : IsStart g p) (hq : IsStart g q)
    (hyear : writtenYear g p = writtenYear g q)
    (hnumbers : writtenNumbers g p = writtenNumbers g q) : p = q := by
  have hnot {a b : Date} (ha : IsStart g a) (hb : IsStart g b)
      (hy : writtenYear g a = writtenYear g b)
      (hn : writtenNumbers g a = writtenNumbers g b) : ¬ a < b := by
    intro hlt
    rcases written_lt ha hb hlt with hearlier | ⟨-, hsmaller⟩
    · exact hearlier.ne hy
    · exact List.lt_irrefl _ (hn ▸ hsmaller)
  have hpq := hnot hp hq hyear hnumbers
  have hqp := hnot hq hp hyear.symm hnumbers.symm
  rw [Date.lt_iff] at hpq hqp
  exact Date.ext (by omega)

/-! ## labels -/

/-- A year ends where the numbers after it begin. -/
theorem not_isDigit_numbersText (g : Granularity) (ns : List Nat) (rest : List Char) :
    ∀ c ∈ (numbersText (Period.mark g) ns ++ ' ' :: rest).head?, c.isDigit = false := by
  cases ns with
  | nil => simp [numbersText]
  | cons n ns => cases g <;> simp [numbersText, Period.mark]

theorem numbersText_append_inj (hlength : ns.length = ns'.length) (hns : ∀ n ∈ ns, n < 10 ^ 2)
    (hns' : ∀ n ∈ ns', n < 10 ^ 2) (h : numbersText mark ns ++ xs = numbersText mark ns' ++ ys) :
    ns = ns' ∧ xs = ys := by
  induction ns generalizing ns' with
  | nil =>
      obtain rfl := List.length_eq_zero_iff.1 hlength.symm
      exact ⟨rfl, h⟩
  | cons n ns ih =>
      obtain ⟨n', ns', rfl⟩ := List.exists_cons_of_length_eq_add_one hlength.symm
      obtain ⟨hn, hrest⟩ := List.forall_mem_cons.1 hns
      obtain ⟨hn', hrest'⟩ := List.forall_mem_cons.1 hns'
      simp only [numbersText, List.append_assoc, List.append_cancel_left_eq] at h
      obtain ⟨rfl, htail⟩ := zeroPadded_append_inj (by decide) hn hn' h
      obtain ⟨rfl, hsame⟩ := ih (Nat.succ.inj hlength) hrest hrest' htail
      exact ⟨rfl, hsame⟩

theorem numbersText_append_lt (hlength : ns.length = ns'.length) (hns' : ∀ n ∈ ns', n < 10 ^ 2)
    (h : ns < ns') : numbersText mark ns ++ xs < numbersText mark ns' ++ ys := by
  induction ns generalizing ns' with
  | nil =>
      obtain rfl := List.length_eq_zero_iff.1 hlength.symm
      exact absurd h (List.lt_irrefl _)
  | cons n ns ih =>
      obtain ⟨n', ns', rfl⟩ := List.exists_cons_of_length_eq_add_one hlength.symm
      obtain ⟨hn', hrest'⟩ := List.forall_mem_cons.1 hns'
      simp only [numbersText, List.append_assoc]
      apply List.append_left_lt
      rcases List.cons_lt_cons_iff.1 h with hlt | ⟨rfl, hrest⟩
      · exact zeroPadded_append_lt (by decide) hn' hlt
      · exact List.append_left_lt (ih (Nat.succ.inj hlength) hrest' hrest)

/-- Labels of different periods, or with different numbers of blogs, differ. -/
theorem eq_of_label_eq (hp : IsStart g p) (hq : IsStart g q) {m n : Nat}
    (h : label p g m = label q g n) : p = q ∧ m = n := by
  obtain ⟨rest, hlabel⟩ := toList_label p g m
  obtain ⟨rest', hlabel'⟩ := toList_label q g n
  have hchars := hlabel.symm.trans ((congrArg String.toList h).trans hlabel')
  obtain ⟨hyear, htail⟩ := Notation.yearText_append_inj (not_isDigit_numbersText g _ rest)
    (not_isDigit_numbersText g _ rest') hchars
  obtain ⟨hnumbers, -⟩ := numbersText_append_inj (length_writtenNumbers g p q)
    (writtenNumbers_lt g p) (writtenNumbers_lt g q) htail
  obtain rfl := eq_of_written hp hq hyear hnumbers
  exact ⟨rfl, label_inj h⟩

/-- What it means that a period is written with a year of four digits. -/
def HasShortLabel (g : Granularity) (p : Date) : Prop :=
  0 ≤ writtenYear g p ∧ writtenYear g p ≤ 9999

instance (g : Granularity) (p : Date) : Decidable (HasShortLabel g p) :=
  inferInstanceAs (Decidable (0 ≤ writtenYear g p ∧ writtenYear g p ≤ 9999))

/-- Earlier periods have smaller labels, whatever the numbers of blogs. -/
theorem label_lt (hp : IsStart g p) (hq : IsStart g q) (hshort : HasShortLabel g p)
    (hshort' : HasShortLabel g q) (h : p < q) (m n : Nat) : label p g m < label q g n := by
  obtain ⟨rest, hlabel⟩ := toList_label p g m
  obtain ⟨rest', hlabel'⟩ := toList_label q g n
  obtain ⟨hlow, hhigh⟩ := hshort
  obtain ⟨hlow', hhigh'⟩ := hshort'
  rw [String.lt_iff, hlabel, hlabel', Instant.yearText_of_short hlow hhigh,
    Instant.yearText_of_short hlow' hhigh']
  rcases written_lt hp hq h with hyear | ⟨hyear, hnumbers⟩
  · exact zeroPadded_append_lt (by decide) (by omega) (by omega)
  · rw [hyear]
    exact List.append_left_lt (numbersText_append_lt (length_writtenNumbers g p q)
      (writtenNumbers_lt g q) hnumbers)

end

/-- The rows of a series have different labels. -/
theorem nodup_labels {d : Dataset} {q : ViewQuery} {blogs : List Blog} {g : Granularity}
    {baseline : Baseline} {rows : List Row}
    (h : Report.series d q blogs g baseline = .ok rows) : (rows.map (·.x)).Nodup := by
  obtain ⟨ps, s⟩ := Report.exists_isSeries h
  rw [s.map_rows (·.x) (fun p => label p g (Report.blogsIn blogs g p)) fun _ _ => rfl]
  exact s.nodup.map_on fun p hp p' hp' hsame =>
    (eq_of_label_eq (s.isStart hp) (s.isStart hp') hsame).1

/-- **Labels identify periods**: in all years, two periods of one length with any
numbers of blogs have the same label only if they are the same and the numbers are,
so no two rows of a series have the same label.  Where years are written in four
digits, an earlier period has the smaller label, whatever the numbers are. -/
theorem label_identifies (g : Granularity) :
    (∀ p q m n, IsStart g p → IsStart g q → label p g m = label q g n → p = q ∧ m = n) ∧
    (∀ d q blogs baseline rows, Report.series d q blogs g baseline = .ok rows →
      (rows.map (·.x)).Nodup) ∧
    ∀ p q m n, IsStart g p → IsStart g q → HasShortLabel g p → HasShortLabel g q → p < q →
      label p g m < label q g n :=
  ⟨fun _ _ _ _ hp hq h => eq_of_label_eq hp hq h, fun _ _ _ _ _ h => nodup_labels h,
    fun _ _ m n hp hq hshort hshort' h => label_lt hp hq hshort hshort' h m n⟩

/-- The last week of 2020, which had 53, and the first of 2021; and a series by
week. -/
theorem label_identifies_sample :
    let last : Date := ⟨737786, by decide, by decide⟩
    let first : Date := ⟨737793, by decide, by decide⟩
    let blogs := Tables.quietNewYear.blogs.toList
    let rows : List Row := [⟨"2016-W52 (1 blog)", .count 1, .label "+100.0%"⟩,
      ⟨"2017-W01 (0 blogs)", .count 1, .label "+0.0%"⟩]
    IsStart .week last ∧ IsStart .week first ∧ HasShortLabel .week last ∧
      HasShortLabel .week first ∧ last < first ∧
      label last .week 10 = "2020-W53 (10 blogs)" ∧ label first .week 2 = "2021-W01 (2 blogs)" ∧
      label last .week 10 < label first .week 2 ∧
      (label last .week 10 = label first .week 2 → last = first ∧ 10 = 2) ∧
      ∃ d, Dataset.ofTables .quietNewYear = .ok d ∧
        Report.series d .everything blogs .week .sequential = .ok rows ∧
        (rows.map (·.x)).Nodup := by
  intro last first blogs rows
  have hlast : IsStart .week last := by decide
  have hfirst : IsStart .week first := by decide
  have hshort : HasShortLabel .week last := by decide
  have hshort' : HasShortLabel .week first := by decide
  have hlt : last < first := by decide
  obtain ⟨d, hd⟩ := Dataset.exists_ofTables Tables.sound_quietNewYear
  have hviews : ViewQuery.everything.rows d = Tables.quietNewYear.views.toList := by
    rw [ViewQuery.rows_everything, Dataset.tables_of_ofTables hd]
  have hseries : Report.series d .everything blogs .week .sequential = .ok rows := by
    rw [← toOption_eq_some_iff, Report.series, hviews]
    decide +kernel
  obtain ⟨hinj, hnodup, hmono⟩ := label_identifies .week
  exact ⟨hlast, hfirst, hshort, hshort', hlt, by decide +kernel, by decide +kernel,
    hmono last first 10 2 hlast hfirst hshort hshort' hlt,
    hinj last first 10 2 hlast hfirst, d, hd, hseries,
    hnodup d .everything blogs .sequential rows hseries⟩

end Period

end Readership
