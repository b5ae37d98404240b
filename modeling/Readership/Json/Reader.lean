import Readership.Json.Basic

/-!
# Readership.Json.Reader

Reading JSON text.

`Json.read?` accepts a single value with nothing but blanks around it.  Blanks are the four that
JSON knows (`isGap`).  Arrays and objects may stand in each other up to `maxDepth` levels.

Each step answers with what it read and with the text after it, together with a proof that this
text is shorter (`Taken`), so a list of items ends.  Nesting is bounded by the levels that are
left, on which `readValue` recurses.
-/

namespace Readership.Json

open Text

/-- What was read off the front of a text. -/
structure Taken (α : Type) (s : List Char) where
  value : α
  rest : List Char
  shorter : rest.length < s.length

namespace Taken

variable {α β : Type} {s t : List Char}

/-- The same text read, with another value. -/
def map (f : α → β) (x : Taken α s) : Taken β s := ⟨f x.value, x.rest, x.shorter⟩

/-- What was read off a part of a text was read off the text. -/
def weaken (x : Taken α t) (h : t.length ≤ s.length) : Taken α s :=
  ⟨x.value, x.rest, Nat.lt_of_lt_of_le x.shorter h⟩

/-- What was read after a character. -/
def after (c : Char) (x : Taken α s) : Taken α (c :: s) := x.weaken (Nat.le_succ _)

/-- What was read after something else. -/
def next (x : Taken α s) (y : Taken β x.rest) : Taken β s := y.weaken (Nat.le_of_lt x.shorter)

end Taken

/-! ## blanks and words -/

/-- A blank between tokens. -/
def isGap (c : Char) : Bool := c == ' ' || c == '\t' || c == '\n' || c == '\r'

/-- A text from its first character that is no blank. -/
def skipGaps (s : List Char) : List Char := s.dropWhile isGap

theorem length_skipGaps_le (s : List Char) : (skipGaps s).length ≤ s.length :=
  (List.dropWhile_sublist isGap).length_le

def afterGaps {α : Type} (s : List Char) (read : (t : List Char) → Option (Taken α t)) :
    Option (Taken α s) :=
  (read (skipGaps s)).map (·.weaken (length_skipGaps_le s))

/-- Takes the rest of a word, its first letter read already. -/
def readWord {α : Type} (value : α) : (w : List Char) → (c : Char) → (s : List Char) →
    Option (Taken α (c :: s))
  | [], _, s => some ⟨value, s, by simp⟩
  | _ :: _, _, [] => none
  | w :: ws, _, d :: s =>
    if d = w then (readWord value ws d s).map (·.after _) else none

/-! ## strings -/

/-- The value of a hexadecimal digit in either case. -/
def hexValue? (c : Char) : Option Nat :=
  if '0' ≤ c && c ≤ '9' then some (c.toNat - '0'.toNat)
  else if 'a' ≤ c && c ≤ 'f' then some (c.toNat - 'a'.toNat + 10)
  else if 'A' ≤ c && c ≤ 'F' then some (c.toNat - 'A'.toNat + 10)
  else none

/-- The number that four hexadecimal digits stand for. -/
def hex4? (a b c d : Char) : Option Nat := do
  let a ← hexValue? a
  let b ← hexValue? b
  let c ← hexValue? c
  let d ← hexValue? d
  pure (((a * 16 + b) * 16 + c) * 16 + d)

/-- The character that a backslash and a letter stand for. -/
def simpleEscape? : Char → Option Char
  | '"' => some '"'
  | '\\' => some '\\'
  | '/' => some '/'
  | 'b' => some '\x08'
  | 'f' => some '\x0c'
  | 'n' => some '\n'
  | 'r' => some '\r'
  | 't' => some '\t'
  | _ => none

/-- The character that two units of UTF-16 stand for. -/
def pair? (high low : Nat) : Option Char :=
  if 0xD800 ≤ high && high ≤ 0xDBFF && 0xDC00 ≤ low && low ≤ 0xDFFF then
    some (Char.ofNat ((high - 0xD800) * 0x400 + (low - 0xDC00) + 0x10000))
  else none

/-- The text of a string up to its closing quote, which is taken too.  An escaped half of a
surrogate pair needs its other half. -/
def readString : (s : List Char) → Option (Taken (List Char) s)
  | [] => none
  | '"' :: s => some ⟨[], s, by simp⟩
  | '\\' :: 'u' :: a :: b :: c :: d :: s => do
    let n ← hex4? a b c d
    if 0xD800 ≤ n && n ≤ 0xDFFF then
      match h : s with
      | '\\' :: 'u' :: a' :: b' :: c' :: d' :: s' =>
        let low ← hex4? a' b' c' d'
        let ch ← pair? n low
        let tail ← readString s'
        have hlen := congrArg List.length h
        pure ((tail.map (ch :: ·)).weaken (by simp at hlen ⊢; omega))
      | _ => none
    else
      let tail ← readString s
      pure ((tail.map (Char.ofNat n :: ·)).weaken (by simp; omega))
  | '\\' :: c :: s => do
    let ch ← simpleEscape? c
    let tail ← readString s
    pure ((tail.map (ch :: ·)).weaken (by simp; omega))
  | c :: s => do
    if c.toNat < 0x20 then none
    let tail ← readString s
    pure ((tail.map (c :: ·)).after c)

/-! ## numbers -/

/-- The characters of numbers. -/
def isNumeric (c : Char) : Bool :=
  c.isDigit || c == '-' || c == '+' || c == '.' || c == 'e' || c == 'E'

/-- The digits before the point: a zero alone, or digits that do not begin with one. -/
def isWhole (ds : List Char) : Bool := !ds.isEmpty && (ds.head? != some '0' || ds.length == 1)

/-- The exponent that makes up a whole text; none stands for none. -/
def exponent? : List Char → Option (Option (Bool × List Char))
  | [] => some none
  | _ :: '-' :: ds => if !ds.isEmpty && ds.all Char.isDigit then some (some (true, ds)) else none
  | _ :: '+' :: ds => if !ds.isEmpty && ds.all Char.isDigit then some (some (false, ds)) else none
  | _ :: ds => if !ds.isEmpty && ds.all Char.isDigit then some (some (false, ds)) else none

/-- The parts of a number that makes up a whole text. -/
def lexeme? (s : List Char) : Option Number.Lexeme := do
  let (negative, s) :=
    match s with
    | '-' :: s => (true, s)
    | s => (false, s)
  let isMark (c : Char) : Bool := c == 'e' || c == 'E'
  let mantissa := s.takeWhile fun c => !isMark c
  let exponent ← exponent? (s.dropWhile fun c => !isMark c)
  let whole := mantissa.takeWhile Char.isDigit
  if !isWhole whole then none
  match mantissa.dropWhile Char.isDigit with
  | [] => some ⟨negative, whole, none, exponent⟩
  | '.' :: ds =>
    if !ds.isEmpty && ds.all Char.isDigit then some ⟨negative, whole, some ds, exponent⟩ else none
  | _ => none

/-- A number: all numeric characters that stand next have to belong to it. -/
def readNumber (c : Char) (s : List Char) : Option (Taken Json (c :: s)) := do
  let lexeme ← lexeme? (c :: s.takeWhile isNumeric)
  let n ← Number.ofLexeme? lexeme
  pure ⟨number n, s.dropWhile isNumeric, by
    have := (List.dropWhile_sublist (l := s) isNumeric).length_le
    simp only [List.length_cons]; omega⟩

/-! ## values -/

/-- Items with commas between them, up to a closing bracket, which is taken too. -/
def readItems {α : Type} (item : (s : List Char) → Option (Taken α s)) (closing : Char)
    (s : List Char) : Option (Taken (List α) s) :=
  match item s with
  | none => none
  | some ⟨a, rest, shorter⟩ =>
    match h : skipGaps rest with
    | c :: next =>
      have hnext : next.length < s.length := by
        have hle := length_skipGaps_le rest
        rw [h, List.length_cons] at hle
        omega
      if c = closing then some ⟨[a], next, hnext⟩
      else if c = ',' then
        (readItems item closing next).map fun tail =>
          (tail.map (a :: ·)).weaken (Nat.le_of_lt hnext)
      else none
    | [] => none
termination_by s.length

def readList {α : Type} (item : (s : List Char) → Option (Taken α s)) (closing : Char)
    (s : List Char) : Option (Taken (List α) s) :=
  afterGaps s fun t =>
    match t with
    | c :: rest =>
      if c = closing then some ⟨[], rest, by simp⟩ else readItems item closing (c :: rest)
    | [] => none

def readMember (value : (s : List Char) → Option (Taken Json s)) (s : List Char) :
    Option (Taken (String × Json) s) :=
  afterGaps s fun t =>
    match t with
    | '"' :: t => do
      let key ← readString t
      let v ← afterGaps key.rest fun u =>
        match u with
        | ':' :: u => (value u).map (·.after ':')
        | _ => none
      pure (((key.next v).map (String.ofList key.value, ·)).after '"')
    | _ => none

/-- A value, with so many levels of arrays and objects left. -/
def readValue : (levels : Nat) → (s : List Char) → Option (Taken Json s)
  | levels, s =>
    afterGaps s fun t =>
      match t with
      | [] => none
      | c :: rest =>
        match c, levels with
        | '"', _ =>
          (readString rest).map fun x => (x.map fun cs => string (String.ofList cs)).after _
        | '[', levels + 1 =>
          (readList (readValue levels) ']' rest).map fun x => (x.map array).after _
        | '\x7b', levels + 1 =>
          (readList (readMember (readValue levels)) '\x7d' rest).map fun x =>
            (x.map ofMembers).after _
        | 'n', _ => readWord null ['u', 'l', 'l'] _ rest
        | 't', _ => readWord (bool true) ['r', 'u', 'e'] _ rest
        | 'f', _ => readWord (bool false) ['a', 'l', 's', 'e'] _ rest
        | c, _ => readNumber c rest

/-- The levels of arrays and objects that a text may have. -/
def maxDepth : Nat := 127

/-- Reads a text that holds one value and nothing else. -/
def read? (s : String) : Option Json := do
  let t ← readValue maxDepth s.toList
  if (skipGaps t.rest).isEmpty then some t.value else none

end Readership.Json
