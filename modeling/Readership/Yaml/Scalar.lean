import Readership.Json.Reader
import Readership.Yaml.Cursor

/-!
# Readership.Yaml.Scalar

The texts of scalars.

* A plain scalar stands without quotes and ends where it could be taken for something else.
* In quotes, a scalar may hold anything, in double quotes also by escapes.
* A block scalar is a block of lines, kept as they are or folded.

Where a scalar goes on in another line, the break is folded: a single break becomes a blank, and of
several the first is dropped.  Each function answers with the text and the place after the scalar,
or refuses.
-/

namespace Readership.Yaml

inductive Style where
  | plain
  | quoted
  | literal
  | folded
deriving DecidableEq, Repr, Inhabited

/-! ## folding -/

/-- What stands between two words of a scalar: blanks, or breaks. -/
structure Gap where
  /-- What it contributes to the text. -/
  text : String
  /-- Whether it holds a break. -/
  broken : Bool
  /-- The place after it. -/
  after : Cursor

/-- The breaks of empty lines and the blanks of the line after them.  No tab may stand before
column `limit`. -/
def emptyLines (limit : Nat) : (fuel : Nat) → Cursor → String → Option (String × Cursor)
  | 0, _, _ => none
  | fuel + 1, c, breaks =>
    let (blanks, next) := c.span isBlank
    if (blanks.take (limit - c.column)).contains '\t' then none
    else if (next.head?).any isBreak then
      emptyLines limit fuel next.skipBreak (breaks ++ next.breakText)
    else some (breaks, next)

/-- What a break and those of the empty lines after it contribute to a text. -/
def fold (first more : String) : String :=
  if first == "\n" then (if more.isEmpty then " " else more) else first ++ more

/-- The gap that begins at a place. -/
def gap? (limit : Nat) (c : Cursor) : Option Gap := do
  let (blanks, next) := c.span isBlank
  if (next.head?).any isBreak then
    let (more, after) ← emptyLines limit (next.rest.length + 1) next.skipBreak ""
    pure ⟨fold next.breakText more, true, after⟩
  else pure ⟨String.ofList blanks, false, next⟩

/-! ## plain scalars -/

/-- A character that has a meaning of its own between flow brackets. -/
def isFlowMark (c : Char) : Bool := c == ',' || c == '[' || c == ']' || c == '{' || c == '}'

/-- A word of a plain scalar.  Between flow brackets a colon before a mark is a fault. -/
def plainWord (flow : Bool) : List Char → Option (List Char)
  | [] => some []
  | c :: cs =>
    if isBlank c || isBreak c then some []
    else if flow && c == ':' && cs.head?.any (fun d => isFlowMark d || d == '?') then none
    else if (c == ':' && endsWord cs) || (flow && isFlowMark c) then some []
    else (plainWord flow cs).map (c :: ·)

/-- The words of a plain scalar from a place on, after a gap that joins only if a word follows.
Tells too whether the place after the scalar is on another line. -/
def plainFrom (flow : Bool) (indent : Nat) :
    (fuel : Nat) → Cursor → String → Gap → Option (String × Cursor × Bool)
  | 0, _, _, _ => none
  | fuel + 1, c, text, gap =>
    if c.atDocumentMark || c.sees '#' then some (text, c, gap.broken)
    else
      match plainWord flow c.rest with
      | none => none
      | some [] => some (text, c, gap.broken)
      | some word =>
        let text := text ++ gap.text ++ String.ofList word
        let c := c.skip word.length
        if !(c.head?).any fun d => isBlank d || isBreak d then some (text, c, false)
        else
          match gap? indent c with
          | none => none
          | some gap =>
            if !flow && gap.after.column < indent then some (text, gap.after, gap.broken)
            else plainFrom flow indent fuel gap.after text gap

/-- A plain scalar; outside flow brackets its lines begin at column `indent` or later. -/
def plain? (flow : Bool) (indent : Nat) (c : Cursor) : Option (String × Cursor × Bool) :=
  plainFrom flow indent (c.rest.length + 1) c "" ⟨"", false, c⟩

/-! ## quoted scalars -/

/-- The character that a backslash and a letter stand for. -/
def escape? : Char → Option Char
  | '0' => some '\x00'
  | 'a' => some '\x07'
  | 'b' => some '\x08'
  | 't' | '\t' => some '\t'
  | 'n' => some '\n'
  | 'v' => some '\x0b'
  | 'f' => some '\x0c'
  | 'r' => some '\r'
  | 'e' => some '\x1b'
  | ' ' => some ' '
  | '"' => some '"'
  | '/' => some '/'
  | '\\' => some '\\'
  | 'N' => some '\u0085'
  | '_' => some '\u00a0'
  | 'L' => some '\u2028'
  | 'P' => some '\u2029'
  | _ => none

/-- The character with a number in hexadecimal digits. -/
def charOfHex? (ds : List Char) : Option Char := do
  let n ← ds.foldlM (fun n d => (Json.hexValue? d).map (16 * n + ·)) 0
  if (0xD800 ≤ n && n ≤ 0xDFFF) || 0x10FFFF < n then none else some (Char.ofNat n)

/-- A word within single quotes and the text after it; a quote written twice belongs to it. -/
def singleWord : List Char → List Char × List Char
  | [] => ([], [])
  | '\'' :: '\'' :: cs =>
    let (word, rest) := singleWord cs
    ('\'' :: word, rest)
  | c :: cs =>
    if c == '\'' || isBlank c || isBreak c then ([], c :: cs)
    else
      let (word, rest) := singleWord cs
      (c :: word, rest)

/-- A word within double quotes and the text after it.  A backslash at the end of a line does not
belong to it. -/
def doubleWord : List Char → Option (List Char × List Char)
  | [] => some ([], [])
  | '\\' :: 'x' :: a :: b :: cs => do
    let ch ← charOfHex? [a, b]
    let (word, rest) ← doubleWord cs
    pure (ch :: word, rest)
  | '\\' :: 'u' :: a :: b :: c :: d :: cs => do
    let ch ← charOfHex? [a, b, c, d]
    let (word, rest) ← doubleWord cs
    pure (ch :: word, rest)
  | '\\' :: 'U' :: a :: b :: c :: d :: e :: f :: g :: h :: cs => do
    let ch ← charOfHex? [a, b, c, d, e, f, g, h]
    let (word, rest) ← doubleWord cs
    pure (ch :: word, rest)
  | '\\' :: c :: cs =>
    if isBreak c then some ([], '\\' :: c :: cs)
    else do
      let ch ← escape? c
      let (word, rest) ← doubleWord cs
      pure (ch :: word, rest)
  | c :: cs =>
    if c == '"' || isBlank c || isBreak c then some ([], c :: cs)
    else if c == '\\' then none
    else do
      let (word, rest) ← doubleWord cs
      pure (c :: word, rest)

/-- The words of a quoted scalar up to its closing quote, which is taken too. -/
def quotedFrom (quote : Char) : (fuel : Nat) → Cursor → String → Option (String × Cursor)
  | 0, _, _ => none
  | fuel + 1, c, text =>
    if c.atDocumentMark then none
    else
      match if quote == '\'' then some (singleWord c.rest) else doubleWord c.rest with
      | none => none
      | some (word, rest) =>
        let text := text ++ String.ofList word
        let c := c.skip (c.rest.length - rest.length)
        if c.sees quote then some (text, c.skip 1)
        else if c.sees '\\' then
          match emptyLines 0 (c.rest.length + 1) (c.skip 1).skipBreak "" with
          | none => none
          | some (more, c) => quotedFrom quote fuel c (text ++ more)
        else if rest.isEmpty then none
        else
          match gap? 0 c with
          | none => none
          | some gap => quotedFrom quote fuel gap.after (text ++ gap.text)

/-- A scalar in quotes of a kind, the opening one not yet taken. -/
def quoted? (quote : Char) (c : Cursor) : Option (String × Cursor) :=
  quotedFrom quote (c.rest.length + 1) (c.skip 1) ""

/-! ## block scalars -/

/-- What becomes of the breaks at the end of a block scalar. -/
inductive Chomping where
  /-- All are dropped. -/
  | strip
  /-- The first is kept. -/
  | clip
  /-- All are kept. -/
  | keep
deriving DecidableEq

def chomping? : Option Char → Option Chomping
  | some '-' => some .strip
  | some '+' => some .keep
  | _ => none

/-- What stands after the mark of a block scalar: chomping and indentation in either order. -/
def blockHeader? (c : Cursor) : Option (Chomping × Option Nat × Cursor) :=
  let digit? (c : Cursor) : Option (Option Nat × Cursor) :=
    match c.head? with
    | some d =>
      if d == '0' then none
      else if d.isDigit then some (some (d.toNat - '0'.toNat), c.skip 1)
      else some (none, c)
    | none => some (none, c)
  match chomping? c.head? with
  | some chomping => (digit? (c.skip 1)).map fun (n, c) => (chomping, n, c)
  | none =>
    (digit? c).map fun (n, c) =>
      match n, chomping? c.head? with
      | some n, some chomping => (chomping, some n, c.skip 1)
      | n, _ => (.clip, n, c)

/-- The empty lines before a line of a block scalar and the indentation of that line.  As long as
the scalar's own indentation is open, any depth belongs to it, and the greatest depth is told. -/
def blockBreaks (indent : Option Nat) : (fuel : Nat) → Cursor → String → Nat →
    Option (String × Nat × Cursor)
  | 0, _, _, _ => none
  | fuel + 1, c, breaks, deepest =>
    let room := indent.elim c.rest.length (· - c.column)
    let depth := ((c.rest.take room).takeWhile (· == ' ')).length
    let next := c.skip depth
    let deepest := max deepest next.column
    if indent.all (next.column < ·) && next.sees '\t' then none
    else if (next.head?).any isBreak then
      blockBreaks indent fuel next.skipBreak (breaks ++ next.breakText) deepest
    else some (breaks, deepest, next)

/-- The text of a block scalar while it is being read. -/
structure Block where
  text : String := ""
  /-- The break of the last line. -/
  lineBreak : String := ""
  /-- The breaks of the empty lines after it. -/
  breaks : String
  /-- Whether the last line began with a blank. -/
  blank : Bool := false

/-- A further line.  Folding joins two lines unless one of them begins with a blank. -/
def Block.addLine (b : Block) (literal : Bool) (line : List Char) : Block :=
  let blank := (line.head?).any isBlank
  let joint :=
    if !literal && b.lineBreak == "\n" && !b.blank && !blank then
      (if b.breaks.isEmpty then " " else "")
    else b.lineBreak
  { b with text := b.text ++ joint ++ b.breaks ++ String.ofList line, blank }

/-- The lines of a block scalar from a place on. -/
def blockLines (literal : Bool) (indent : Nat) :
    (fuel : Nat) → Cursor → Block → Option (Block × Cursor)
  | 0, _, _ => none
  | fuel + 1, c, b =>
    if c.column != indent || c.rest.isEmpty then some (b, c)
    else
      let (line, c) := c.span (!isBreak ·)
      let b := b.addLine literal line
      match blockBreaks (some indent) (c.rest.length + 1) c.skipBreak "" 0 with
      | none => none
      | some (breaks, _, next) =>
        blockLines literal indent fuel next { b with lineBreak := c.breakText, breaks }

/-- A block scalar from its mark on; `parent` is the indentation of what it stands in. -/
def block? (literal : Bool) (parent : Int) (c : Cursor) : Option (String × Cursor) := do
  let (chomping, increment, c) ← blockHeader? (c.skip 1)
  let c ← c.lineEnd?
  let given := increment.map fun n => n + parent.toNat
  let (breaks, deepest, c) ← blockBreaks given (c.rest.length + 1) c "" 0
  let indent := given.getD (max deepest (max (parent + 1).toNat 1))
  let (b, c) ← blockLines literal indent (c.rest.length + 1) c { breaks }
  pure (b.text ++ (if chomping = .strip then "" else b.lineBreak) ++
    (if chomping = .keep then b.breaks else ""), c)

end Readership.Yaml
