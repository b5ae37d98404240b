import Readership.Yaml.Scalar

/-!
# Readership.Yaml.Token

The tokens of a YAML text.

Besides the marks that are written there are tokens that no mark stands for: a block begins where a
line goes further in than the lines around it, and ends where a line comes back out.  A key is
known as one only by the colon after it, so whatever could be a key is remembered until then: it
has to end on the line where it began and within `keyLength` characters.

`tokens?` turns a whole text into tokens, or refuses it.
-/

namespace Readership.Yaml

inductive Token where
  | version (major minor : Nat)
  | tagDirective (handle expansion : String)
  | documentStart
  | documentEnd
  | blockSequenceStart
  | blockMappingStart
  | blockEnd
  | flowSequenceStart
  | flowSequenceEnd
  | flowMappingStart
  | flowMappingEnd
  | blockEntry
  | flowEntry
  | key
  | value
  | alias (name : String)
  | anchor (name : String)
  | tag (handle suffix : String)
  | scalar (style : Style) (text : String)
deriving DecidableEq, Repr, Inhabited

/-- The most characters that a key without a mark of its own may have. -/
def keyLength : Nat := 1024

/-- What may turn out to be a key. -/
structure KeyCandidate where
  /-- The number of tokens before it. -/
  position : Nat
  index : Nat
  line : Nat
  column : Nat
  /-- Whether nothing but a key can stand there. -/
  required : Bool

/-- How far a text has been turned into tokens. -/
structure Lexer where
  cursor : Cursor
  /-- The tokens so far, the latest first. -/
  emitted : List Token := []
  count : Nat := 0
  /-- The innermost block's column; -1 outside all blocks. -/
  indent : Int := -1
  /-- The columns of the blocks around it. -/
  outer : List Int := []
  /-- What may be a key in the innermost flow brackets, or outside all. -/
  candidate : Option KeyCandidate := none
  /-- The same for the brackets around them; as many as there are open brackets. -/
  pending : List (Option KeyCandidate) := []
  /-- Whether a key may begin here. -/
  keyAllowed : Bool := true

namespace Lexer

def inFlow (l : Lexer) : Bool := !l.pending.isEmpty

def emit (l : Lexer) (t : Token) : Lexer :=
  { l with emitted := t :: l.emitted, count := l.count + 1 }

/-- One more token, put before all but the first `position` tokens. -/
def insertAt (l : Lexer) (position : Nat) (t : Token) : Lexer :=
  let later := l.count - position
  { l with
    emitted := l.emitted.take later ++ t :: l.emitted.drop later
    count := l.count + 1 }

def skip (l : Lexer) (n : Nat) : Lexer := { l with cursor := l.cursor.skip n }

def goto (l : Lexer) (c : Cursor) : Lexer := { l with cursor := c }

/-- Allows keys here, or forbids them. -/
def allowKey (l : Lexer) (allowed : Bool) : Lexer := { l with keyAllowed := allowed }

/-! ## keys -/

/-- Gives up the candidate; one that has to be a key is a fault then. -/
def dropKey? (l : Lexer) : Option Lexer :=
  if l.candidate.any (·.required) then none else some { l with candidate := none }

/-- Remembers what begins here as a candidate. -/
def saveKey? (l : Lexer) : Option Lexer :=
  if !l.keyAllowed then some l
  else do
    let l ← l.dropKey?
    let c := l.cursor
    pure { l with
      candidate := some
        { position := l.count, index := c.index, line := c.line, column := c.column
          required := !l.inFlow && l.indent == c.column } }

/-- Whether a candidate cannot be a key any more. -/
def isStale (c : Cursor) (k : KeyCandidate) : Bool :=
  k.line < c.line || k.index + keyLength < c.index

/-- A candidate as it stands at a place; refuses if it is stale and had to be a key. -/
def refresh? (c : Cursor) : Option KeyCandidate → Option (Option KeyCandidate)
  | none => some none
  | some k =>
    if isStale c k then (if k.required then none else some none) else some (some k)

/-- Gives up all stale candidates. -/
def refreshKeys? (l : Lexer) : Option Lexer := do
  let candidate ← refresh? l.cursor l.candidate
  let pending ← l.pending.mapM (refresh? l.cursor)
  pure { l with candidate, pending }

/-! ## blocks -/

/-- Ends the blocks further in than a column. -/
def closeBlocks (l : Lexer) (column : Int) : List Int → Lexer
  | [] => l
  | around :: rest =>
    if l.indent ≤ column then l
    else closeBlocks { l.emit .blockEnd with indent := around, outer := rest } column rest

/-- Ends the blocks further in than a column; flow brackets know no columns. -/
def unwind (l : Lexer) (column : Int) : Lexer :=
  if l.inFlow then l else l.closeBlocks column l.outer

/-- Begins a block at a column that is further in than the block around it. -/
def openBlock (l : Lexer) (column : Nat) (position : Option Nat) (start : Token) : Lexer :=
  if l.inFlow || column ≤ l.indent then l
  else
    let l := { l with outer := l.indent :: l.outer, indent := column }
    match position with
    | some n => l.insertAt n start
    | none => l.emit start

/-! ## blanks and comments -/

/-- The place of the next token.  A tab is no blank where a key may begin, except in flow
brackets; outside them a new line allows keys. -/
def skipToToken (l : Lexer) : (fuel : Nat) → Lexer
  | 0 => l
  | fuel + 1 =>
    let tabs := l.inFlow || !l.keyAllowed
    let c := l.cursor.skipWhile fun ch => ch == ' ' || (tabs && ch == '\t')
    let c := if c.sees '#' then c.skipWhile (!isBreak ·) else c
    if (c.head?).any isBreak then
      let l := l.goto c.skipBreak
      skipToToken (if l.inFlow then l else l.allowKey true) fuel
    else l.goto c

/-! ## directives, tags and names -/

/-- A number of a version, of at most nine digits. -/
def versionNumber? (c : Cursor) : Option (Nat × Cursor) :=
  let (ds, c) := c.span Char.isDigit
  if ds.isEmpty || 9 < ds.length then none else some (Text.digitsValue ds, c)

/-- The handle of a tag; in a directive it ends with `!`. -/
def tagHandle? (directive : Bool) (c : Cursor) : Option (String × Cursor) :=
  if !c.sees '!' then none
  else
    let (word, next) := (c.skip 1).span isWord
    if next.sees '!' then some (String.ofList ('!' :: word ++ ['!']), next.skip 1)
    else if directive && !word.isEmpty then none
    else some (String.ofList ('!' :: word), next)

/-- The signs that the text of a tag may hold. -/
def tagSigns : List Char :=
  [';', '/', '?', ':', '@', '&', '=', '+', '$', '.', '!', '~', '*', '\'', '(', ')']

/-- A character that the text of a tag may hold. -/
def isTagChar (verbatim : Bool) (c : Char) : Bool :=
  isWord c || tagSigns.contains c || (verbatim && (c == ',' || c == '[' || c == ']'))

/-- The text of a tag, with its bytes written as `%` and two digits. -/
def tagChars (verbatim : Bool) : List Char → Option (List UInt8 × Nat)
  | '%' :: a :: b :: cs => do
    let hi ← Json.hexValue? a
    let lo ← Json.hexValue? b
    let (bytes, n) ← tagChars verbatim cs
    pure ((16 * hi + lo).toUInt8 :: bytes, n + 3)
  | c :: cs =>
    if c == '%' then none
    else if isTagChar verbatim c then do
      let (bytes, n) ← tagChars verbatim cs
      pure (c.toNat.toUInt8 :: bytes, n + 1)
    else some ([], 0)
  | [] => some ([], 0)

/-- The text of a tag after a beginning that was read with its handle. -/
def tagText? (verbatim : Bool) (head : String) (c : Cursor) : Option (String × Cursor) := do
  let (bytes, n) ← tagChars verbatim c.rest
  if n = 0 && head.isEmpty then none
  let text ← String.fromUTF8? (ByteArray.mk bytes.toArray)
  pure (String.ofList (head.toList.drop 1) ++ text, c.skip n)

/-- A directive from its `%` on. -/
def directive? (c : Cursor) : Option (Token × Cursor) := do
  let (name, c) := (c.skip 1).span isWord
  if !endsWord c.rest then none
  let c := c.skipWhile isBlank
  if name == ['Y', 'A', 'M', 'L'] then
    let (major, c) ← versionNumber? c
    if !c.sees '.' then none
    let (minor, c) ← versionNumber? (c.skip 1)
    pure (.version major minor, ← c.lineEnd?)
  else if name == ['T', 'A', 'G'] then
    let (handle, c) ← tagHandle? true c
    if !(c.head?).any isBlank then none
    let (expansion, c) ← tagText? true "" (c.skipWhile isBlank)
    if !endsWord c.rest then none
    pure (.tagDirective handle expansion, ← c.lineEnd?)
  else none

/-- A tag from its `!` on. -/
def tag? (flow : Bool) (c : Cursor) : Option (Token × Cursor) := do
  let (handle, suffix, c) ←
    match c.rest with
    | '!' :: '<' :: _ => do
      let (suffix, c) ← tagText? true "" (c.skip 2)
      if c.sees '>' then pure ("", suffix, c.skip 1) else none
    | _ => do
      let (handle, next) ← tagHandle? false c
      if 1 < handle.length && handle.toList.getLast? == some '!' then
        let (suffix, c) ← tagText? false "" next
        pure (handle, suffix, c)
      else
        let (suffix, c) ← tagText? false handle next
        if suffix.isEmpty then pure ("", "!", c) else pure ("!", suffix, c)
  if endsWord c.rest || (flow && c.sees ',') then pure (.tag handle suffix, c) else none

/-- The name after the mark of an anchor or alias. -/
def anchorName? (c : Cursor) : Option (String × Cursor) :=
  let (name, c) := (c.skip 1).span isWord
  let ends := endsWord c.rest ||
    (c.head?).any ['?', ':', ',', ']', '}', '%', '@', '`'].contains
  if name.isEmpty || !ends then none else some (String.ofList name, c)

/-! ## single tokens -/

/-- A token after which no key may begin and before which none may be open. -/
def mark? (l : Lexer) (n : Nat) (t : Token) : Option Lexer := do
  let l ← (l.unwind (-1)).dropKey?
  pure (((l.allowKey false).skip n).emit t)

def fetchDirective? (l : Lexer) : Option Lexer := do
  let l ← (l.unwind (-1)).dropKey?
  let (t, c) ← directive? l.cursor
  pure (((l.allowKey false).goto c).emit t)

def fetchOpening? (l : Lexer) (t : Token) : Option Lexer := do
  let l ← l.saveKey?
  let l := { l with candidate := none, pending := l.candidate :: l.pending, keyAllowed := true }
  pure ((l.skip 1).emit t)

/-- A closing bracket; one that closes nothing is left to be found out later. -/
def fetchClosing? (l : Lexer) (t : Token) : Option Lexer := do
  let l ← l.dropKey?
  let l :=
    match l.pending with
    | around :: pending => { l with candidate := around, pending }
    | [] => l
  pure (((l.allowKey false).skip 1).emit t)

def fetchFlowEntry? (l : Lexer) : Option Lexer := do
  let l ← l.dropKey?
  pure (((l.allowKey true).skip 1).emit .flowEntry)

def fetchBlockEntry? (l : Lexer) : Option Lexer := do
  if !l.inFlow && !l.keyAllowed then none
  let l := l.openBlock l.cursor.column none .blockSequenceStart
  let l ← l.dropKey?
  pure (((l.allowKey true).skip 1).emit .blockEntry)

def fetchKey? (l : Lexer) : Option Lexer := do
  if !l.inFlow && !l.keyAllowed then none
  let l := l.openBlock l.cursor.column none .blockMappingStart
  let l ← l.dropKey?
  pure (((l.allowKey (!l.inFlow)).skip 1).emit .key)

/-- The colon before a value; it makes a key of the candidate. -/
def fetchValue? (l : Lexer) : Option Lexer :=
  match l.candidate with
  | some k =>
    let l := l.insertAt k.position .key
    let l := l.openBlock k.column (some k.position) .blockMappingStart
    some ((({ l with candidate := none }.allowKey false).skip 1).emit .value)
  | none =>
    if !l.inFlow && !l.keyAllowed then none
    else
      let l := l.openBlock l.cursor.column none .blockMappingStart
      some (((l.allowKey (!l.inFlow)).skip 1).emit .value)

/-- A token that may begin a key, given how to read it. -/
def fetchKeyPart? (l : Lexer) (read : Cursor → Option (Token × Cursor)) : Option Lexer := do
  let l ← l.saveKey?
  let (t, c) ← read l.cursor
  pure (((l.allowKey false).goto c).emit t)

def fetchPlain? (l : Lexer) : Option Lexer := do
  let l ← l.saveKey?
  let (text, c, broken) ← plain? l.inFlow (l.indent + 1).toNat l.cursor
  pure (((l.allowKey broken).goto c).emit (.scalar .plain text))

def fetchBlock? (l : Lexer) (style : Style) : Option Lexer := do
  let l ← l.dropKey?
  let (text, c) ← block? (style == .literal) l.indent l.cursor
  pure (((l.allowKey true).goto c).emit (.scalar style text))

/-- Whether a character can never begin a plain scalar. -/
def isIndicator (c : Char) : Bool :=
  ['-', '?', ':', ',', '[', ']', '{', '}', '#', '&', '*', '!', '|', '>', '\'', '"', '%', '@',
    '`'].contains c

/-- Whether a plain scalar begins here. -/
def startsPlain (flow : Bool) (c : Char) (cs : List Char) : Bool :=
  !(isBlank c || isBreak c || isIndicator c) || (c == '-' && !(cs.head?).any isBlank) ||
    (!flow && (c == '?' || c == ':') && !endsWord cs)

/-- The token that begins with the character `c`, the characters `cs` after it. -/
def fetchAt? (l : Lexer) (c : Char) (cs : List Char) : Option Lexer :=
  let entry := l.inFlow || endsWord cs
  if l.cursor.column == 0 && c == '%' then l.fetchDirective?
  else if l.cursor.atDocumentMark then
    l.mark? 3 (if c == '-' then .documentStart else .documentEnd)
  else if c == '[' then l.fetchOpening? .flowSequenceStart
  else if c == '{' then l.fetchOpening? .flowMappingStart
  else if c == ']' then l.fetchClosing? .flowSequenceEnd
  else if c == '}' then l.fetchClosing? .flowMappingEnd
  else if c == ',' then l.fetchFlowEntry?
  else if c == '-' && endsWord cs then l.fetchBlockEntry?
  else if c == '?' && entry then l.fetchKey?
  else if c == ':' && entry then l.fetchValue?
  else if c == '*' then
    l.fetchKeyPart? fun c => (anchorName? c).map fun (name, c) => (.alias name, c)
  else if c == '&' then
    l.fetchKeyPart? fun c => (anchorName? c).map fun (name, c) => (.anchor name, c)
  else if c == '!' then l.fetchKeyPart? (tag? l.inFlow)
  else if c == '|' && !l.inFlow then l.fetchBlock? .literal
  else if c == '>' && !l.inFlow then l.fetchBlock? .folded
  else if c == '\'' || c == '"' then
    l.fetchKeyPart? fun cursor =>
      (quoted? c cursor).map fun (text, cursor) => (.scalar .quoted text, cursor)
  else if startsPlain l.inFlow c cs then l.fetchPlain?
  else none

/-- The end of the text: all blocks end and no key may be open. -/
def finish? (l : Lexer) : Option (List Token) :=
  ((l.unwind (-1)).dropKey?).map (·.emitted.reverse)

def run : (fuel : Nat) → Lexer → Option (List Token)
  | 0, _ => none
  | fuel + 1, l => do
    let l ← (l.skipToToken (l.cursor.rest.length + 1)).refreshKeys?
    let l := l.unwind l.cursor.column
    match l.cursor.rest with
    | [] => l.finish?
    | c :: cs => run fuel (← l.fetchAt? c cs)

end Lexer

/-- The tokens of a text.  A byte order mark at its start is no part of it. -/
def tokens? (s : String) : Option (List Token) :=
  let cs :=
    match s.toList with
    | '\uFEFF' :: cs => cs
    | cs => cs
  if cs.all isPrintable then Lexer.run (cs.length + 2) { cursor := ⟨cs, 0, 0, 0⟩ } else none

end Readership.Yaml
