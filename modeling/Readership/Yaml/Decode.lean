import Readership.Yaml.Node

/-!
# Readership.Yaml.Decode

Reading values from YAML nodes.

What a scalar means depends on what is asked for.  A text may be any scalar, so `no` and `5` are
texts where a text is wanted; integers and booleans have to be plain.  A node that was left out is
an empty list, an empty record or null.

A record is a mapping with texts for keys.  No field may be given twice, and with `Fields.closed?`
only known fields may be given.
-/

namespace Readership.Yaml

namespace Node

def text? : Node → Option String
  | scalar _ _ text => some text
  | _ => none

/-- The text of a scalar that is no string: a plain one, or a literal block tagged as meant. -/
def bare? (tag : String) : Node → Option String
  | scalar .plain _ text => some text
  | scalar .literal (some t) text => if t == tag then some text else none
  | _ => none

/-- Whether a node was left out. -/
def isMissing : Node → Bool
  | scalar .plain _ text => text.isEmpty
  | void => true
  | _ => false

def items? : Node → Option (List Node)
  | sequence items => some items
  | n => if n.isMissing then some [] else none

def pairs? : Node → Option (List (Node × Node))
  | mapping pairs => some pairs
  | n => if n.isMissing then some [] else none

/-- The pairs of a mapping with texts for keys. -/
def entries? (n : Node) : Option (List (String × Node)) := do
  (← n.pairs?).mapM fun (k, v) => do pure (← k.text?, v)

/-! ## scalars -/

/-- The value of a digit in a base of at most sixteen. -/
def digit? (base : Nat) (c : Char) : Option Nat :=
  (Json.hexValue? c).filter (· < base)

/-- The number that digits stand for in a base. -/
def natural? (base : Nat) (ds : List Char) : Option Nat :=
  if ds.isEmpty then none
  else ds.foldlM (fun n d => (digit? base d).map (base * n + ·)) 0

/-- A number in a base other than ten, by the letter that marks it. -/
def marked? : List Char → Option Nat
  | '0' :: 'x' :: ds => natural? 16 ds
  | '0' :: 'o' :: ds => natural? 8 ds
  | '0' :: 'b' :: ds => natural? 2 ds
  | _ => none

/-- A number in decimal; zeros in front make it a text. -/
def decimal? (ds : List Char) : Option Nat :=
  if 1 < ds.length && ds.head? == some '0' then none else natural? 10 ds

/-- The integer that a plain text stands for: a sign and a number in decimal, or marked as
hexadecimal, octal or binary, within a 64-bit word. -/
def integerOf? (s : String) : Option Int :=
  let n : Option Int :=
    match s.toList with
    | '-' :: ds => ((marked? ds).or (decimal? ds)).map fun n => -(n : Int)
    | '+' :: ds => ((marked? ds).or (decimal? ds)).map fun n => (n : Int)
    | ds => ((marked? ds).or (decimal? ds)).map fun n => (n : Int)
  n.filter Text.fitsWord

def integer? (n : Node) : Option Int := do integerOf? (← n.bare? "tag:yaml.org,2002:int")

/-- A boolean: true or false in lower case, upper case or with a capital. -/
def bool? (n : Node) : Option Bool := do
  let s ← n.bare? "tag:yaml.org,2002:bool"
  if ["true", "True", "TRUE"].contains s then some true
  else if ["false", "False", "FALSE"].contains s then some false
  else none

/-- Whether a text is a way to write null. -/
def isNullText (s : String) : Bool := ["null", "Null", "NULL", "~"].contains s

/-- A value that may be null. -/
def optional? {α : Type} (read : Node → Option α) (n : Node) : Option (Option α) :=
  match n with
  | void => some none
  | scalar .plain (some tag) text =>
    if tag == "tag:yaml.org,2002:null" then (if isNullText text then some none else none)
    else (read n).map some
  | scalar .plain none text =>
    if text.isEmpty || isNullText text then some none else (read n).map some
  | n => (read n).map some

/-- The name of one of several choices: a text, or a tag of its own on nothing. -/
def choice? : Node → Option String
  | scalar style tag text =>
    match tag.map String.toList with
    | some ('!' :: name) =>
      if style = .plain && (text.isEmpty || isNullText text) then
        some (if name.isEmpty then "!" else String.ofList name)
      else none
    | _ => some text
  | _ => none

end Node

/-! ## records -/

abbrev Fields := List (String × Node)

namespace Fields

/-- The fields of a record, of which none of the known ones is given twice. -/
def open? (known : List String) (n : Node) : Option Fields := do
  let fields ← n.entries?
  if known.all fun name => fields.countP (·.1 == name) ≤ 1 then some fields else none

/-- The fields of a record that has no others than the known ones. -/
def closed? (known : List String) (n : Node) : Option Fields := do
  let fields ← open? known n
  if fields.all fun (name, _) => known.contains name then some fields else none

/-- A field that has to be there. -/
def required? {α : Type} (f : Fields) (name : String) (read : Node → Option α) : Option α := do
  read (← f.lookup name)

/-- A field with a value that stands in for it. -/
def default? {α : Type} (f : Fields) (name : String) (value : α) (read : Node → Option α) :
    Option α :=
  match f.lookup name with
  | some n => read n
  | none => some value

end Fields

end Readership.Yaml
