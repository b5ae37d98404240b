import Readership.Yaml.Token

/-!
# Readership.Yaml.Node

Nodes of a YAML document.

A node is a scalar, a sequence or a mapping.  Aliases are replaced by the nodes that their anchors
stand on; an alias within the node of its own anchor stands for no finite node and becomes
`Node.cycle`.  What is left out, such as a value after a colon, is an empty plain scalar.

`document?` reads a text with at most one document.  A text without any is `Node.void`.
-/

namespace Readership.Yaml

inductive Node where
  | scalar (style : Style) (tag : Option String) (text : String)
  | sequence (items : List Node)
  | mapping (pairs : List (Node × Node))
  /-- A text without a document. -/
  | void
  /-- A node within itself. -/
  | cycle
deriving Inhabited

/-- What is left out. -/
def Node.missing : Node := .scalar .plain none ""

/-- How far a text has been turned into nodes. -/
structure Composer where
  /-- The tokens not yet taken. -/
  tokens : List Token
  /-- What tag handles stand for in the document. -/
  handles : List (String × String) := []
  /-- The numbers of anchors by name, the latest first. -/
  anchors : List (String × Nat) := []
  /-- How many anchors there are. -/
  count : Nat := 0
  /-- The nodes of the anchors that are read. -/
  nodes : List (Nat × Node) := []

/-- A step that takes tokens and may refuse them. -/
abbrev Compose := StateT Composer Option

namespace Compose

def next? : Compose (Option Token) := do pure (← get).tokens.head?

def advance : Compose Unit := modify fun s => { s with tokens := s.tokens.drop 1 }

/-- Takes a given token, if it stands next. -/
def take (t : Token) : Compose Bool := do
  if (← next?) == some t then
    advance
    pure true
  else pure false

def expect (t : Token) : Compose Unit := do
  if !(← take t) then failure

def sees (ts : List Token) : Compose Bool := do pure ((← next?).any ts.contains)

/-! ## anchors and tags -/

/-- Begins a node with an anchor. -/
def beginAnchor (name : Option String) : Compose (Option Nat) := do
  match name with
  | none => pure none
  | some name =>
    let s ← get
    set { s with anchors := (name, s.count) :: s.anchors, count := s.count + 1 }
    pure (some s.count)

/-- Ends the node of an anchor. -/
def endAnchor (number : Option Nat) (node : Node) : Compose Node := do
  match number with
  | none => pure node
  | some n =>
    modify fun s => { s with nodes := (n, node) :: s.nodes }
    pure node

/-- The node that an alias stands for. -/
def dereference (name : String) : Compose Node := do
  let s ← get
  let n ← s.anchors.lookup name
  pure ((s.nodes.lookup n).getD .cycle)

/-- A tag in full.  Handles that no directive has set stand for themselves or for the common
types. -/
def fullTag (handle suffix : String) : Compose String := do
  if handle.isEmpty then pure suffix
  else
    match (← get).handles.lookup handle with
    | some expansion => pure (expansion ++ suffix)
    | none =>
      if handle == "!" then pure ("!" ++ suffix)
      else if handle == "!!" then pure ("tag:yaml.org,2002:" ++ suffix)
      else failure

/-- The anchor and the tag before a node, in either order. -/
def properties : Compose (Option String × Option String) := do
  let anchor? : Compose (Option String) := do
    match ← next? with
    | some (.anchor name) =>
      advance
      pure (some name)
    | _ => pure none
  let tag? : Compose (Option String) := do
    match ← next? with
    | some (.tag handle suffix) =>
      advance
      pure (some (← fullTag handle suffix))
    | _ => pure none
  match ← anchor? with
  | some name => pure (some name, ← tag?)
  | none =>
    let tag ← tag?
    pure (← anchor?, tag)

/-! ## nodes -/

mutual

/-- A node.  Block sequences and mappings stand only in blocks, and a sequence may stand at the
column of its key. -/
def node (block indentless : Bool) : (fuel : Nat) → Compose Node
  | 0 => failure
  | fuel + 1 => do
    match ← next? with
    | some (.alias name) =>
      advance
      dereference name
    | _ =>
      let (anchor, tag) ← properties
      let number ← beginAnchor anchor
      let absent : Compose Node :=
        if anchor.isSome || tag.isSome then pure (.scalar .plain tag "") else failure
      let content : Compose Node := do
        match ← next?, block, indentless with
        | some (.scalar style text), _, _ =>
          advance
          pure (.scalar style (tag.filter (· != "!")) text)
        | some .flowSequenceStart, _, _ =>
          advance
          .sequence <$> flowItems true fuel
        | some .flowMappingStart, _, _ =>
          advance
          .mapping <$> flowPairs true fuel
        | some .blockEntry, _, true => .sequence <$> indentlessItems fuel
        | some .blockSequenceStart, true, _ =>
          advance
          .sequence <$> blockItems fuel
        | some .blockMappingStart, true, _ =>
          advance
          .mapping <$> blockPairs fuel
        | _, _, _ => absent
      endAnchor number (← content)

/-- A node in a block, unless one of some tokens stands next. -/
def blockNodeUnless (stops : List Token) (indentless : Bool) : (fuel : Nat) → Compose Node
  | 0 => failure
  | fuel + 1 => do
    if ← sees stops then pure .missing else node true indentless fuel

/-- A node between flow brackets, unless one of some tokens stands next. -/
def flowNodeUnless (stops : List Token) : (fuel : Nat) → Compose Node
  | 0 => failure
  | fuel + 1 => do
    if ← sees stops then pure .missing else node false false fuel

def blockItems : (fuel : Nat) → Compose (List Node)
  | 0 => failure
  | fuel + 1 => do
    if ← take .blockEntry then
      let item ← blockNodeUnless [.blockEntry, .blockEnd] false fuel
      pure (item :: (← blockItems fuel))
    else
      expect .blockEnd
      pure []

/-- The items of a sequence that stands at the column of its key. -/
def indentlessItems : (fuel : Nat) → Compose (List Node)
  | 0 => failure
  | fuel + 1 => do
    if ← take .blockEntry then
      let item ← blockNodeUnless [.blockEntry, .key, .value, .blockEnd] false fuel
      pure (item :: (← indentlessItems fuel))
    else pure []

def blockPairs : (fuel : Nat) → Compose (List (Node × Node))
  | 0 => failure
  | fuel + 1 => do
    if ← take .key then
      let key ← blockNodeUnless [.key, .value, .blockEnd] true fuel
      let value ←
        if ← take .value then blockNodeUnless [.key, .value, .blockEnd] true fuel
        else pure .missing
      pure ((key, value) :: (← blockPairs fuel))
    else
      expect .blockEnd
      pure []

/-- The items of a sequence in brackets; a pair may be an item.  Items have commas between them,
and one may follow the last. -/
def flowItems (first : Bool) : (fuel : Nat) → Compose (List Node)
  | 0 => failure
  | fuel + 1 => do
    if ← take .flowSequenceEnd then pure []
    else
      if !first then expect .flowEntry
      if ← take .flowSequenceEnd then pure []
      else if ← take .key then
        let pair ← flowItemPair fuel
        pure (.mapping [pair] :: (← flowItems false fuel))
      else
        let item ← node false false fuel
        pure (item :: (← flowItems false fuel))

/-- A pair that is an item.  A colon right after the mark of a key belongs to no value. -/
def flowItemPair : (fuel : Nat) → Compose (Node × Node)
  | 0 => failure
  | fuel + 1 => do
    if ← sees [.value, .flowEntry, .flowSequenceEnd] then
      advance
      let value ← flowItemValue fuel
      pure (.missing, value)
    else
      let key ← node false false fuel
      let value ← flowItemValue fuel
      pure (key, value)

/-- The value of a pair that is an item. -/
def flowItemValue : (fuel : Nat) → Compose Node
  | 0 => failure
  | fuel + 1 => do
    if ← take .value then flowNodeUnless [.flowEntry, .flowSequenceEnd] fuel else pure .missing

/-- The pairs of a mapping in braces; a node without a value may be a key. -/
def flowPairs (first : Bool) : (fuel : Nat) → Compose (List (Node × Node))
  | 0 => failure
  | fuel + 1 => do
    if ← take .flowMappingEnd then pure []
    else
      if !first then expect .flowEntry
      if ← take .flowMappingEnd then pure []
      else if ← take .key then
        let key ← flowNodeUnless [.value, .flowEntry, .flowMappingEnd] fuel
        let value ←
          if ← take .value then flowNodeUnless [.flowEntry, .flowMappingEnd] fuel
          else pure .missing
        pure ((key, value) :: (← flowPairs false fuel))
      else
        let key ← node false false fuel
        pure ((key, .missing) :: (← flowPairs false fuel))

end

/-! ## documents -/

/-- The directives before a document: a version at most once, and each handle at most once. -/
def directives (version : Bool) (handles : List (String × String)) :
    (fuel : Nat) → Compose Unit
  | 0 => failure
  | fuel + 1 => do
    match ← next? with
    | some (.version major minor) =>
      if version || major != 1 || !(minor == 1 || minor == 2) then failure
      advance
      directives true handles fuel
    | some (.tagDirective handle expansion) =>
      if (handles.lookup handle).isSome then failure
      advance
      directives version ((handle, expansion) :: handles) fuel
    | _ => modify fun s => { s with handles }

def endsDocument : Option Token → Bool
  | none | some (.version _ _) | some (.tagDirective _ _) | some .documentStart
  | some .documentEnd => true
  | _ => false

/-- The content of a document after its mark. -/
def content (fuel : Nat) : Compose Node := do
  if endsDocument (← next?) then pure .missing else node true false fuel

/-- Takes all marks of ends of documents. -/
def documentEnds : (fuel : Nat) → Compose Unit
  | 0 => failure
  | fuel + 1 => do
    if ← take .documentEnd then documentEnds fuel

/-- The only document of a text; without one, nothing.  Only the first document may do without its
mark. -/
def document (fuel : Nat) : Compose Node := do
  if (← next?).isNone then pure .void
  else
    let marked := match ← next? with
      | some (.version _ _) | some (.tagDirective _ _) | some .documentStart => true
      | _ => false
    let root ←
      if marked then do
        directives false [] fuel
        expect .documentStart
        content fuel
      else node true false fuel
    documentEnds fuel
    if (← next?).isSome then failure
    pure root

end Compose

/-- The node that a text with at most one document stands for. -/
def document? (s : String) : Option Node := do
  let tokens ← tokens? s
  let (root, _) ← (Compose.document (4 * tokens.length + 4)).run { tokens }
  pure root

end Readership.Yaml
