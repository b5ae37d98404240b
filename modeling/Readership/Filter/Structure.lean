import Readership.Filter.Predicate
import Readership.Text.Blank

/-!
# Readership.Filter.Structure

Reading a predicate from a JSON tree.

1. A node is an object.  With the keys `field` and `op` it is a condition, whatever other keys it
   has; `value` is its operand.
2. Any other node has exactly one of the keys `and`, `or` and `not`; other keys are ignored.
3. `and` and `or` take a list of nodes, `not` takes a node.  An empty list holds of every row.
4. The whole tree may also be null or an object without keys, and then holds of every row.

The first fault in reading order decides the error: that of a node before those of its parts, and
parts from left to right.
-/

namespace Readership

open Text

inductive StructureError where
  | notAnObject (kind : String)
  /-- A node that is neither condition nor connective; holds its text. -/
  | noOperation (node : String)
  | multipleOperations (found : List Connective)
  | expectedList (connective : Connective)
  | expectedObject (kind : String)
  | nonStringKey (key : String)
  | emptyField
  | unsupportedOperator (name : String)
  | missingValue (path : String)
deriving DecidableEq, Repr

def StructureError.message : StructureError → String
  | notAnObject kind => "Filter node must be an object, got " ++ kind
  | noOperation node => "No valid operation found in node: " ++ node
  | multipleOperations found =>
    "Multiple operations in single node: [" ++ String.intercalate ", " (found.map (·.key)) ++ "]"
  | expectedList connective => connective.word ++ " operation requires a list of conditions"
  | expectedObject kind => "NOT operation requires an object condition, got " ++ kind
  | nonStringKey key => "Condition '" ++ key ++ "' must be a string"
  | emptyField => "Condition field must not be empty"
  | unsupportedOperator name =>
    "Unsupported operator '" ++ name ++ "'; expected one of " ++
      String.intercalate ", " (Operator.all.map (·.name))
  | missingValue path => "Condition on '" ++ path ++ "' is missing a value"

namespace Condition

def ofEntries (field op : Json) (value : Option Json) : Except StructureError Condition :=
  match field with
  | .string path =>
    if isBlankText path then .error .emptyField
    else
      match op with
      | .string name =>
        match Operator.ofName? name, value with
        | none, _ => .error (.unsupportedOperator name)
        | some _, none => .error (.missingValue path)
        | some op, some operand => .ok ⟨path, op, operand⟩
      | _ => .error (.nonStringKey "op")
  | _ => .error (.nonStringKey "field")

end Condition

namespace Predicate

/-- All of some predicates; all of none holds of every row. -/
def allOf (parts : List Predicate) : Predicate := if parts.isEmpty then always else all parts

/-- Any of some predicates; a filter without parts holds of every row. -/
def anyOf (parts : List Predicate) : Predicate := if parts.isEmpty then always else any parts

mutual

def ofNode : Json → Except StructureError Predicate
  | .object members =>
    match members.lookup "field", members.lookup "op" with
    | some field, some op =>
      (Condition.ofEntries field op (members.lookup "value")).map condition
    | _, _ =>
      match Connective.all.filter fun c => (members.lookup c.key).isSome with
      | [] => .error (.noOperation (Json.object members).compact)
      | [c] => ofMember c members
      | found => .error (.multipleOperations found)
  | j => .error (.notAnObject j.kind)

/-- Reads the part that a connective joins, the first member with its key. -/
def ofMember (c : Connective) : List (String × Json) → Except StructureError Predicate
  | [] => .error (.noOperation (Json.object []).compact)
  | (key, operand) :: rest =>
    if key = c.key then
      match c, operand with
      | .and, .array items => (ofNodes items).map allOf
      | .or, .array items => (ofNodes items).map anyOf
      | .not, .object members => (ofNode (.object members)).map not
      | .not, j => .error (.expectedObject j.kind)
      | c, _ => .error (.expectedList c)
    else ofMember c rest

def ofNodes : List Json → Except StructureError (List Predicate)
  | [] => .ok []
  | j :: js =>
    match ofNode j with
    | .error e => .error e
    | .ok p => (ofNodes js).map (p :: ·)

end

def ofTree : Json → Except StructureError Predicate
  | .null => .ok always
  | .object [] => .ok always
  | j => ofNode j

end Predicate

/-- Checks the shape of a filter tree, if there is one. -/
def StructureError.check (tree : Option Json) : Except StructureError Unit :=
  match tree with
  | none => .ok ()
  | some j => (Predicate.ofTree j).map fun _ => ()

end Readership
