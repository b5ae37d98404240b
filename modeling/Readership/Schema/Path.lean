import Readership.Schema

/-!
# Readership.Schema.Path

Field paths such as `blog.author.country.code`.

A path is cut at each `.` and at each `__`, the latter found from the left without overlap.  Each
segment but the last names a relation of the table reached so far, and the last one a column
of it; where the last one names a relation, the path stands for the key of the row it leads to.
Columns and relations of one table have different names.

The leftmost segment that fits nowhere decides the error.
-/

namespace Readership

structure FieldPath where
  /-- The path as it was written. -/
  path : String
  /-- The relations it follows, in order. -/
  hops : List Relation
  /-- The column it reads at its end. -/
  column : Column
deriving DecidableEq, Repr, Inhabited

namespace FieldPath

def type (f : FieldPath) : FieldType := f.column.type

/-- Whether a path may reach several rows. -/
def isMultiValued (f : FieldPath) : Bool := f.hops.any (·.cardinality == .many)

end FieldPath

inductive PathError where
  /-- All segments are empty. -/
  | empty
  /-- A segment of the path is empty. -/
  | emptySegment (path : String)
  /-- A segment is no name of the table it was looked up in. -/
  | unknownField (entity : Entity) (segment : String)
  /-- A column stands before the end of the path. -/
  | notARelation (path column : String)
deriving DecidableEq, Repr

def PathError.message : PathError → String
  | empty => "field path is empty"
  | emptySegment path => "field path '" ++ path ++ "' contains an empty segment"
  | unknownField entity segment =>
    "cannot resolve '" ++ segment ++ "' into a field of " ++ entity.name ++ "; choices are: " ++
      entity.choices
  | notARelation path column =>
    "'" ++ column ++ "' in '" ++ path ++ "' is an attribute and cannot be traversed"

namespace Path

/-- Puts a character in front of the first of some segments. -/
def extend (c : Char) : List (List Char) → List (List Char)
  | [] => [[c]]
  | s :: rest => (c :: s) :: rest

/-- Cuts a text at each `.`. -/
def cutDots : List Char → List (List Char)
  | [] => [[]]
  | '.' :: cs => [] :: cutDots cs
  | c :: cs => extend c (cutDots cs)

/-- Cuts a text at each `__`, from the left. -/
def cutUnderscores : List Char → List (List Char)
  | [] => [[]]
  | '_' :: '_' :: cs => [] :: cutUnderscores cs
  | c :: cs => extend c (cutUnderscores cs)

def segments (path : String) : List String :=
  ((cutUnderscores path.toList).flatMap cutDots).map String.ofList

/-- Follows segments from a table; answers with the relations on the way and the column at the
end. -/
def walk (path : String) : Entity → List String → Except PathError (List Relation × Column)
  | entity, [] => .ok ([], entity.key)
  | entity, segment :: rest =>
    if segment.isEmpty then .error (.emptySegment path)
    else
      match entity.column? segment, entity.relation? segment, rest with
      | some column, _, [] => .ok ([], column)
      | _, some relation, rest =>
        (walk path relation.target rest).map fun (hops, column) => (relation :: hops, column)
      | some _, none, _ => .error (.notARelation path segment)
      | none, none, _ => .error (.unknownField entity segment)

end Path

def Entity.resolve (entity : Entity) (path : String) : Except PathError FieldPath :=
  let segments := Path.segments path
  if segments.all (·.isEmpty) then .error .empty
  else (Path.walk path entity segments).map fun (hops, column) => ⟨path, hops, column⟩

end Readership
