import Readership.Calendar.Instant

/-!
# Readership.Value

Scalar values of the dataset and of filter operands.

Values are ordered within a type only: `Value.compare?` has no answer when either side is null or
the types differ, so a comparison that involves a null never holds.
-/

namespace Readership

open Calendar

inductive FieldType where
  | integer
  | text
  | boolean
  | timestamp
deriving DecidableEq, Repr, Inhabited

namespace FieldType

def name : FieldType → String
  | integer => "integer"
  | text => "text"
  | boolean => "boolean"
  | timestamp => "timestamp"

/-- Whether less and greater mean anything for the type. -/
def isOrdered (t : FieldType) : Bool := t != boolean

end FieldType

/-- A value read from a row, or an operand. -/
inductive Value where
  | null
  | boolean (b : Bool)
  | integer (n : Int)
  | text (s : String)
  | timestamp (t : Instant)
deriving DecidableEq, Inhabited

namespace Value

def type? : Value → Option FieldType
  | null => none
  | boolean _ => some .boolean
  | integer _ => some .integer
  | text _ => some .text
  | timestamp _ => some .timestamp

def isNull : Value → Bool
  | null => true
  | _ => false

def text? : Value → Option String
  | text s => some s
  | _ => none

def integer? : Value → Option Int
  | integer n => some n
  | _ => none

/-- The integer of an optional key; none is null. -/
def ofKey? : Option Int → Value
  | some n => integer n
  | none => null

/-- How two values of one type are ordered: false before true, texts by code points. -/
def compare? : Value → Value → Option Ordering
  | boolean a, boolean b => some (compare a b)
  | integer a, integer b => some (compare a b)
  | text a, text b => some (compare a b)
  | timestamp a, timestamp b => some (compare a b)
  | _, _ => none

/-- A value as shown to people; texts stand in single quotes as they are. -/
def display : Value → String
  | null => "null"
  | boolean b => if b then "true" else "false"
  | integer n => toString n
  | text s => "'" ++ s ++ "'"
  | timestamp t => t.text

theorem compare?_isSome_iff {a b : Value} :
    (compare? a b).isSome ↔ a.type?.isSome ∧ a.type? = b.type? := by
  cases a <;> cases b <;> simp [compare?, type?]

end Value

end Readership
