import Readership.Json.Text

/-!
# Readership.Filter.Predicate

Filters as they are written, before they are tied to the schema.

A `Predicate` is a tree of conditions.  A condition compares what a field path leads to with an
operand, which stays the JSON value it was given as.
-/

namespace Readership

/-- What a condition asks for. -/
inductive Operator where
  /-- Equality; with the operand null, the test for null. -/
  | eq
  /-- Equality with an item of a list. -/
  | oneOf
  /-- The occurrence of a text, whatever the letter case. -/
  | contains
  | gt
  | gte
  | lt
  | lte
deriving DecidableEq, Repr, Inhabited

namespace Operator

def name : Operator → String
  | eq => "eq"
  | oneOf => "in"
  | contains => "contains"
  | gt => "gt"
  | gte => "gte"
  | lt => "lt"
  | lte => "lte"

def all : List Operator := [eq, oneOf, contains, gt, gte, lt, lte]

def ofName? (name : String) : Option Operator := all.find? (·.name == name)

/-- Whether an operator needs an order on the values. -/
def isOrdering : Operator → Bool
  | gt | gte | lt | lte => true
  | _ => false

end Operator

/-- What joins the parts of a filter. -/
inductive Connective where
  | and
  | or
  | not
deriving DecidableEq, Repr, Inhabited

namespace Connective

def key : Connective → String
  | and => "and"
  | or => "or"
  | not => "not"

/-- The word for a connective in messages and in written predicates. -/
def word : Connective → String
  | and => "AND"
  | or => "OR"
  | not => "NOT"

/-- All connectives, in the order of their keys: `and`, `not`, `or`. -/
def all : List Connective := [and, not, or]

def ofKey? (key : String) : Option Connective := all.find? (·.key == key)

end Connective

/-- A comparison of the values of a path with an operand. -/
structure Condition where
  /-- The field path. -/
  path : String
  op : Operator
  operand : Json
deriving Inhabited

/-- A condition in words. -/
def Condition.display (c : Condition) : String :=
  c.path ++ " " ++ c.op.name ++ " " ++ c.operand.compact

/-- A filter as it is written. -/
inductive Predicate where
  /-- Holds of every row. -/
  | always
  | condition (c : Condition)
  | all (parts : List Predicate)
  | any (parts : List Predicate)
  | not (part : Predicate)
deriving Inhabited

namespace Predicate

/-- Whether a predicate is the one that says nothing. -/
def isAlways : Predicate → Bool
  | always => true
  | _ => false

mutual

/-- The conditions of a predicate from left to right. -/
def conditions : Predicate → List Condition
  | always => []
  | condition c => [c]
  | all parts => conditionsOf parts
  | any parts => conditionsOf parts
  | not part => conditions part

def conditionsOf : List Predicate → List Condition
  | [] => []
  | p :: ps => conditions p ++ conditionsOf ps

end

mutual

def display : Predicate → String
  | always => "TRUE"
  | condition c => c.display
  | all parts => "(" ++ String.intercalate " AND " (displays parts) ++ ")"
  | any parts => "(" ++ String.intercalate " OR " (displays parts) ++ ")"
  | not part => "NOT " ++ display part

def displays : List Predicate → List String
  | [] => []
  | p :: ps => display p :: displays ps

end

end Predicate

end Readership
