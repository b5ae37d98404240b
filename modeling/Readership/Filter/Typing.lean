import Readership.Calendar.Notation
import Readership.Filter.Predicate
import Readership.RowFilter
import Readership.Text.Blank

/-!
# Readership.Filter.Typing

Tying a predicate to the schema.

Each condition starts at a view.  Its path has to lead to a field, and its operand has to be of the
field's type, read as `FieldType.operand?` says:

* integers are JSON integers or texts of them, both within a 64-bit word;
* texts are strings and booleans are booleans;
* timestamps are strings that hold an instant or a date.

Null is an operand of `eq` alone.  `contains` asks for text fields, and the ordering operators for
fields whose type is ordered.  The first ill-typed condition from the left decides the error.
-/

namespace Readership

open Calendar Text

inductive TypingError where
  | field (cause : PathError)
  /-- The operand, given by its text, is not of the field's type. -/
  | typeMismatch (path : String) (expected : FieldType) (found : String)
  /-- The operator takes a list. -/
  | operandShape (path : String) (op : Operator)
  | unsupportedComparison (path : String) (op : Operator) (type : FieldType)
  | nullOperand (path : String) (op : Operator)
deriving DecidableEq, Repr

def TypingError.message : TypingError → String
  | field cause => cause.message
  | typeMismatch path expected found =>
    "'" ++ path ++ "' expects a " ++ expected.name ++ " value, got " ++ found
  | operandShape path op =>
    "operator '" ++ op.name ++ "' on '" ++ path ++ "' requires an array of values"
  | unsupportedComparison path op type =>
    "operator '" ++ op.name ++ "' is not supported on " ++ type.name ++ " field '" ++ path ++ "'"
  | nullOperand path op => "operator '" ++ op.name ++ "' on '" ++ path ++ "' does not accept null"

/-- The value of a type that a JSON operand other than null stands for. -/
def FieldType.operand? : FieldType → Json → Option Value
  | .integer, .number (.integer n) => if fitsWord n then some (.integer n) else none
  | .integer, .string s => (readInteger? (trim s)).map .integer
  | .text, .string s => some (.text s)
  | .boolean, .bool b => some (.boolean b)
  | .timestamp, .string s => (Instant.ofOperand? s).map .timestamp
  | _, _ => none

namespace FieldPath

/-- The value that an operand stands for on a field. -/
def operand (f : FieldPath) (op : Operator) (j : Json) : Except TypingError Value :=
  match j with
  | .null => .error (.nullOperand f.path op)
  | j =>
    match f.type.operand? j with
    | some v => .ok v
    | none => .error (.typeMismatch f.path f.type j.compact)

def operands (f : FieldPath) (op : Operator) : List Json → Except TypingError (List Value)
  | [] => .ok []
  | j :: js =>
    match f.operand op j with
    | .error e => .error e
    | .ok v => (f.operands op js).map (v :: ·)

def containing (f : FieldPath) (j : Json) : Except TypingError Lookup :=
  if f.type != .text then .error (.unsupportedComparison f.path .contains f.type)
  else
    match j with
    | .string needle => .ok (.containing needle)
    | .null => .error (.nullOperand f.path .contains)
    | j => .error (.typeMismatch f.path f.type j.compact)

/-- The test of an ordered field against a bound. -/
def comparing (f : FieldPath) (op : Operator) (test : Value → Lookup) (j : Json) :
    Except TypingError Lookup :=
  if f.type.isOrdered then (f.operand op j).map test
  else .error (.unsupportedComparison f.path op f.type)

/-- The test that an operator and an operand make on a field. -/
def lookup (f : FieldPath) (op : Operator) (j : Json) : Except TypingError Lookup :=
  match op, j with
  | .eq, .null => .ok .isNull
  | .eq, j => (f.operand .eq j).map .exact
  | .oneOf, .array items => (f.operands .oneOf items).map .oneOf
  | .oneOf, _ => .error (.operandShape f.path .oneOf)
  | .contains, j => f.containing j
  | .gt, j => f.comparing .gt .greater j
  | .gte, j => f.comparing .gte .greaterOrEqual j
  | .lt, j => f.comparing .lt .less j
  | .lte, j => f.comparing .lte .lessOrEqual j

end FieldPath

def Condition.toRowFilter (c : Condition) : Except TypingError RowFilter :=
  match Entity.view.resolve c.path with
  | .error e => .error (.field e)
  | .ok f => (f.lookup c.op c.operand).map (.test f)

namespace Predicate

mutual

def toRowFilter : Predicate → Except TypingError RowFilter
  | always => .ok .always
  | condition c => c.toRowFilter
  | all parts => (toRowFilters parts).map .all
  | any parts => (toRowFilters parts).map .any
  | not part => (toRowFilter part).map .not

def toRowFilters : List Predicate → Except TypingError (List RowFilter)
  | [] => .ok []
  | p :: ps =>
    match toRowFilter p with
    | .error e => .error e
    | .ok f => (toRowFilters ps).map (f :: ·)

end

end Predicate

end Readership
