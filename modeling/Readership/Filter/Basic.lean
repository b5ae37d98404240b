import Readership.Filter.Structure
import Readership.Filter.Typing
import Readership.ViewQuery

/-!
# Readership.Filter.Basic

Narrowing a selection of views by a filter tree.

A tree is read as a predicate, tied to the schema and added to the selection; nothing is evaluated
by that, and whether it succeeds depends on no dataset.
-/

namespace Readership

inductive FilterError where
  | shape (cause : StructureError)
  | typing (cause : TypingError)
deriving DecidableEq, Repr

def FilterError.message : FilterError → String
  | shape cause => "Invalid filter: " ++ cause.message
  | typing cause => "Invalid filter: " ++ cause.message

/-- The filter of views that a tree stands for. -/
def RowFilter.ofTree (tree : Json) : Except FilterError RowFilter :=
  match Predicate.ofTree tree with
  | .error e => .error (.shape e)
  | .ok p =>
    match p.toRowFilter with
    | .error e => .error (.typing e)
    | .ok f => .ok f

/-- The views of a selection that a filter tree leaves; without a tree, all of them. -/
def ViewQuery.narrow (q : ViewQuery) (tree : Option Json) : Except FilterError ViewQuery :=
  match tree with
  | none => .ok q
  | some tree => (RowFilter.ofTree tree).map q.filter

end Readership
