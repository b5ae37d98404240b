import Readership.Dataset.Integrity

/-!
# Readership.LoadError

Why a file does not give what it should hold.

Three things go wrong in turn: the file cannot be read, its text is no document of the kind, or the
rows of the document contradict each other.
-/

namespace Readership

/-- Why a file gives no dataset or no configuration. -/
inductive LoadError where
  /-- The file cannot be read. -/
  | unreadable (path reason : String)
  /-- The text is no document of the kind. -/
  | malformed
  /-- The rows contradict each other. -/
  | integrity (violation : Violation)
deriving DecidableEq, Repr

namespace LoadError

def message : LoadError → String
  | unreadable path reason => "Failed to read '" ++ path ++ "': " ++ reason
  | malformed => "Invalid YAML"
  | integrity violation => violation.message

/-- There is no file of that name. -/
def missing (path : String) : LoadError :=
  unreadable path "No such file or directory (os error 2)"

end LoadError

end Readership
