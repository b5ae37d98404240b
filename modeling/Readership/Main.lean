import Readership.CommandLine
import Std.Time.DateTime.Timestamp

/-!
# Readership.Main

The program: reads the arguments, the files that they name and the clock, and leaves everything
else to `Invocation.run`.
-/

open Readership Readership.Calendar

namespace Readership.Main

def contents (path : String) : IO (Except LoadError String) := do
  try
    pure (.ok (← IO.FS.readFile path))
  catch e =>
    pure (.error (.unreadable path (toString e)))

/-- The time of the clock, to the second. -/
def clock : IO Instant := do
  let seconds := (← Std.Time.Timestamp.now).toSecondsSinceUnixEpoch.val
  pure ((Instant.ofEpochSeconds? seconds).getD default)

/-- Writes an outcome and gives its exit code. -/
def leave (outcome : Outcome) : IO UInt32 := do
  IO.print outcome.output
  IO.eprint outcome.remark
  pure outcome.exitCode.toUInt32

def run (invocation : Invocation) : IO UInt32 := do
  let files ← invocation.paths.mapM fun path => do pure (path, ← contents path)
  let read (path : String) := (files.lookup path).getD (.error (.missing path))
  leave (invocation.run read (← clock))

end Readership.Main

def main (arguments : List String) : IO UInt32 :=
  match Invocation.ofArguments arguments with
  | .ok invocation => Readership.Main.run invocation
  | .error e => Readership.Main.leave (.ofUsageError e)
