import Readership.Analytics
import Readership.Config
import Readership.Dataset.Document
import Readership.Json.Text
import Readership.LogFilter

/-!
# Readership.CommandLine

The command line.

```
readership [--data FILE] [--config FILE] [--now INSTANT] COMMAND [OPTION VALUE]...
```

* `Invocation.ofArguments` reads the arguments.  The three options above may stand before or after
  the command, and what stands after it counts; no option may stand twice on the same side.
* A value is the next argument, unless that starts with a hyphen, or is attached: `--data=FILE`,
  `-dFILE`, `-d=FILE`.
* `Invocation.run` does what was asked for, with the files given by what they hold.

The exit codes are 0 for an answer, 2 for what the caller can put right by another command line, 1
for files that cannot be used and for internal errors, and 101 for a window that would start before
the earliest date.  Answers and errors of requests are JSON on the standard output; all else is
said on the standard error.
-/

namespace Readership

open Calendar

/-! ## arguments -/

/-- A report to write, or a filter to check. -/
inductive Command where
  | blogViews (request : BlogViewsRequest)
  | top (request : TopRequest)
  | performance (request : PerformanceRequest)
  | validate (filters : Option String)

structure Invocation where
  /-- The path of the dataset. -/
  data : Option String
  /-- The path of the configuration. -/
  config : Option String
  /-- The time to take for now. -/
  now : Option Instant
  command : Command

/-- Why a command line asks for nothing that can be done. -/
inductive UsageError where
  /-- It asks for help. -/
  | helpWanted
  | unexpectedArgument (argument : String)
  | missingValue (option : String)
  | repeatedOption (option : String)
  | badValue (option value : String)
  | missingCommand
deriving DecidableEq, Repr

namespace CommandLine

def commonOptions : List String := ["data", "config", "now"]

/-- The options of one command only. -/
def commandOptions? : String → Option (List String)
  | "blog-views" => some ["object-type", "range", "filters"]
  | "top" => some ["top", "range", "filters"]
  | "performance" => some ["compare", "user-id", "filters"]
  | "validate" => some ["filters"]
  | _ => none

/-- The option that a letter stands for. -/
def optionOfLetter? : Char → Option String
  | 'd' => some "data"
  | 'c' => some "config"
  | 'h' => some "help"
  | _ => none

inductive Argument where
  | word
  /-- An option, and its value if that is attached. -/
  | option (name : String) (value : Option String)
  /-- Two hyphens, after which there are no options. -/
  | endOfOptions
  | unknown

def Argument.ofText (s : String) : Argument :=
  match s.toList with
  | ['-', '-'] => endOfOptions
  | '-' :: '-' :: rest =>
    let name := String.ofList (rest.takeWhile (· != '='))
    match rest.dropWhile (· != '=') with
    | [] => option name none
    | _ :: value => option name (some (String.ofList value))
  | '-' :: letter :: rest =>
    match optionOfLetter? letter, rest with
    | none, _ => unknown
    | some name, [] => option name none
    | some name, '=' :: value => option name (some (String.ofList value))
    | some name, value => option name (some (String.ofList value))
  | _ => word

/-- Whether an option can have a value. -/
def accepts (option value : String) : Bool :=
  match option with
  | "data" | "config" => !value.isEmpty
  | "now" => (Instant.ofRelaxed? value).isSome
  | _ => true

abbrev Options := List (String × String)

/-- Adds an option, unless it is there or cannot have that value. -/
def add (given : Options) (option value : String) : Except UsageError Options :=
  if !accepts option value then .error (.badValue option value)
  else if (given.lookup option).isSome then .error (.repeatedOption option)
  else .ok ((option, value) :: given)

/-- Reads options up to the first argument that is neither an option nor a value. -/
def options (known : List String) (given : Options) :
    List String → Except UsageError (Options × List String)
  | [] => .ok (given, [])
  | argument :: rest =>
    match Argument.ofText argument with
    | .word | .endOfOptions => .ok (given, argument :: rest)
    | .unknown => .error (.unexpectedArgument argument)
    | .option name attached =>
      if name = "help" then
        match argument.startsWith "--", attached with
        | true, some _ => .error (.unexpectedArgument argument)
        | _, _ => .error .helpWanted
      else if !known.contains name then .error (.unexpectedArgument argument)
      else
        match attached, rest with
        | some value, rest => do options known (← add given name value) rest
        | none, [] => .error (.missingValue name)
        | none, value :: rest =>
          match Argument.ofText value with
          | .word => do options known (← add given name value) rest
          | _ => .error (.missingValue name)

def command? (name : String) (given : Options) : Option Command :=
  let value (option : String) := given.lookup option
  match name with
  | "blog-views" => some (.blogViews ⟨value "object-type", value "range", value "filters"⟩)
  | "top" => some (.top ⟨value "top", value "range", value "filters"⟩)
  | "performance" => some (.performance ⟨value "compare", value "user-id", value "filters"⟩)
  | "validate" => some (.validate (value "filters"))
  | _ => none

/-- Reads what follows a command; `before` are the options in front of it. -/
def afterCommand (name : String) (before : Options) (rest : List String) :
    Except UsageError Invocation := do
  let unexpected := .error (.unexpectedArgument name)
  let some own := commandOptions? name | unexpected
  let (after, rest) ← options (commonOptions ++ own) [] rest
  let given := after ++ before
  match rest, command? name given with
  | [], some command | ["--"], some command =>
    pure ⟨given.lookup "data", given.lookup "config",
      (given.lookup "now").bind Instant.ofRelaxed?, command⟩
  | argument :: _, _ => .error (.unexpectedArgument argument)
  | [], none => unexpected

end CommandLine

open CommandLine in
def Invocation.ofArguments (arguments : List String) : Except UsageError Invocation := do
  match ← options commonOptions [] arguments with
  | (_, []) => .error .missingCommand
  | (_, ["help"]) => .error .helpWanted
  | (_, ["help", name]) =>
    .error (if (commandOptions? name).isSome then .helpWanted else .unexpectedArgument name)
  | (before, name :: rest) => afterCommand name before rest

/-! ## running -/

/-- Why an invocation has no answer. -/
inductive Failure where
  | load (cause : LoadError)
  | badLogFilter (directives : String)
  | dataRequired
  | request (cause : AnalyticsError)

namespace Failure

def exitCode : Failure → Nat
  | request .windowOutOfRange => 101
  | request cause => if cause.isClientError then 2 else 1
  | _ => 1

def message : Failure → String
  | load cause => cause.message
  | badLogFilter directives => "invalid log filter '" ++ directives ++ "'"
  | dataRequired => "--data is required for this command"
  | request cause => cause.message

/-- The JSON value that tells of a failed request; other failures have none. -/
def json? : Failure → Option Json
  | request .windowOutOfRange => none
  | request cause => some (Json.ofMembers [("error", .string cause.publicMessage)])
  | _ => none

end Failure

/-- What running a command line leaves behind. -/
structure Outcome where
  exitCode : Nat
  /-- The standard output. -/
  output : String := ""
  /-- What is said on the standard error. -/
  remark : String := ""
deriving DecidableEq, Repr

namespace Outcome

/-- A JSON value as it is written. -/
def written (j : Json) : String := j.pretty ++ "\n"

def ofAnswer : Except Failure Json → Outcome
  | .ok j => { exitCode := 0, output := written j }
  | .error e =>
    { exitCode := e.exitCode, output := e.json?.elim "" written, remark := e.message ++ "\n" }

def usage : String :=
  "Usage: readership [--data FILE] [--config FILE] [--now INSTANT] COMMAND [OPTION VALUE]...\n" ++
  "\n" ++
  "Commands:\n" ++
  "  blog-views   --object-type TYPE  --range RANGE  --filters JSON\n" ++
  "  top          --top TYPE          --range RANGE  --filters JSON\n" ++
  "  performance  --compare PERIOD    --user-id ID   --filters JSON\n" ++
  "  validate                                        --filters JSON\n"

def ofUsageError : UsageError → Outcome
  | .helpWanted => { exitCode := 0, output := usage }
  | .unexpectedArgument a => refused ("unexpected argument '" ++ a ++ "'")
  | .missingValue o => refused ("--" ++ o ++ " needs a value")
  | .repeatedOption o => refused ("--" ++ o ++ " is given twice")
  | .badValue o v => refused ("--" ++ o ++ " cannot be '" ++ v ++ "'")
  | .missingCommand => refused "a command is missing"
where
  /-- Says what is wrong and how to do it right. -/
  refused (problem : String) : Outcome :=
    { exitCode := 2, remark := "error: " ++ problem ++ "\n\n" ++ usage }

end Outcome

/-- What files hold, by their paths. -/
abbrev Files := String → Except LoadError String

namespace Invocation

/-- The configuration that was asked for, or the default. -/
def configuration (i : Invocation) (files : Files) : Except LoadError Config :=
  match i.config with
  | some path => files path >>= Config.ofYaml
  | none => .ok {}

def dataset (i : Invocation) (files : Files) : Except Failure Dataset :=
  match i.data with
  | some path => (files path >>= Dataset.ofYaml).mapError .load
  | none => .error .dataRequired

def report (rows : Dataset → Except AnalyticsError (List Row)) (d : Dataset) :
    Except Failure Json := do
  pure (.array ((← (rows d).mapError .request).map Row.json))

/-- The answer to a command line; `clock` is the time if no other was given. -/
def answer (i : Invocation) (files : Files) (clock : Instant) : Except Failure Json := do
  let config ← (i.configuration files).mapError .load
  let directives := config.logging.directives
  if !LogFilter.isValid directives then throw (.badLogFilter directives)
  let now := i.now.getD clock
  match i.command with
  | .validate filters =>
    (Analytics.validate filters).mapError .request
    pure (Json.ofMembers [("valid", .bool true)])
  | .blogViews r => report (Analytics.blogViews · now r) (← i.dataset files)
  | .top r => report (Analytics.top · now r) (← i.dataset files)
  | .performance r => report (Analytics.performance · config.baseline r) (← i.dataset files)

def run (i : Invocation) (files : Files) (clock : Instant) : Outcome :=
  .ofAnswer (i.answer files clock)

/-- The paths of the files that matter. -/
def paths (i : Invocation) : List String := i.config.toList ++ i.data.toList

end Invocation

end Readership
