import Readership.Growth
import Readership.LoadError
import Readership.Text.Blank
import Readership.Yaml.Decode

/-!
# Readership.Config

Configuration.

A configuration is a YAML document with the fields `growth_baseline` and `logging`, the latter with
`level`, `modules` and `format`.  All are optional, and there may be no others.  A blank text is the
default configuration.

`Logging.directives` is the level followed by those of single modules, in the order of their names:
`info,app::filter=debug`.
-/

namespace Readership

open Yaml

inductive LogFormat where
  | plain
  | json
deriving DecidableEq, Repr, Inhabited

def LogFormat.name : LogFormat → String
  | plain => "plain"
  | json => "json"

structure Logging where
  level : String := "info"
  /-- Levels of single modules, in the order of their names. -/
  modules : List (String × String) := []
  format : LogFormat := .plain
deriving DecidableEq, Repr, Inhabited

/-- The level and those of single modules in one text. -/
def Logging.directives (l : Logging) : String :=
  l.modules.foldl (fun text (name, level) => text ++ "," ++ name ++ "=" ++ level) l.level

structure Config where
  baseline : Baseline := .sequential
  logging : Logging := {}
deriving DecidableEq, Repr, Inhabited

namespace Config

def baseline? (n : Node) : Option Baseline := do
  let name ← n.choice?
  [Baseline.sequential, .calendar].find? (·.name == name)

def format? (n : Node) : Option LogFormat := do
  let name ← n.choice?
  [LogFormat.plain, .json].find? (·.name == name)

/-- Adds a module to modules in the order of their names, in place of one with its name. -/
def insertModule (name level : String) : List (String × String) → List (String × String)
  | [] => [(name, level)]
  | (n, l) :: rest =>
    if name < n then (name, level) :: (n, l) :: rest
    else if name = n then (name, level) :: rest
    else (n, l) :: insertModule name level rest

/-- Levels by module; of one module the last level counts. -/
def modules? (n : Node) : Option (List (String × String)) := do
  (← n.entries?).foldlM (fun modules (name, level) => do
    pure (insertModule name (← level.text?) modules)) []

def logging? (n : Node) : Option Logging := do
  let f ← Fields.closed? ["level", "modules", "format"] n
  pure
    { level := ← f.default? "level" "info" Node.text?
      modules := ← f.default? "modules" [] modules?
      format := ← f.default? "format" .plain format? }

def ofNode? (n : Node) : Option Config := do
  let f ← Fields.closed? ["growth_baseline", "logging"] n
  pure
    { baseline := ← f.default? "growth_baseline" .sequential baseline?
      logging := ← f.default? "logging" {} logging? }

def ofYaml (s : String) : Except LoadError Config :=
  if Text.isBlankText s then .ok {}
  else
    match (document? s).bind ofNode? with
    | some c => .ok c
    | none => .error .malformed

end Config

end Readership
