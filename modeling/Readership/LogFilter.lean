import Readership.Text.Alphanumeric
import Readership.Text.Blank

/-!
# Readership.LogFilter

Which texts are log filters.

A log filter is a list of directives between commas, and empty ones do not matter.  A directive has
up to three parts, each of which says what it applies to or how much is logged:

```
target[span{field,...}]=level
```

* Directives that are one word only name a level or a target, so any word will do: `info`, `app`.
* A directive starts with a letter, a digit, `-`, `_`, `:` or the bracket of a span.
* Braces hold at least one character, and nothing stands between a closing brace and the closing
  bracket, nor between that and the end or the `=`.
* What follows the first `=` is a level (`isLevel`) or nothing.
* Blanks around a directive do not matter, unless it has a level.
-/

namespace Readership.LogFilter

open Text

/-- The levels by name, from the least to the most that is logged. -/
def levelNames : List String := ["off", "error", "warn", "info", "debug", "trace"]

/-- Whether a text is a number from 0 to 5, maybe with a plus sign and with zeros in front. -/
def isLevelNumber (cs : List Char) : Bool :=
  let digits := match cs with
    | '+' :: ds => ds
    | ds => ds
  match digits.dropWhile (· == '0') with
  | [] => !digits.isEmpty
  | [d] => '1' ≤ d && d ≤ '5'
  | _ => false

/-- Whether a text is a level: a name in any case, or a number. -/
def isLevel (cs : List Char) : Bool :=
  isLevelNumber cs || levelNames.contains (String.ofList (cs.map Char.toLower))

/-- What follows the `=` of a directive. -/
def afterEquals (cs : List Char) : Bool := cs.isEmpty || isLevel cs

/-- What follows the bracket that closes a span; `levels` tells whether a level may follow. -/
def afterSpan (levels : Bool) : List Char → Bool
  | [] => true
  | '=' :: cs => levels && afterEquals cs
  | _ => false

/-- What follows the brace that closes the fields. -/
def afterFields (levels : Bool) : List Char → Bool
  | ']' :: cs => afterSpan levels cs
  | _ => false

/-- What follows the brace that opens the fields, up to which nothing may be left out. -/
def fields (levels isEmpty : Bool) : List Char → Bool
  | [] => false
  | '\x7d' :: cs => !isEmpty && afterFields levels cs
  | _ :: cs => fields levels false cs

/-- What follows the bracket that opens a span. -/
def span (levels : Bool) : List Char → Bool
  | [] => false
  | ']' :: cs => afterSpan levels cs
  | '\x7b' :: cs => fields levels true cs
  | _ :: cs => span levels cs

/-- What follows the first character of a level or target. -/
def name (levels : Bool) : List Char → Bool
  | [] => true
  | '=' :: cs => levels && afterEquals cs
  | '[' :: cs => span levels cs
  | _ :: cs => name levels cs

/-- Whether a character can start a level or target. -/
def startsName (c : Char) : Bool := isAlphanumeric c || c == '-' || c == ':' || c == '_'

def isDirective (cs : List Char) : Bool :=
  let directive := trimChars cs
  let levels := directive == cs
  match directive with
  | [] => false
  | '[' :: rest => span levels rest
  | c :: rest => startsName c && name levels rest

def isValid (s : String) : Bool :=
  ((s.toList.splitOn ',').filter (!·.isEmpty)).all isDirective

end Readership.LogFilter
