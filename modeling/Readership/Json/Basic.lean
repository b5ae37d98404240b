import Readership.Json.Number

/-!
# Readership.Json.Basic

JSON values.

The members of an object are a list of pairs.  `Json.ofMembers` puts them in order of their keys,
by code points, and lets the last of several members with one key stand; objects that were read
from text have this form.
-/

namespace Readership

inductive Json where
  | null
  | bool (b : Bool)
  | number (n : Json.Number)
  | string (s : String)
  | array (items : List Json)
  | object (members : List (String × Json))
deriving Repr, Inhabited

namespace Json

/-- What a value is called in messages. -/
def kind : Json → String
  | null => "null"
  | bool _ => "boolean"
  | number _ => "number"
  | string _ => "string"
  | array _ => "array"
  | object _ => "object"

/-- The value of the member with a key; only objects have members. -/
def get? (key : String) : Json → Option Json
  | object members => members.lookup key
  | _ => none

/-- Whether there is a member with a key. -/
def hasKey (key : String) (j : Json) : Bool := (j.get? key).isSome

/-- Adds a member to members in order of their keys, in place of one with the same key. -/
def insert (key : String) (value : Json) : List (String × Json) → List (String × Json)
  | [] => [(key, value)]
  | (k, v) :: rest =>
    if key < k then (key, value) :: (k, v) :: rest
    else if key = k then (key, value) :: rest
    else (k, v) :: insert key value rest

/-- The object with given members, the later of two with one key winning. -/
def ofMembers (members : List (String × Json)) : Json :=
  object (members.foldl (fun ms (k, v) => insert k v ms) [])

def ofInt (n : Int) : Json := number (.integer n)

end Json

end Readership
