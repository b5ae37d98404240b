import Readership.Json.Reader
import Readership.Period
import Readership.Report.Ranking
import Readership.Text.Blank
import Readership.Window

/-!
# Readership.Request

Requests as they arrive: parameters in texts, any of which may be missing.

Blanks around a parameter do not matter, and a blank parameter is a missing one (`given?`).  Each
accessor below reads one parameter or says what is wrong with it.
-/

namespace Readership

open Report Text

inductive ParameterError where
  | objectTypeRequired
  | objectTypeUnknown
  | rangeRequired
  | rangeUnknown
  | topRequired
  | topUnknown
  | compareRequired
  | compareUnknown
  | userIdNotAnInteger
  | filtersNotJson
deriving DecidableEq, Repr

def ParameterError.message : ParameterError → String
  | objectTypeRequired => "object_type is required"
  | objectTypeUnknown => "object_type must be \"country\" or \"user\""
  | rangeRequired => "range parameter is required"
  | rangeUnknown => "range must be one of \"month\", \"week\", or \"year\"."
  | topRequired => "top parameter is required"
  | topUnknown => "top must be \"user\", \"country\", or \"blog\""
  | compareRequired => "compare is required"
  | compareUnknown => "Invalid compare type"
  | userIdNotAnInteger => "user_id must be an integer"
  | filtersNotJson => "Invalid JSON in filters parameter"

/-! ## names -/

def Report.GroupDimension.ofName : String → Except ParameterError GroupDimension
  | "country" => .ok .country
  | "user" => .ok .user
  | _ => .error .objectTypeUnknown

def Report.TopDimension.ofName : String → Except ParameterError TopDimension
  | "user" => .ok .user
  | "country" => .ok .country
  | "blog" => .ok .blog
  | _ => .error .topUnknown

def Granularity.ofName : String → Except ParameterError Granularity
  | "day" => .ok .day
  | "week" => .ok .week
  | "month" => .ok .month
  | "year" => .ok .year
  | _ => .error .compareUnknown

def Window.ofName : String → Except ParameterError Window
  | "week" => .ok .week
  | "month" => .ok .month
  | "year" => .ok .year
  | _ => .error .rangeUnknown

/-! ## parameters -/

namespace Request

/-- A parameter without the blanks around it, unless that leaves nothing. -/
def given? (parameter : Option String) : Option String :=
  (parameter.map trim).filter (!·.isEmpty)

def required {α : Type} (parameter : Option String) (missing : ParameterError)
    (read : String → Except ParameterError α) : Except ParameterError α :=
  match given? parameter with
  | some s => read s
  | none => .error missing

def optional {α : Type} (parameter : Option String)
    (read : String → Except ParameterError α) : Except ParameterError (Option α) :=
  match given? parameter with
  | some s => (read s).map some
  | none => .ok none

def readUserId (s : String) : Except ParameterError Int :=
  match readInteger? s with
  | some n => .ok n
  | none => .error .userIdNotAnInteger

def readTree (s : String) : Except ParameterError Json :=
  match Json.read? s with
  | some j => .ok j
  | none => .error .filtersNotJson

def loadFilters (filters : Option String) : Except ParameterError (Option Json) :=
  optional filters readTree

end Request

/-! ## requests -/

/-- Views grouped by country or user within a window. -/
structure BlogViewsRequest where
  objectType : Option String := none
  range : Option String := none
  filters : Option String := none
deriving Inhabited

namespace BlogViewsRequest

def dimension (r : BlogViewsRequest) : Except ParameterError GroupDimension :=
  Request.required r.objectType .objectTypeRequired GroupDimension.ofName

def window (r : BlogViewsRequest) : Except ParameterError Window :=
  Request.required r.range .rangeRequired Window.ofName

end BlogViewsRequest

/-- The top users, countries or blogs, of all time or within a window. -/
structure TopRequest where
  top : Option String := none
  range : Option String := none
  filters : Option String := none
deriving Inhabited

namespace TopRequest

def dimension (r : TopRequest) : Except ParameterError TopDimension :=
  Request.required r.top .topRequired TopDimension.ofName

/-- The window of views to count; all time without one. -/
def window (r : TopRequest) : Except ParameterError (Option Window) :=
  Request.optional r.range Window.ofName

end TopRequest

/-- Views per period, of all blogs or of one author's. -/
structure PerformanceRequest where
  compare : Option String := none
  userId : Option String := none
  filters : Option String := none
deriving Inhabited

namespace PerformanceRequest

def granularity (r : PerformanceRequest) : Except ParameterError Granularity :=
  Request.required r.compare .compareRequired Granularity.ofName

/-- The author whose blogs are looked at. -/
def author (r : PerformanceRequest) : Except ParameterError (Option Int) :=
  Request.optional r.userId Request.readUserId

end PerformanceRequest

end Readership
