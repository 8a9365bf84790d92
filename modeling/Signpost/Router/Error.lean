import Signpost.Http.HeadError
import Signpost.Path.Component

/-!
# Why routes cannot be declared
-/

namespace Signpost

/-- What is wrong with a route or with the base of a group. -/
inductive RouteFault where
  | notRooted
  | blankInPath
  | queryInPath
  | otherCaseMode
  | groupBase
  /-- A fault in the words of whoever reports it. -/
  | reported (reason : String)
  deriving DecidableEq, Repr

def RouteFault.reason : RouteFault → String
  | notRooted => "path must start with '/'"
  | blankInPath => "path contains whitespace or control characters"
  | queryInPath => "path contains a query or fragment"
  | otherCaseMode => "case mode differs from storage"
  | groupBase => "group prefix must be literal segments starting with '/'"
  | reported reason => reason

inductive RouteError where
  | duplicate (route : String)
  | invalid (route : String) (fault : RouteFault)
  | path (error : PathError)
  | head (error : HeadError)
  | cookie (error : CookieError)
  deriving DecidableEq, Repr

def RouteError.message : RouteError → String
  | duplicate route => "duplicate route: " ++ route
  | invalid route fault => "invalid route " ++ route ++ ": " ++ fault.reason
  | path error => error.message
  | head error => error.message
  | cookie error => error.message

end Signpost
