import Signpost.Router.Compile

/-!
# Routers

A plan holds the declared levels and everything else that a router is made
from.  `RouterPlan.build` compiles it; the router answers requests and never
changes.
-/

namespace Signpost

/-- What happens to a request that nothing matches, where there is no not-found response. -/
inductive UnmatchedPolicy where
  /-- Nothing is written. -/
  | close
  /-- A response with status 404 and an empty body is written. -/
  | bareNotFound
  deriving DecidableEq, Repr

def UnmatchedPolicy.text : UnmatchedPolicy → String
  | close => "Close"
  | bareNotFound => "BareNotFound"

/-- The response to a failure. -/
abbrev ErrorResponder := ResponseError → DynamicResponse

/-- Tells a failure as a JSON object, under its own status. -/
def jsonErrorResponder : ErrorResponder := fun e =>
  (DynamicResponse.json
    (.ofMembers [("error", .bool true), ("reason", .string e.message)])).withStatus e.status

/-- How requests that nothing matches are answered. -/
inductive NotFoundPlan where
  | fixed (template : RouteTemplate)
  /-- A handler, whose response starts out with status 404. -/
  | handled (handler : Handler)

structure RouterPlan where
  routes : RouteLevel := {}
  rules : List StaticRule := []
  notFound : Option NotFoundPlan := none
  errorResponder : Option ErrorResponder := some jsonErrorResponder
  unmatched : UnmatchedPolicy := .close
  allowOverride : Bool := false
  width : KeyWidth := defaultKeyWidth
  minimal : Bool := false
  /-- The date that responses carry. -/
  date : Octets

inductive NotFound where
  | fixed (response : RenderedResponse)
  | dynamic (responder : DynamicResponder)

structure Router where
  table : RouteTable
  notFound : Option NotFound
  errorResponder : Option ErrorResponder
  unmatched : UnmatchedPolicy
  date : Octets

namespace RouterPlan

def settings (p : RouterPlan) : CompileSettings where
  rules := p.rules
  allowOverride := p.allowOverride
  width := p.width
  minimal := p.minimal

/-- The route that stands for everything not found. -/
def notFoundRoute : DynamicRoute :=
  { path := [.catchAll], template := RouteTemplate.ofStatus Status.notFound }

def compileNotFound (p : RouterPlan) : NotFoundPlan → Except RouteError NotFound
  | .fixed template =>
    ((StaticRule.applyAll p.rules .get template).compile.mapError .head).map .fixed
  | .handled handler =>
    .ok (.dynamic { route := notFoundRoute, handler, middleware := p.routes.middleware })

/-- The router of a plan, or the first fault in it. -/
def build (p : RouterPlan) : Except RouteError Router := do
  let table ← p.routes.compile p.settings [] []
  let notFound ← p.notFound.mapM p.compileNotFound
  return {
    table
    notFound
    errorResponder := p.errorResponder
    unmatched := p.unmatched
    date := p.date }

end RouterPlan

namespace Router

def routeCount (r : Router) : Nat := r.table.size

def flagText (b : Bool) : String := if b then "true" else "false"

/-- The router as shown in logs. -/
def describe (r : Router) : String :=
  "Router \x7b routes: " ++ Numeral.decimal r.routeCount ++
    ", groups: " ++ Numeral.decimal r.table.groups.length ++
    ", not_found: " ++ flagText r.notFound.isSome ++
    ", error_responder: " ++ flagText r.errorResponder.isSome ++
    ", unmatched: " ++ r.unmatched.text ++ " \x7d"

end Router

end Signpost
