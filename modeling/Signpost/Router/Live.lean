import Signpost.Router.Dispatch

/-!
# Live routers

A live router takes new routes while it is in use.  It keeps its plan, and the
router built from it.  A new route is tried on a copy of the plan: if that can
be built it becomes the plan and the new router is published, and otherwise
nothing changes.
-/

namespace Signpost

/-- A route that is added to a plan in use. -/
inductive Addition where
  | fixed (route : StaticRoute)
  | dynamic (route : DynamicResponder)

namespace Addition

/-- The plan with the route declared on its root level, after all that are there. -/
def declare (a : Addition) (plan : RouterPlan) : RouterPlan :=
  match a with
  | fixed r => { plan with routes := plan.routes.addStatic r }
  | dynamic r => { plan with routes := plan.routes.addDynamic r }

/-- The plan with routes declared one after the other. -/
def declareAll (plan : RouterPlan) (additions : List Addition) : RouterPlan :=
  additions.foldl (fun plan a => a.declare plan) plan

end Addition

structure LiveRouter where
  plan : RouterPlan
  current : Router
  built : plan.build = .ok current

namespace LiveRouter

def ofPlan (plan : RouterPlan) : Except RouteError LiveRouter :=
  match built : plan.build with
  | .ok current => .ok { plan, current, built }
  | .error e => .error e

/-- Change the plan, if what it becomes can be built. -/
def update (l : LiveRouter) (declare : RouterPlan → RouterPlan) : Except RouteError LiveRouter :=
  ofPlan (declare l.plan)

def add (l : LiveRouter) (a : Addition) : Except RouteError LiveRouter := l.update a.declare

def addStatic (l : LiveRouter) (r : StaticRoute) : Except RouteError LiveRouter :=
  l.add (.fixed r)

def addDynamic (l : LiveRouter) (r : DynamicResponder) : Except RouteError LiveRouter :=
  l.add (.dynamic r)

/-- The live router as shown in logs. -/
def describe (l : LiveRouter) : String :=
  "MutableRouter \x7b current: " ++ l.current.describe ++ " \x7d"

end LiveRouter

end Signpost
