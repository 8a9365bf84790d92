import Signpost.Middleware.Rule
import Signpost.Router.Level
import Signpost.Router.Table

/-!
# Compiling levels

A level is compiled into a table under the bases and the middleware of the
levels above it.  Static rules are applied to every template, in the version of
its route.  Compiling stops at the first fault: that of the level itself, then
its static routes, its dynamic routes and its groups, each in order.
-/

namespace Signpost

/-- What holds for all levels. -/
structure CompileSettings where
  rules : List StaticRule := []
  allowOverride : Bool := false
  width : KeyWidth := defaultKeyWidth
  minimal : Bool := false

namespace CompileSettings

/-- The template a route answers with: in its version, and with the rules applied. -/
def finish (c : CompileSettings) (version : Version) (method : Method) (t : RouteTemplate) :
    RouteTemplate :=
  StaticRule.applyAll c.rules method { t with head := { t.head with version } }

end CompileSettings

namespace StaticRoute

/-- A static route below a base, with the template it answers with. -/
def placed (r : StaticRoute) (c : CompileSettings) (base : List String) : StaticRoute :=
  { r with
    path := RouteLevel.joinPath base r.path
    template := c.finish r.version r.method r.template }

end StaticRoute

namespace DynamicResponder

/-- A dynamic route below a base, with the template its responses start out as, behind the
middleware of the levels above. -/
def placed (r : DynamicResponder) (c : CompileSettings) (base : List String)
    (chain : MiddlewareChain) : DynamicResponder :=
  { r with
    route := { r.route with
      path := base.map .literal ++ r.route.path
      template := c.finish r.route.version r.route.method r.route.template }
    middleware := chain ++ r.middleware }

end DynamicResponder

namespace RouteLevel

/-- Add a static route to a store. -/
def compileStatic (c : CompileSettings) (base : List String)
    (store : LineStore RenderedResponse) (r : StaticRoute) :
    Except RouteError (LineStore RenderedResponse) := do
  r.check
  let r := r.placed c base
  let response ← r.template.compile.mapError .head
  let (replaced, store) := store.register r.startLine r.mode response
  if replaced.isSome && !c.allowOverride then
    throw (.duplicate (Utf8.decodeLenient r.startLine))
  return store

/-- Add a dynamic route to the store of its case mode. -/
def compileDynamic (c : CompileSettings) (base : List String) (chain : MiddlewareChain)
    (stores : DynamicStore × DynamicStore) (r : DynamicResponder) :
    Except RouteError (DynamicStore × DynamicStore) := do
  let r := r.placed c base chain
  r.route.template.head.check.mapError .head
  match r.route.mode with
  | .sensitive => return (← stores.1.register r c.allowOverride, stores.2)
  | .insensitive => return (stores.1, ← stores.2.register r c.allowOverride)

mutual

/-- Compile a level below a base and behind a chain of middleware. -/
def compile (c : CompileSettings) :
    RouteLevel → List String → MiddlewareChain → Except RouteError RouteTable
  | ⟨own, statics, dynamics, middleware, groups, fault, _⟩, above, inherited => do
    if let some e := fault then
      throw e
    let base := above ++ own
    let chain := inherited ++ middleware
    let lines ← statics.foldlM (compileStatic c base) {}
    let (sensitive, insensitive) ← dynamics.foldlM (compileDynamic c base chain)
      ({ mode := .sensitive }, { mode := .insensitive })
    let tables ← compileAll c groups base chain
    return {
      base
      statics := PerfectStore.compile lines c.width c.minimal
      dynamicSensitive := sensitive
      dynamicInsensitive := insensitive
      groups := tables }

/-- Compile groups, in order. -/
def compileAll (c : CompileSettings) :
    List RouteLevel → List String → MiddlewareChain → Except RouteError (List RouteTable)
  | [], _, _ => return []
  | level :: rest, above, inherited => do
    let table ← compile c level above inherited
    let tables ← compileAll c rest above inherited
    return table :: tables

end

end RouteLevel

end Signpost
