import Signpost.Router.Route

/-!
# Levels of declarations

Routes are declared on levels.  The root level has no base; every group is a
level below another one, with literal segments as the base of all its paths and
with middleware of its own.  A declaration that is in error is kept as the
fault of its level until the routes are compiled.
-/

namespace Signpost

structure RouteLevel where
  /-- The literal segments before the paths of this level, after those of the levels above. -/
  base : List String := []
  statics : List StaticRoute := []
  dynamics : List DynamicResponder := []
  middleware : MiddlewareChain := []
  groups : List RouteLevel := []
  /-- The first declaration that was in error. -/
  fault : Option RouteError := none
  base_segments : ∀ segment ∈ base, RoutePath.IsSegment segment := by simp

namespace RouteLevel

/-- Segments and a path below them; the path of a single slash adds nothing. -/
def joinPath (base : List String) (path : String) : String :=
  if base.isEmpty then path
  else String.join (base.map ("/" ++ ·)) ++ (if path == "/" then "" else path)

/-- Whether a segment would start a parameter or a catch-all. -/
def isPlaceholder (segment : String) : Bool :=
  match segment.toList with
  | ':' :: _ => true
  | '*' :: _ => true
  | _ => false

/-- A group whose base is given as a path of literal segments. -/
def group (base : String) : RouteLevel :=
  let segments := RoutePath.segments base
  let valid := base.toList.head? == some '/' && !segments.any isPlaceholder
  { base := segments
    fault := if valid then none else some (.invalid base .groupBase)
    base_segments := fun _ mem => RoutePath.isSegment_of_mem_segments mem }

/-- The base as a path. -/
def basePath (l : RouteLevel) : String := joinPath l.base "/"

/-- Keep the first fault. -/
def record (l : RouteLevel) (e : RouteError) : RouteLevel :=
  { l with fault := l.fault <|> some e }

def addStatic (l : RouteLevel) (r : StaticRoute) : RouteLevel :=
  { l with statics := l.statics ++ [r] }

def addDynamic (l : RouteLevel) (r : DynamicResponder) : RouteLevel :=
  { l with dynamics := l.dynamics ++ [r] }

/-- Declare a handler for a path given as text. -/
def addPath (l : RouteLevel) (method : Method) (path : String) (handler : Handler) : RouteLevel :=
  match DynamicRoute.ofPath method path with
  | .ok route => l.addDynamic { route, handler }
  | .error e => l.record e

def addMiddleware (l : RouteLevel) (m : Middleware) : RouteLevel :=
  { l with middleware := l.middleware ++ [m] }

def addGroup (l : RouteLevel) (g : RouteLevel) : RouteLevel :=
  { l with groups := l.groups ++ [g] }

end RouteLevel

end Signpost
