import Signpost.Middleware.Chain
import Signpost.Path.Match
import Signpost.Response.Rendered
import Signpost.Router.Error

/-!
# Declared routes

A static route has a fixed path and answers with its template.  A dynamic route
has a path of components and a handler, before which its middleware runs.
-/

namespace Signpost

structure StaticRoute where
  method : Method := .get
  version : Version := .http11
  /-- Matched as it stands, without parameters. -/
  path : String
  mode : CaseMode := .sensitive
  template : RouteTemplate

namespace StaticRoute

/-- Method, path and version; in lower case where the letter case does not count. -/
def startLine (r : StaticRoute) : Octets :=
  r.mode.key (Octets.ofText (r.method.text ++ " " ++ r.path ++ " " ++ r.version.text))

/-- What is wrong with a fixed path. -/
def pathFault? (path : String) : Option RouteFault :=
  let bytes := Octets.ofText path
  if bytes.head? != some Octets.slash then some .notRooted
  else if bytes.any fun b => Octet.isWhitespace b || Octet.isControl b then some .blankInPath
  else if bytes.any fun b => b == 0x3F || b == 0x23 then some .queryInPath
  else none

def check (r : StaticRoute) : Except RouteError Unit :=
  match pathFault? r.path with
  | some fault => .error (.invalid r.path fault)
  | none => .ok ()

end StaticRoute

structure DynamicRoute where
  method : Method := .get
  version : Version := .http11
  path : List PathComponent
  mode : CaseMode := .sensitive
  /-- What every response starts out as. -/
  template : RouteTemplate := {}

namespace DynamicRoute

/-- The route of a path that is given as text. -/
def ofPath (method : Method) (path : String) : Except RouteError DynamicRoute :=
  if path.toList.head? != some '/' then .error (.invalid path .notRooted)
  else
    match RoutePath.parse path with
    | .ok components => .ok { method, path := components }
    | .error e => .error (.path e)

def isParameterless (r : DynamicRoute) : Bool := !RoutePath.hasParameters r.path

def isCatchAll (r : DynamicRoute) : Bool := RoutePath.hasCatchAll r.path

/-- Method, path and version as text. -/
def startLine (r : DynamicRoute) : String :=
  r.method.text ++ " " ++ RoutePath.render r.path ++ " " ++ r.version.text

/-- The line that a route without parameters is keyed by. -/
def lineKey (r : DynamicRoute) : Octets := r.mode.key (Octets.ofText r.startLine)

/-- Whether two components take the same segments. -/
def sameComponent (mode : CaseMode) : PathComponent → PathComponent → Bool
  | .literal a, .literal b => mode.same (Octets.ofText a) (Octets.ofText b)
  | .parameter _, .parameter _ => true
  | .catchAll, .catchAll => true
  | _, _ => false

/-- Whether two paths have the same shape. -/
def sameShape (mode : CaseMode) : List PathComponent → List PathComponent → Bool
  | [], [] => true
  | a :: as, b :: bs => sameComponent mode a b && sameShape mode as bs
  | _, _ => false

/-- Whether two routes have the same method, version and shape. -/
def sameRoute (a b : DynamicRoute) : Bool :=
  a.method == b.method && a.version == b.version && sameShape a.mode a.path b.path

/-- Whether a route is meant for the method and version of a request. -/
def accepts (r : DynamicRoute) (request : Request) : Bool :=
  r.method == request.method && r.version == request.version

end DynamicRoute

/-- Fills in the response for a request, or fails. -/
abbrev Handler := Request → DynamicResponse → Except ResponseError DynamicResponse

/-- A dynamic route with its handler and the middleware before it. -/
structure DynamicResponder where
  route : DynamicRoute
  handler : Handler
  middleware : MiddlewareChain := []

namespace DynamicResponder

/-- The response to a request, or why there is none. -/
def answer (r : DynamicResponder) (request : Request) (parameters : List String) :
    Except ResponseError DynamicResponse :=
  let start := { DynamicResponse.ofTemplate r.route.template with parameters }
  match r.middleware.run request start with
  | (.pass, response) => r.handler request response
  | (.stop, response) => .ok response
  | (.fail e, _) => .error e.toResponseError

/-- Answer a request on a socket, without the body if only the head is asked for. -/
def respond (r : DynamicResponder) (request : Request) (parameters : List String)
    (date : Octets) (s : Socket) : Except ResponseError Unit × Socket :=
  match r.answer request parameters with
  | .error e => (.error e, s)
  | .ok response => response.write date request.method.isHead s

/-- The responder as shown in logs. -/
def describe (r : DynamicResponder) : String :=
  "DynamicResponder \x7b route: " ++ Text.quoted r.route.startLine ++
    ", middleware: DynamicMiddlewareChain \x7b len: " ++ Numeral.decimal r.middleware.length ++
    " \x7d \x7d"

end DynamicResponder

end Signpost
