import Signpost.Router.Route
import Signpost.Store.Tier

/-!
# Stores of dynamic routes

A store holds the dynamic routes of one case mode in three parts: routes
without parameters under their start line, routes with parameters in a bucket
for each number of components, and routes that end in a catch-all.  They are
searched in this order; within a part, in order of registration.
-/

namespace Signpost

/-- A dynamic route that takes a request, with the segments it captures. -/
structure DynamicMatch where
  responder : DynamicResponder
  parameters : List String

structure DynamicStore where
  mode : CaseMode
  parameterless : Tier DynamicResponder := []
  /-- The routes with parameters, by their number of components. -/
  buckets : List (List DynamicResponder) := []
  openEnded : List DynamicResponder := []

namespace DynamicStore

/-- The number of routes. -/
def size (s : DynamicStore) : Nat :=
  s.parameterless.length + s.buckets.flatten.length + s.openEnded.length

/-- Add a responder to a part, or put it in the place of the one it duplicates. -/
def place (part : List DynamicResponder) (r : DynamicResponder) (allowOverride : Bool) :
    Except RouteError (List DynamicResponder) :=
  match part.findIdx? fun other => other.route.sameRoute r.route with
  | none => .ok (part ++ [r])
  | some index =>
    if allowOverride then .ok (part.set index r) else .error (.duplicate r.route.startLine)

/-- The buckets up to an index, with empty ones where there were none. -/
def grown (buckets : List (List DynamicResponder)) (index : Nat) : List (List DynamicResponder) :=
  buckets ++ List.replicate (index + 1 - buckets.length) []

/-- The buckets with one of them changed, and empty ones before it where there were none. -/
def withBucket (buckets : List (List DynamicResponder)) (index : Nat)
    (bucket : List DynamicResponder) : List (List DynamicResponder) :=
  (grown buckets index).set index bucket

/-- Add a responder in place.  One of the same method, version and shape is replaced if that is
allowed, and stands in the way if not.  A bucket is made before it is searched. -/
def enter (s : DynamicStore) (r : DynamicResponder) (allowOverride : Bool) :
    Except RouteError Unit × DynamicStore :=
  if r.route.mode != s.mode then (.error (.invalid r.route.startLine .otherCaseMode), s)
  else if r.route.isParameterless then
    let key := r.route.lineKey
    if (s.parameterless.get? key).isSome && !allowOverride then
      (.error (.duplicate r.route.startLine), s)
    else (.ok (), { s with parameterless := s.parameterless.put key r })
  else if r.route.isCatchAll then
    match place s.openEnded r allowOverride with
    | .error e => (.error e, s)
    | .ok part => (.ok (), { s with openEnded := part })
  else
    let count := r.route.path.length
    match place (s.buckets[count]?.getD []) r allowOverride with
    | .error e => (.error e, { s with buckets := grown s.buckets count })
    | .ok bucket => (.ok (), { s with buckets := withBucket s.buckets count bucket })

/-- The store with a responder added, if nothing stands in the way. -/
def register (s : DynamicStore) (r : DynamicResponder) (allowOverride : Bool) :
    Except RouteError DynamicStore :=
  match s.enter r allowOverride with
  | (.ok (), entered) => .ok entered
  | (.error e, _) => .error e

/-- A match of a responder, with its captured segments as text. -/
def matchOf (r : DynamicResponder) (segments : List Octets) : DynamicMatch :=
  ⟨r, (RoutePath.capture r.route.path segments).map Utf8.decodeLenient⟩

/-- The line that routes without parameters are looked up by. -/
def lineOf (s : DynamicStore) (request : Request) : Octets :=
  match s.mode with
  | .sensitive => request.startLine
  | .insensitive => request.startLineLowercased

/-- The first route with parameters, and as many components as the request has segments, that
takes the request. -/
def findExact? (s : DynamicStore) (request : Request) : Option DynamicResponder :=
  (s.buckets[request.segments.length]?.getD []).find? fun r =>
    r.route.accepts request && RoutePath.matchesExact s.mode r.route.path request.segments

/-- The first route with a catch-all that takes the request. -/
def findOpen? (s : DynamicStore) (request : Request) : Option DynamicResponder :=
  s.openEnded.find? fun r =>
    r.route.accepts request && RoutePath.matchesOpen s.mode r.route.path request.segments

/-- The route for a request. -/
def resolve? (s : DynamicStore) (request : Request) : Option DynamicMatch :=
  match s.parameterless.get? (s.lineOf request) with
  | some r => some ⟨r, []⟩
  | none =>
    (s.findExact? request <|> s.findOpen? request).map fun r => matchOf r request.segments

end DynamicStore

end Signpost
