import Signpost.Store.DynamicStore
import Signpost.Store.PerfectStore

/-!
# Route tables

A table is a compiled level: its static routes, its dynamic routes of either
case mode, and the tables of its groups.  A request is tried against these in
order; a group is asked only if the path of the request starts with its base.
-/

namespace Signpost

/-- The part of a table in which a request was resolved. -/
inductive RouteTier where
  | staticSensitive
  | staticInsensitive
  | dynamicSensitive
  | dynamicInsensitive
  deriving DecidableEq, Repr

/-- What answers a request. -/
inductive Resolved where
  | fixed (response : RenderedResponse) (tier : RouteTier)
  | dynamic (found : DynamicMatch) (tier : RouteTier)

structure RouteTable where
  /-- All literal segments before the paths of this level. -/
  base : List String
  statics : PerfectStore RenderedResponse
  dynamicSensitive : DynamicStore
  dynamicInsensitive : DynamicStore
  groups : List RouteTable

namespace RouteTable

/-- The number of routes of a level by itself. -/
def ownSize (t : RouteTable) : Nat :=
  t.statics.size + t.dynamicSensitive.size + t.dynamicInsensitive.size

mutual

/-- The number of routes of a level and its groups. -/
def size : RouteTable → Nat
  | ⟨base, statics, sensitive, insensitive, groups⟩ =>
    ownSize ⟨base, statics, sensitive, insensitive, groups⟩ + sizeAll groups

def sizeAll : List RouteTable → Nat
  | [] => 0
  | t :: rest => size t + sizeAll rest

end

/-- Whether path segments start with the base, in any letter case. -/
def coversSegments : List String → List Octets → Bool
  | [], _ => true
  | _ :: _, [] => false
  | literal :: base, segment :: rest =>
    segment.eqFold (Octets.ofText literal) && coversSegments base rest

def covers (t : RouteTable) (request : Request) : Bool :=
  coversSegments t.base request.segments

/-- What answers a request on a level by itself. -/
def resolveOwn? (t : RouteTable) (request : Request) : Option Resolved :=
  match t.statics.respond? request.startLine .sensitive with
  | some response => some (.fixed response .staticSensitive)
  | none =>
    match t.statics.respond? request.startLineLowercased .insensitive with
    | some response => some (.fixed response .staticInsensitive)
    | none =>
      match t.dynamicSensitive.resolve? request with
      | some found => some (.dynamic found .dynamicSensitive)
      | none =>
        (t.dynamicInsensitive.resolve? request).map fun found =>
          .dynamic found .dynamicInsensitive

mutual

/-- What answers a request on a level or in its groups. -/
def resolve? : RouteTable → Request → Option Resolved
  | ⟨base, statics, sensitive, insensitive, groups⟩, request =>
    match resolveOwn? ⟨base, statics, sensitive, insensitive, groups⟩ request with
    | some found => some found
    | none => resolveIn? groups request

/-- What answers a request in the first group that has an answer. -/
def resolveIn? : List RouteTable → Request → Option Resolved
  | [], _ => none
  | t :: rest, request =>
    if t.covers request then
      match resolve? t request with
      | some found => some found
      | none => resolveIn? rest request
    else resolveIn? rest request

end

end RouteTable

end Signpost
