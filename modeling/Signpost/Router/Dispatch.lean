import Signpost.Router.Router

/-!
# Dispatch

A router answers one request on a socket: with the route it resolves to, or as
unmatched.  If that fails before anything was written, and the connection still
stands, the failure itself is answered.
-/

namespace Signpost

/-- How a dispatch ended. -/
inductive Outcome where
  | responded (tier : RouteTier)
  /-- The not-found response was written. -/
  | notFound
  /-- Nothing matched, and a bare response was written. -/
  | bareNotFound
  /-- Nothing matched, and nothing was written. -/
  | unmatched
  /-- The response failed; `answered` tells whether an error response was written. -/
  | failed (answered : Bool)
  deriving DecidableEq, Repr

/-- Whether a whole response was written. -/
def Outcome.hasResponded : Outcome → Bool
  | responded _ | notFound | bareNotFound => true
  | unmatched => false
  | failed answered => answered

namespace Router

/-- The response to a request that nothing matches, where there is no other. -/
def bareResponse : Octets :=
  Octets.ofText "HTTP/1.1 404" ++ Octets.crlf ++ Octets.ofText "content-length: 0" ++ Octets.headEnd

/-- Answer on a socket with what a request resolves to. -/
def respond (r : Router) (found : Resolved) (request : Request) (s : Socket) :
    Except ResponseError Outcome × Socket :=
  match found with
  | .fixed response tier =>
    let (result, s) := response.respond r.date s
    (result.map fun () => .responded tier, s)
  | .dynamic found tier =>
    let (result, s) := found.responder.respond request found.parameters r.date s
    (result.map fun () => .responded tier, s)

/-- Answer a request that nothing matches. -/
def respondUnmatched (r : Router) (request : Request) (s : Socket) :
    Except ResponseError Outcome × Socket :=
  match r.notFound with
  | some (.fixed response) =>
    let (result, s) := response.respond r.date s
    (result.map fun () => .notFound, s)
  | some (.dynamic responder) =>
    let (result, s) := responder.respond request [] r.date s
    (result.map fun () => .notFound, s)
  | none =>
    match r.unmatched with
    | .close => (.ok .unmatched, s)
    | .bareNotFound =>
      let (result, s) := RenderedResponse.sent (s.write bareResponse)
      (result.map fun () => .bareNotFound, s)

/-- Answer a failure, unless the connection failed or has taken something since `written`. -/
def fail (r : Router) (e : ResponseError) (written : Nat) (s : Socket) : Outcome × Socket :=
  match r.errorResponder with
  | none => (.failed false, s)
  | some responder =>
    if e.isSocket || s.bytesWritten != written then (.failed false, s)
    else
      match (responder e).write r.date false s with
      | (.ok (), s) => (.failed true, s)
      | (.error _, s) => (.failed false, s)

/-- Answer a request with what it resolves to, or as unmatched. -/
def attempt (r : Router) (request : Request) (s : Socket) :
    Except ResponseError Outcome × Socket :=
  match r.table.resolve? request with
  | some found => r.respond found request s
  | none => r.respondUnmatched request s

/-- Answer one request. -/
def handle (r : Router) (request : Request) (s : Socket) : Outcome × Socket :=
  match r.attempt request s with
  | (.ok outcome, s') => (outcome, s')
  | (.error e, s') => r.fail e s.bytesWritten s'

/-- Answer a request that was refused before it could be dispatched. -/
def reject (r : Router) (e : ResponseError) (s : Socket) : Outcome × Socket :=
  r.fail e s.bytesWritten s

end Router

end Signpost
