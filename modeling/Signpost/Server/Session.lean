import Signpost.Router.Live
import Signpost.Server.Config

/-!
# Sessions

A connection is read until a request is complete, answers it once and is
closed.  The length of the head is bounded, and so is that of the declared body;
a request that cannot be read is refused with the status its fault calls for.
A peer that closes early, or takes too long, gets nothing.
-/

namespace Signpost

/-- How reading a request ended. -/
inductive ReadOutcome where
  | complete (request : Request)
  /-- The peer closed first. -/
  | closed
  | failed (error : ServerError)
  /-- Nothing more came. -/
  | timedOut

namespace Session

/-- The length of the body that a head declares, within the limit. -/
def declaredLength (limits : ConnectionLimits) (request : Request) : Except ServerError Nat := do
  let length ← match request.header? "content-length" with
    | none => .ok 0
    | some value =>
      match request.contentLength? with
      | some length => .ok length
      | none => .error (.request (.malformed (.invalidContentLength value)))
  if limits.maxBodySize < length then
    throw (.bodyTooLarge length limits.maxBodySize)
  return length

/-- A length as one machine word counts it. -/
def counted (length : Nat) : Nat := length % UInt64.size

/-- The length of the whole request that octets start with; none while its head has no end. -/
def totalLength? (limits : ConnectionLimits) (bytes : Octets) : Except ServerError (Option Nat) :=
  match cutMark? Octets.headEnd bytes with
  | none =>
    if limits.maxHeadSize < bytes.length then
      .error (.headTooLarge bytes.length limits.maxHeadSize)
    else .ok none
  | some (head, _) => do
    let headLength := head.length + Octets.headEnd.length
    if limits.maxHeadSize < headLength then
      throw (.headTooLarge headLength limits.maxHeadSize)
    match ← (Request.parse bytes).mapError .request with
    | none => throw (.request (.malformed .incompleteHead))
    | some request =>
      let length ← declaredLength limits request
      return some (counted (headLength + length))

/-- The request that octets are, cut to its length. -/
def finish (bytes : Octets) (total : Nat) : ReadOutcome :=
  match Request.parse (bytes.take total) with
  | .ok (some request) => .complete request
  | .ok none => .closed
  | .error e => .failed (.request e)

/-- The length of the request, as far as it is known. -/
def neededLength? (limits : ConnectionLimits) (needed : Option Nat) (bytes : Octets) :
    Except ServerError (Option Nat) :=
  match needed with
  | some total => .ok (some total)
  | none => totalLength? limits bytes

/-- Read on.  `needed` is the length of the request, once that is known. -/
def readMore (limits : ConnectionLimits) (buffer : ReadBuffer) (needed : Option Nat)
    (s : Socket) : ReadOutcome × Socket :=
  match _took : s.read buffer with
  | (.failed e, _, s) => (.failed (.socket e), s)
  | (.silent, _, s) => (.timedOut, s)
  | (.read 0, _, s) => (.closed, s)
  | (.read (_ + 1), buffer, s) =>
    match neededLength? limits needed buffer.bytes with
    | .error e => (.failed e, s)
    | .ok none => readMore limits buffer none s
    | .ok (some total) =>
      if total ≤ buffer.bytes.length then (finish buffer.bytes total, s)
      else readMore limits (buffer.reserve total) (some total) s
termination_by s.peer.pending
decreasing_by
  all_goals exact Socket.pending_read ‹_›

/-- Go on after a read that brought something. -/
def goOn (limits : ConnectionLimits) (buffer : ReadBuffer) (needed : Option Nat) (s : Socket) :
    ReadOutcome × Socket :=
  match neededLength? limits needed buffer.bytes with
  | .error e => (.failed e, s)
  | .ok none => readMore limits buffer none s
  | .ok (some total) =>
    if total ≤ buffer.bytes.length then (finish buffer.bytes total, s)
    else readMore limits (buffer.reserve total) (some total) s

section ReadMore

variable {limits : ConnectionLimits} {buffer buffer' : ReadBuffer} {s s' : Socket}

theorem readMore_of_end (needed : Option Nat) (took : s.read buffer = (.read 0, buffer', s')) :
    readMore limits buffer needed s = (.closed, s') := by
  rw [readMore]
  split <;> simp_all

theorem readMore_of_failure (needed : Option Nat) {e : SocketError}
    (took : s.read buffer = (.failed e, buffer', s')) :
    readMore limits buffer needed s = (.failed (.socket e), s') := by
  rw [readMore]
  split <;> simp_all

theorem readMore_of_silence (needed : Option Nat) (took : s.read buffer = (.silent, buffer', s')) :
    readMore limits buffer needed s = (.timedOut, s') := by
  rw [readMore]
  split <;> simp_all

theorem readMore_of_data (needed : Option Nat) {n : Nat}
    (took : s.read buffer = (.read (n + 1), buffer', s')) :
    readMore limits buffer needed s = goOn limits buffer' needed s' := by
  rw [goOn]
  rw [readMore]
  split <;> simp_all

end ReadMore

/-- The room that the first read has, at most. -/
def firstRoom : Nat := 4096

/-- Read one request. -/
def readRequest (limits : ConnectionLimits) (s : Socket) : ReadOutcome × Socket :=
  readMore limits { capacity := min limits.maxHeadSize firstRoom } none s

/-- Close a connection, whether or not that succeeds. -/
def closed (s : Socket) : Socket := (s.close).2

/-- Answer what reading came to.  A request is dispatched; a fault of the client is told to it; in
both cases the connection is closed then.  Otherwise nothing is written. -/
def conclude (router : Router) (outcome : ReadOutcome) (s : Socket) :
    Except ServerError Outcome × Socket :=
  match outcome with
  | .timedOut => (.error (.socket .timedOut), s)
  | .closed => (.ok .unmatched, s)
  | .complete request =>
    let (outcome, s) := router.handle request s
    (.ok outcome, closed s)
  | .failed e =>
    match e.requestStatus? with
    | none => (.error e, s)
    | some status =>
      let (_, s) := router.reject (.rejected status e.message) s
      (.error e, closed s)

/-- Serve a connection: read one request, answer it, and close. -/
def serve (router : Router) (limits : ConnectionLimits) (s : Socket) :
    Except ServerError Outcome × Socket :=
  let (outcome, s) := readRequest limits s
  conclude router outcome s

end Session

end Signpost
