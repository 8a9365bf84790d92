import Signpost.Proofs.Response.Wire
import Signpost.Router.Dispatch

/-!
# A dispatch sends one response at most

Whatever a connection takes and wherever it fails, what a router sends to
answer a request is a start of a single response: of the one it tries first,
or, if that has put nothing on the connection, of the response to its failure.
It reports a response exactly if that one has gone out whole.
-/

namespace Signpost

namespace Router

/-- The octets of the response that is tried first: of the route a request resolves to, of what is
sent where nothing is found, or the bare one. -/
def ownWire? (r : Router) (request : Request) : Option Octets :=
  match r.table.resolve? request with
  | some (.fixed response _) => some (response.wire r.date)
  | some (.dynamic found _) => found.responder.wire? request found.parameters r.date
  | none =>
    match r.notFound with
    | some (.fixed response) => some (response.wire r.date)
    | some (.dynamic responder) => responder.wire? request [] r.date
    | none =>
      match r.unmatched with
      | .close => none
      | .bareNotFound => some bareResponse

/-- The octets of the response to a failure. -/
def errorWire? (r : Router) (e : ResponseError) : Option Octets :=
  match r.errorResponder with
  | none => none
  | some responder => (responder e).wire? r.date false

/-- How an attempt ends that writes a response: with an outcome that reports it, if there is no
error. -/
def Reports (own? : Option Octets) (s : Socket)
    (result : Except ResponseError Outcome × Socket) : Prop :=
  ∃ outcome written, outcome.hasResponded = true ∧ Attempts own? s written ∧
    result = (written.1.map fun () => outcome, written.2)

/-- An attempt writes its response, or passes a request over in silence. -/
theorem attempt_reports (r : Router) (request : Request) (s : Socket) :
    Reports (r.ownWire? request) s (r.attempt request s) ∨
      r.ownWire? request = none ∧ r.attempt request s = (.ok .unmatched, s) := by
  unfold ownWire? attempt
  cases r.table.resolve? request with
  | some found =>
    left
    cases found with
    | fixed response tier =>
      exact ⟨.responded tier, _, rfl, response.exists_delivers_respond r.date s, rfl⟩
    | dynamic found tier =>
      exact ⟨.responded tier, _, rfl,
        found.responder.attempts_respond request found.parameters r.date s, rfl⟩
  | none =>
    dsimp only
    unfold respondUnmatched
    rcases r.notFound with _ | response | responder
    · cases r.unmatched with
      | close => exact .inr ⟨rfl, rfl⟩
      | bareNotFound =>
        exact .inl ⟨.bareNotFound, _, rfl, exists_delivers_write s bareResponse, rfl⟩
    · exact .inl ⟨.notFound, _, rfl, response.exists_delivers_respond r.date s, rfl⟩
    · exact .inl ⟨.notFound, _, rfl, responder.attempts_respond request [] r.date s, rfl⟩

/-- What is sent for a failure: nothing, or a start of the response to it.  That is tried only if
the connection stands and has taken nothing since `written`. -/
theorem fail_sends (r : Router) (e : ResponseError) (written : Nat) (s : Socket) :
    ∃ sent, (r.fail e written s).2.peer.received = s.peer.received ++ sent ∧
      ((sent = [] ∧ (r.fail e written s).1.hasResponded = false) ∨
        e.isSocket = false ∧ s.bytesWritten = written ∧
          ∃ whole, r.errorWire? e = some whole ∧
            SentOf sent whole ((r.fail e written s).1.hasResponded = true)) := by
  unfold fail errorWire?
  cases r.errorResponder with
  | none => exact ⟨[], (List.append_nil _).symm, .inl ⟨rfl, rfl⟩⟩
  | some responder =>
    dsimp only
    split
    · exact ⟨[], (List.append_nil _).symm, .inl ⟨rfl, rfl⟩⟩
    · next tried =>
      rw [Bool.or_eq_true, not_or, Bool.not_eq_true, bne_iff_ne, Ne, Decidable.not_not] at tried
      have attempts := (responder e).attempts_write r.date false s
      cases wire : (responder e).wire? r.date false with
      | none =>
        rw [wire] at attempts
        obtain ⟨error, eq⟩ := attempts
        rw [eq]
        exact ⟨[], (List.append_nil _).symm, .inl ⟨rfl, rfl⟩⟩
      | some whole =>
        rw [wire] at attempts
        obtain ⟨sent, received, part, _⟩ := attempts
        rcases took : (responder e).write r.date false s with ⟨error | _, next⟩
        · rw [took] at received part
          exact ⟨sent, received, .inr ⟨tried.1, tried.2, whole, rfl, part.of_iff ⟨nofun, nofun⟩⟩⟩
        · rw [took] at received part
          exact ⟨sent, received,
            .inr ⟨tried.1, tried.2, whole, rfl, part.of_iff ⟨fun _ => rfl, fun _ => rfl⟩⟩⟩

/-- What has been sent on `s` when an attempt to answer has come to an end, with the answer to its
failure if it failed. -/
inductive SendsOne (r : Router) (own? : Option Octets) (s : Socket)
    (attempted : Except ResponseError Outcome × Socket) (ended : Outcome × Socket) : Prop
  /-- Nothing has been sent, and no response is reported. -/
  | nothing :
    ended.2.peer.received = s.peer.received → ended.1.hasResponded = false →
    SendsOne r own? s attempted ended
  /-- A start of the response of the attempt; it is reported exactly if that is all of it. -/
  | own {whole sent : Octets} :
    own? = some whole → ended.2.peer.received = s.peer.received ++ sent →
    SentOf sent whole (ended.1.hasResponded = true) →
    SendsOne r own? s attempted ended
  /-- The same of the response to the failure of an attempt that has put nothing on the
  connection. -/
  | failure {e : ResponseError} {whole sent : Octets} :
    attempted.1 = .error e → attempted.2.peer.received = s.peer.received →
    r.errorWire? e = some whole → ended.2.peer.received = s.peer.received ++ sent →
    SentOf sent whole (ended.1.hasResponded = true) →
    SendsOne r own? s attempted ended

/-- The failure of an attempt that has sent nothing. -/
theorem sendsOne_fail_of_nothing (r : Router) (own? : Option Octets) (e : ResponseError)
    {s s' : Socket} (nothing : s'.peer.received = s.peer.received) :
    SendsOne r own? s (.error e, s') (r.fail e s.bytesWritten s') := by
  obtain ⟨sent, received, ⟨rfl, silent⟩ | ⟨_, _, whole, wire, part⟩⟩ :=
    r.fail_sends e s.bytesWritten s'
  · rw [List.append_nil, nothing] at received
    exact .nothing received silent
  · rw [nothing] at received
    exact .failure rfl nothing wire received part

/-- The failure of an attempt that was writing its response. -/
theorem sendsOne_fail_of_delivers (r : Router) {e : ResponseError} {s s' : Socket}
    {whole sent : Octets} (delivers : Delivers whole s sent (.error e, s')) :
    SendsOne r (some whole) s (.error e, s') (r.fail e s.bytesWritten s') := by
  obtain ⟨received, part, counted⟩ := delivers
  obtain ⟨more, received', ⟨rfl, silent⟩ | ⟨stands, unchanged, _⟩⟩ :=
    r.fail_sends e s.bytesWritten s'
  · rw [List.append_nil, received] at received'
    refine .own rfl received' (part.of_iff ⟨?_, nofun⟩)
    rw [silent]
    exact nofun
  · -- The connection stands, so everything sent was counted; and nothing was.
    have count : s'.bytesWritten = s.bytesWritten + sent.length := by
      apply counted
      rintro error ⟨⟩
      cases stands
    have nothing : sent = [] := List.length_eq_zero_iff.mp (by omega)
    rw [nothing, List.append_nil] at received
    exact r.sendsOne_fail_of_nothing (some whole) e received

/-- To answer a request, and to answer that one was refused, a router sends one response at most. -/
theorem sends_one_response (r : Router) (s : Socket) :
    (∀ request, SendsOne r (r.ownWire? request) s (r.attempt request s) (r.handle request s)) ∧
      ∀ e, SendsOne r none s (.error e, s) (r.reject e s) := by
  constructor
  · intro request
    unfold handle
    obtain ⟨outcome, written, reported, attempts, eq⟩ | ⟨_, eq⟩ := r.attempt_reports request s
    · rw [eq]
      rcases written with ⟨e | _, s'⟩
      · cases wire : r.ownWire? request with
        | none =>
          rw [wire] at attempts
          obtain ⟨_, same⟩ := attempts
          cases same
          exact r.sendsOne_fail_of_nothing none e rfl
        | some whole =>
          rw [wire] at attempts
          obtain ⟨sent, delivers⟩ := attempts
          exact r.sendsOne_fail_of_delivers delivers
      · cases wire : r.ownWire? request with
        | none =>
          rw [wire] at attempts
          obtain ⟨_, same⟩ := attempts
          cases same
        | some whole =>
          rw [wire] at attempts
          obtain ⟨sent, received, part, _⟩ := attempts
          exact .own rfl received (part.of_iff (iff_of_true reported rfl))
    · rw [eq]
      exact .nothing rfl rfl
  · intro e
    exact r.sendsOne_fail_of_nothing none e rfl

end Router

end Signpost
