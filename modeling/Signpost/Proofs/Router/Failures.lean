import Signpost.Proofs.Request.Bare
import Signpost.Proofs.Response.InMemory
import Signpost.Proofs.Router.HeadAnswers
import Signpost.Proofs.Router.Identity

/-!
# Failures that can still be answered

A dispatch fails while nothing has been written: middleware or a handler fails, or the
head of a response is refused.  The JSON error response carries the status of the
failure, whatever it is, and a body.  So it goes out whole where that status allows a
body, and where it does not the failure is not answered (`Router.handle_failed`).

* `Router.bytesWritten_of_silent`: the connection has counted nothing, so the failure
  is handed to the error responder.
* `Router.policy_attempt`: the peer takes the error response as it would have taken the
  one that failed.
* `ResponseError.wire?_jsonErrorResponder`: the octets of the error response, or none.
-/

namespace Signpost

open Octets (crlf headEnd fieldLine)

/-! ## What an attempt leaves of a peer -/

theorem policy_thenWrite {policy : WritePolicy} {result : Except ResponseError Unit × Socket}
    {next : Socket → Except ResponseError Unit × Socket}
    (first : result.2.peer.policy = policy)
    (keeps : ∀ s, (next s).2.peer.policy = s.peer.policy) :
    (thenWrite result next).2.peer.policy = policy := by
  rcases result with ⟨_ | _, s⟩
  · exact first
  · exact (keeps s).trans first

theorem Chunks.policy_write (chunks : Chunks) (s : Socket) :
    (chunks.write s).2.peer.policy = s.peer.policy := by
  induction chunks generalizing s with
  | nil =>
    rw [write_nil]
    exact s.policy_write trailer
  | cons item rest ih =>
    cases item with
    | error message => rfl
    | ok chunk =>
      by_cases empty : chunk.isEmpty = true
      · rw [write, if_pos empty]
        exact ih s
      · rw [write_of_full empty]
        exact policy_thenWrite (s.policy_writeGathered _) ih

theorem RenderedResponse.policy_respond (r : RenderedResponse) (date : Octets) (s : Socket) :
    (r.respond date s).2.peer.policy = s.peer.policy := by
  cases r with
  | bytes whole => exact s.policy_write whole
  | text whole => exact s.policy_write whole
  | datedText spans => exact s.policy_writeGathered _
  | datedBytes spans => exact s.policy_writeGathered _
  | chunked head dated chunks =>
    rw [respond_chunked]
    exact policy_thenWrite (s.policy_writeGathered _) chunks.policy_write

theorem DynamicResponse.policy_write (r : DynamicResponse) (date : Octets) (omitBody : Bool)
    (s : Socket) : (r.write date omitBody s).2.peer.policy = s.peer.policy := by
  cases rendered : r.renderedHead with
  | error e => rw [write_of_refused rendered]
  | ok spans =>
    cases sized : r.body.isStream with
    | false =>
      rw [write_of_sized rendered sized]
      exact s.policy_writeGathered _
    | true =>
      obtain ⟨chunks, streams⟩ := exists_stream sized
      rw [write_of_stream rendered streams]
      refine policy_thenWrite (s.policy_writeGathered _) ?_
      intro s'
      cases omitBody with
      | true => rfl
      | false => exact chunks.policy_write s'

theorem DynamicResponder.policy_respond (r : DynamicResponder) (request : Request)
    (parameters : List String) (date : Octets) (s : Socket) :
    (r.respond request parameters date s).2.peer.policy = s.peer.policy := by
  rw [respond]
  cases r.answer request parameters with
  | error e => rfl
  | ok response => exact response.policy_write date request.method.isHead s

namespace Router

theorem policy_attempt (r : Router) (request : Request) (s : Socket) :
    (r.attempt request s).2.peer.policy = s.peer.policy := by
  unfold attempt
  cases r.table.resolve? request with
  | some found =>
    cases found with
    | fixed response tier => exact response.policy_respond r.date s
    | dynamic found tier =>
      exact found.responder.policy_respond request found.parameters r.date s
  | none =>
    dsimp only
    unfold respondUnmatched
    rcases r.notFound with _ | response | responder
    · cases r.unmatched with
      | close => rfl
      | bareNotFound => exact s.policy_write bareResponse
    · exact response.policy_respond r.date s
    · exact responder.policy_respond request [] r.date s

/-- What has gone out on a connection that stands has been counted. -/
theorem bytesWritten_of_silent {r : Router} {request : Request} {e : ResponseError} {s : Socket}
    (failed : (r.attempt request s).1 = .error e) (stands : e.isSocket = false)
    (silent : (r.attempt request s).2.peer.received = s.peer.received) :
    (r.attempt request s).2.bytesWritten = s.bytesWritten := by
  obtain ⟨outcome, written, _, attempts, eq⟩ | ⟨_, eq⟩ := r.attempt_reports request s
  · rw [eq] at failed silent ⊢
    rcases written with ⟨e' | _, s'⟩
    · cases failed
      cases wire : r.ownWire? request with
      | none =>
        rw [wire] at attempts
        obtain ⟨_, same⟩ := attempts
        cases same
        rfl
      | some whole =>
        rw [wire] at attempts
        obtain ⟨sent, received, _, counted⟩ := attempts
        -- The count may lag behind what arrived only where the connection itself failed.
        have nothing : sent = [] := List.append_right_eq_self.mp (received.symm.trans silent)
        rw [nothing] at counted
        refine counted ?_
        rintro error ⟨⟩
        cases stands
    · cases failed
  · rw [eq] at failed
    cases failed

end Router

/-! ## The error response -/

namespace ResponseError

/-- A failure told as a JSON object. -/
def json (e : ResponseError) : JsonValue :=
  .object [("error", .bool true), ("reason", .string e.message)]

/-- The body of the error response. -/
def jsonBody (e : ResponseError) : Octets := Octets.ofText e.json.render

/-- The head of the error response, with the length of its body. -/
def headLines (e : ResponseError) (date : Octets) : List Octets :=
  [Octets.ofText (e.status.lineText .http11),
    fieldLine "date" date,
    fieldLine "content-type" (Octets.ofText "application/json"),
    fieldLine "content-length"
      (Octets.ofText (Numeral.decimal e.jsonBody.length))]

theorem octets_jsonErrorResponder (e : ResponseError) :
    (jsonErrorResponder e).body.octets = e.jsonBody := by
  have other : "reason" ≠ "error" := by decide
  have later : ¬"reason" < "error" := by decide +kernel
  have members : JsonValue.ofMembers [("error", .bool true), ("reason", .string e.message)] =
      e.json := by
    simp only [JsonValue.ofMembers, Dictionary.ofPairs, List.foldl_cons, List.foldl_nil,
      Dictionary.put, if_neg other, if_neg later, json]
  rw [jsonBody, ← members]
  rfl

theorem jsonBody_ne_nil (e : ResponseError) : e.jsonBody ≠ [] := by
  rw [jsonBody, Ne, Octets.ofText_eq_nil_iff]
  simp [json, JsonValue.render]

theorem headLines_jsonErrorResponder (e : ResponseError) (date : Octets) :
    (jsonErrorResponder e).typedHead.headLines (some date)
      (.length e.jsonBody.length) = e.headLines date := by
  have type : ContentType.text { mediaType := .json } = "application/json" := by decide +kernel
  rw [headLines, ← type]
  rfl

/-- The error response is in order exactly if the status of the failure allows a body. -/
theorem wire?_jsonErrorResponder (e : ResponseError) (date : Octets) :
    (jsonErrorResponder e).wire? date false =
      if e.status.allowsBody then
        some (joined crlf (e.headLines date) ++ headEnd ++ e.jsonBody)
      else none := by
  have checked : (jsonErrorResponder e).typedHead.check = .ok () := rfl
  have status : (jsonErrorResponder e).typedHead.status = e.status := rfl
  rw [DynamicResponse.wire?_of_sized rfl, DynamicResponse.bodyWire_of_sized rfl,
    DynamicResponse.refusal?, checked, DynamicResponse.sizedHead, DynamicResponse.sizedLines,
    ResponseHead.sizedFraming, status, octets_jsonErrorResponder]
  cases e.status.allowsBody with
  | true => rw [if_pos rfl, if_pos (.inl rfl), if_pos rfl, headLines_jsonErrorResponder]
  | false =>
    have full : ¬(false = true ∨ e.jsonBody = []) :=
      fun room => e.jsonBody_ne_nil (room.resolve_left Bool.false_ne_true)
    rw [if_neg Bool.false_ne_true, if_neg full, if_neg Bool.false_ne_true]

theorem decodes_jsonErrorResponder (e : ResponseError) {date : Octets} (unbroken : date.Unbroken) :
    Octets.Decodes (joined crlf (e.headLines date) ++ headEnd ++ e.jsonBody)
      (e.headLines date) e.jsonBody := by
  rw [← headLines_jsonErrorResponder]
  refine Octets.decodes_joined (List.cons_ne_nil _ _) ?_ (ResponseHead.full_headLines _ _ _) _
  refine ResponseHead.unbroken_headLines rfl nofun ?_
  rintro _ ⟨⟩
  exact unbroken

end ResponseError

namespace Router

/-- What is sent for a failure by the JSON error responder, where the connection has taken nothing
since. -/
theorem fail_standard {r : Router} {e : ResponseError} {s : Socket}
    (standard : r.errorResponder = some jsonErrorResponder) (unbroken : r.date.Unbroken)
    (stands : e.isSocket = false) (willing : s.peer.policy.Willing) :
    (r.fail e s.bytesWritten s).1 = .failed e.status.allowsBody ∧
      ∃ sent, (r.fail e s.bytesWritten s).2.peer.received = s.peer.received ++ sent ∧
        if e.status.allowsBody then sent.Decodes (e.headLines r.date) e.jsonBody
        else sent = [] := by
  have tried : ¬(e.isSocket || s.bytesWritten != s.bytesWritten) = true := by
    rw [stands]
    simp
  have wire := e.wire?_jsonErrorResponder r.date
  rw [fail, standard]
  dsimp only
  rw [if_neg tried]
  cases allowed : e.status.allowsBody with
  | true =>
    rw [allowed, if_pos rfl] at wire
    obtain ⟨s', eq, carries⟩ := DynamicResponse.exists_write_of_willing rfl wire willing
    rw [eq]
    exact ⟨rfl, _, carries.received, e.decodes_jsonErrorResponder unbroken⟩
  | false =>
    rw [allowed, if_neg Bool.false_ne_true] at wire
    have attempts := (jsonErrorResponder e).attempts_write r.date false s
    rw [wire] at attempts
    obtain ⟨_, eq⟩ := attempts
    rw [eq]
    exact ⟨rfl, [], (List.append_nil _).symm, rfl⟩

/-- With the JSON error responder, the failure of a request that has been answered with nothing is
answered exactly if its status allows a body: with that status, and a JSON body that tells it. -/
theorem handle_failed {r : Router} {request : Request} {e : ResponseError} {s : Socket}
    (standard : r.errorResponder = some jsonErrorResponder) (unbroken : r.date.Unbroken)
    (failed : (r.attempt request s).1 = .error e) (stands : e.isSocket = false)
    (silent : (r.attempt request s).2.peer.received = s.peer.received)
    (willing : s.peer.policy.Willing) :
    (r.handle request s).1 = .failed e.status.allowsBody ∧
      ∃ sent, (r.handle request s).2.peer.received = s.peer.received ++ sent ∧
        if e.status.allowsBody then sent.Decodes (e.headLines r.date) e.jsonBody
        else sent = [] := by
  have counted := bytesWritten_of_silent failed stands silent
  have policy := r.policy_attempt request s
  rcases attempted : r.attempt request s with ⟨result, s'⟩
  rw [attempted] at failed silent counted policy
  dsimp only at failed silent counted policy
  rw [handle, attempted, failed]
  dsimp only
  rw [← counted, ← silent]
  exact r.fail_standard standard unbroken stands (policy ▸ willing)

/-- A route whose middleware refuses every request under a status. -/
def refuser (status : Status) : DynamicResponder where
  route := { path := [.literal "x"] }
  handler := fun _ response => .ok response
  middleware := [fun _ response => (.fail ⟨status, "no"⟩, response)]

def refusing (status : Status) : RouterPlan where
  routes :=
    { dynamics := [refuser status]
      base_segments := List.forall_mem_nil RoutePath.IsSegment }
  date := tracedDate.wire

def refusedRequest : Octets := Octets.ofText "GET /x HTTP/1.1\r\n\r\n"

/-- The request as it is read. -/
def refusedRead : Request := .bare .get (Octets.ofText "/x") .http11

theorem parse_refusedRequest : Request.parse refusedRequest = .ok (some refusedRead) := by
  have line : refusedRequest =
      Request.lineOf .get (Octets.ofText "/x") .http11 ++ headEnd := by decide
  rw [line]
  exact Request.parse_bare rfl (by decide) (by decide) .get .http11

theorem exists_refusing (status : Status) :
    ∃ r, (refusing status).build = .ok r ∧ r.errorResponder = some jsonErrorResponder ∧
      r.date = tracedDate.wire ∧
      ∀ s, r.attempt refusedRead s = (.error (.middleware status "no"), s) := by
  let placed := (refuser status).placed (refusing status).settings [] []
  obtain ⟨r, built, standard, date, table⟩ :
      ∃ r, (refusing status).build = .ok r ∧
        r.errorResponder = some jsonErrorResponder ∧ r.date = tracedDate.wire ∧
        r.table = ⟨[],
          PerfectStore.compile ⟨[], [], Tier.distinct_nil, Tier.distinct_nil⟩ defaultKeyWidth false,
          { mode := .sensitive, parameterless := [(placed.route.lineKey, placed)] },
          { mode := .insensitive }, []⟩ :=
    ⟨_, rfl, rfl, rfl, rfl⟩
  refine ⟨r, built, standard, date, ?_⟩
  intro s
  have line : RoutePath.written [Octets.ofText "x"] = Octets.ofText "/x" := by decide
  have key : placed.route.lineKey = refusedRead.startLine := by
    rw [DynamicRoute.lineKey_eq]
    exact congrArg (Request.lineOf .get · .http11)
      ((RoutePath.ofText_render_literals ["x"]).trans line)
  have own : DynamicStore.resolve?
      { mode := .sensitive, parameterless := [(placed.route.lineKey, placed)] } refusedRead =
        some ⟨placed, []⟩ := by
    simp [DynamicStore.resolve?, DynamicStore.lineOf, Tier.get?, key]
  have sorted : PerfectStore.sortedEntries ([] : Tier RenderedResponse) = [] := List.mergeSort_nil
  have resolves : r.table.resolve? refusedRead =
      some (.dynamic ⟨placed, []⟩ .dynamicSensitive) := by
    rw [table, RouteTable.resolve?, RouteTable.resolveOwn?, PerfectStore.compile, sorted, own]
    rfl
  rw [attempt, resolves]
  rfl

/-- Refused under a status that allows a body, and answered. -/
theorem handle_failed_unauthorized :
    ∃ r, (refusing Status.unauthorized).build = .ok r ∧
      Request.parse refusedRequest = .ok (some refusedRead) ∧
      r.attempt refusedRead (.new {}) = (.error (.middleware Status.unauthorized "no"), .new {}) ∧
      (r.handle refusedRead (.new {})).1 = .failed true ∧
      ∃ sent : Octets, (r.handle refusedRead (.new {})).2.peer.received = [] ++ sent ∧
        sent.Decodes
          ((ResponseError.middleware Status.unauthorized "no").headLines tracedDate.wire)
          (ResponseError.middleware Status.unauthorized "no").jsonBody := by
  obtain ⟨r, built, standard, date, refused⟩ := exists_refusing Status.unauthorized
  have unbroken : r.date.Unbroken := date ▸ Octets.unbroken_wire tracedDate
  obtain ⟨ended, sent, received, decodes⟩ :=
    handle_failed standard unbroken (by rw [refused]) rfl (by rw [refused])
      (s := .new {}) WritePolicy.willing_generous
  rw [if_pos (by decide), date] at decodes
  exact ⟨r, built, parse_refusedRequest, refused _, ended, sent, received, decodes⟩

/-- Refused under a status without a body, and left without an answer, although the connection has
taken nothing and would take everything. -/
theorem refused_unanswered :
    ∃ r, (refusing ⟨304⟩).build = .ok r ∧
      Request.parse refusedRequest = .ok (some refusedRead) ∧
      r.errorResponder = some jsonErrorResponder ∧
      r.attempt refusedRead (.new {}) = (.error (.middleware ⟨304⟩ "no"), .new {}) ∧
      (r.handle refusedRead (.new {})).1 = .failed false ∧
      (r.handle refusedRead (.new {})).2.peer.received = [] := by
  obtain ⟨r, built, standard, date, refused⟩ := exists_refusing ⟨304⟩
  have unbroken : r.date.Unbroken := date ▸ Octets.unbroken_wire tracedDate
  obtain ⟨ended, sent, received, nothing⟩ :=
    r.fail_standard (e := .middleware ⟨304⟩ "no") (s := .new {}) standard unbroken rfl
      WritePolicy.willing_generous
  rw [if_neg (by decide)] at nothing
  rw [nothing] at received
  refine ⟨r, built, parse_refusedRequest, standard, refused _, ?_⟩
  rw [handle, refused]
  exact ⟨ended, received⟩

end Router

end Signpost
