import Signpost.Proofs.Response.Decoded
import Signpost.Proofs.Router.OneResponse

/-!
# Answers to requests for the head alone

Responses of handlers leave out the body when only the head is asked for, and the
bare response has none.  Fixed responses and the responses to failures are sent as
they are, whatever the method is (`handle_fixed_endsWithHead_iff`).  So no octet
follows the head of an answer only where these are declared without a body.
-/

namespace Signpost

open Octets (crlf headEnd)

namespace Octets

/-- No octet stands behind the first blank line. -/
def EndsWithHead (bytes : Octets) : Prop := ∀ n ∈ bytes.headLength?, bytes.drop n = []

instance (bytes : Octets) : Decidable (EndsWithHead bytes) :=
  inferInstanceAs (Decidable (∀ n ∈ bytes.headLength?, bytes.drop n = []))

theorem endsWithHead_nil : EndsWithHead [] := by decide

theorem EndsWithHead.of_prefix {sent whole : Octets} (ends : whole.EndsWithHead)
    (starts : sent <+: whole) : sent.EndsWithHead := by
  intro n found
  obtain ⟨rest, rfl⟩ := starts
  have nothing := ends n (headLength?_append found)
  rw [List.drop_append, List.append_eq_nil_iff] at nothing
  exact nothing.1

theorem endsWithHead_joined {parts : List Octets} (some_line : parts ≠ [])
    (unbroken : ∀ line ∈ parts, Unbroken line) (full : [] ∉ parts) :
    EndsWithHead (joined crlf parts ++ headEnd) := by
  intro n found
  have ends := headLength?_joined some_line unbroken full []
  rw [List.append_nil] at ends
  rw [ends, Option.mem_some_iff] at found
  rw [← found, ← List.length_append]
  exact List.drop_length

end Octets

/-- What stands behind the head is the body. -/
theorem ResponseHead.Sized.endsWithHead_iff {h : ResponseHead} {date? : Option Octets}
    {body bytes : Octets} (sized : h.Sized date? body bytes) :
    bytes.EndsWithHead ↔ body = [] := by
  obtain ⟨n, found, _, rest⟩ := sized.decodes
  rw [← rest]
  constructor
  · intro ends
    exact ends n found
  · intro nothing m here
    rw [found, Option.mem_some_iff] at here
    rw [← here, nothing]

theorem TemplateBody.octets_of_isEmpty {body : TemplateBody} (empty : body.isEmpty) :
    body.length?.isSome ∧ body.octets = [] := by
  rw [isEmpty, beq_iff_eq] at empty
  refine ⟨by rw [empty]; rfl, ?_⟩
  cases body with
  | chunked chunks => rfl
  | _ => exact List.length_eq_zero_iff.mp (Option.some.inj empty)

/-- A response that is sent without a body ends with its head. -/
theorem DynamicResponse.endsWithHead_of_wire? {r : DynamicResponse} {date whole : Octets}
    {omitBody : Bool} (read : ∀ header ∈ r.head.headers, header.1.Read)
    (unbroken : date.Unbroken) (bare : r.bodyWire omitBody = [])
    (wire : r.wire? date omitBody = some whole) : whole.EndsWithHead := by
  rw [wire?] at wire
  split at wire
  · cases wire
  · next spans rendered =>
    obtain ⟨checked, framing, _, rfl⟩ := exists_of_renderedHead rendered
    rw [bare, List.append_nil, ResponseHead.render_dated, Option.some_inj] at wire
    rw [← wire]
    refine Octets.endsWithHead_joined (List.cons_ne_nil _ _) ?_ (ResponseHead.full_headLines _ _ _)
    refine ResponseHead.unbroken_headLines checked
      (fun header mem => (read header mem).isTokenText) ?_
    intro date' there
    cases there
    exact unbroken

theorem RouteTemplate.isChunked_renderSized (t : RouteTemplate) (framing : Framing) :
    (t.renderSized framing).isChunked = false := by
  unfold renderSized
  dsimp only
  split <;> split <;> rfl

theorem RenderedResponse.respond_generous (r : RenderedResponse) (sized : r.isChunked = false)
    {s : Socket} (generous : s.peer.policy = WritePolicy.generous) (date : Octets) :
    (r.respond date s).1 = .ok () := by
  have willing : s.peer.policy.Willing := generous ▸ WritePolicy.willing_generous
  have single : ∀ whole, (sent (s.write whole)).1 = .ok () := by
    intro whole
    obtain ⟨s', eq, _⟩ := Socket.exists_write_of_willing willing whole
    rw [eq]
    rfl
  have gathered : ∀ parts, (sent (s.writeGathered parts)).1 = .ok () := by
    intro parts
    obtain ⟨s', eq, _⟩ := Socket.exists_writeGathered_of_willing willing parts
    rw [eq]
    rfl
  cases r with
  | bytes whole => exact single whole
  | text whole => exact single whole
  | datedText spans => exact gathered _
  | datedBytes spans => exact gathered _
  | chunked head dated chunks => cases sized

namespace Router

/-- The fixed response that answers a request. -/
def fixed? (r : Router) (request : Request) : Option RenderedResponse :=
  match r.table.resolve? request with
  | some (.fixed response _) => some response
  | some (.dynamic _ _) => none
  | none =>
    match r.notFound with
    | some (.fixed response) => some response
    | _ => none

/-- The response that a handler makes for a request. -/
def handled? (r : Router) (request : Request) : Option DynamicResponse :=
  match r.table.resolve? request with
  | some (.fixed _ _) => none
  | some (.dynamic found _) => (found.responder.answer request found.parameters).toOption
  | none =>
    match r.notFound with
    | some (.dynamic responder) => (responder.answer request []).toOption
    | _ => none

theorem exists_of_responder_wire? {responder : DynamicResponder} {request : Request}
    {parameters : List String} {date whole : Octets}
    (wire : responder.wire? request parameters date = some whole) :
    ∃ response, (responder.answer request parameters).toOption = some response ∧
      response.wire? date request.method.isHead = some whole := by
  rw [DynamicResponder.wire?] at wire
  split at wire
  · cases wire
  · next response answered => exact ⟨response, by rw [answered]; rfl, wire⟩

/-- The response tried first is fixed, or a handler made it, or it is the bare one. -/
theorem exists_of_ownWire? {r : Router} {request : Request} {whole : Octets}
    (wire : r.ownWire? request = some whole) :
    (∃ response, r.fixed? request = some response ∧ whole = response.wire r.date) ∨
      (∃ response, r.handled? request = some response ∧
        response.wire? r.date request.method.isHead = some whole) ∨
      whole = bareResponse := by
  unfold ownWire? at wire
  unfold fixed? handled?
  cases resolved : r.table.resolve? request with
  | some found =>
    rw [resolved] at wire
    cases found with
    | fixed response tier =>
      cases wire
      exact .inl ⟨response, rfl, rfl⟩
    | dynamic found tier => exact .inr (.inl (exists_of_responder_wire? wire))
  | none =>
    rw [resolved] at wire
    dsimp only at wire ⊢
    rcases notFound : r.notFound with _ | response | responder
    · rw [notFound] at wire
      dsimp only at wire
      split at wire
      · cases wire
      · exact .inr (.inr (Option.some.inj wire).symm)
    · rw [notFound] at wire
      cases wire
      exact .inl ⟨response, rfl, rfl⟩
    · rw [notFound] at wire
      exact .inr (.inl (exists_of_responder_wire? wire))

/-- What is sent on to a failure, if something had been sent before it. -/
theorem exists_sent_fail {r : Router} {own? : Option Octets} {e : ResponseError} {s s' : Socket}
    (attempts : Attempts own? s (.error e, s')) :
    ∃ sent, (r.fail e s.bytesWritten s').2.peer.received = s.peer.received ++ sent ∧
      ((∃ whole, own? = some whole ∧ sent <+: whole) ∨ sent = [] ∨
        ∃ whole, r.errorWire? e = some whole ∧ sent <+: whole) := by
  have one : SendsOne r own? s (.error e, s') (r.fail e s.bytesWritten s') := by
    cases own? with
    | none =>
      obtain ⟨_, same⟩ := attempts
      cases same
      exact r.sendsOne_fail_of_nothing none e rfl
    | some whole =>
      obtain ⟨sent, delivers⟩ := attempts
      exact r.sendsOne_fail_of_delivers delivers
  cases one with
  | nothing received _ => exact ⟨[], by rw [List.append_nil, received], .inr (.inl rfl)⟩
  | own wire received part => exact ⟨_, received, .inl ⟨_, wire, part.starts⟩⟩
  | failure failed _ wire received part =>
    cases failed
    exact ⟨_, received, .inr (.inr ⟨_, wire, part.starts⟩)⟩

/-- What is sent to answer a request is a start of the response tried first, or of the one to its
failure. -/
theorem exists_sent_handle (r : Router) (request : Request) (s : Socket) :
    ∃ sent, (r.handle request s).2.peer.received = s.peer.received ++ sent ∧
      ((∃ whole, r.ownWire? request = some whole ∧ sent <+: whole) ∨ sent = [] ∨
        ∃ e whole, (r.attempt request s).1 = .error e ∧ r.errorWire? e = some whole ∧
          sent <+: whole) := by
  unfold handle
  obtain ⟨outcome, written, _, attempts, eq⟩ | ⟨_, eq⟩ := r.attempt_reports request s
  · rw [eq]
    rcases written with ⟨e | _, s'⟩
    · obtain ⟨sent, received, own | nothing | ⟨whole, failure⟩⟩ := exists_sent_fail attempts
      · exact ⟨sent, received, .inl own⟩
      · exact ⟨sent, received, .inr (.inl nothing)⟩
      · exact ⟨sent, received, .inr (.inr ⟨e, whole, rfl, failure⟩)⟩
    · cases own : r.ownWire? request with
      | none =>
        rw [own] at attempts
        obtain ⟨_, same⟩ := attempts
        cases same
      | some whole =>
        rw [own] at attempts
        obtain ⟨sent, received, part, _⟩ := attempts
        exact ⟨sent, received, .inl ⟨whole, rfl, part.starts⟩⟩
  · rw [eq]
    exact ⟨[], (List.append_nil _).symm, .inr (.inl rfl)⟩

/-- No octet follows the head of what answers a request for the head alone, whether a handler
makes the answer, or nothing is found, or the answer is fixed or tells a failure; of the last two
it is so because they are declared without a body. -/
theorem handle_endsWithHead (r : Router) {request : Request} (isHead : request.method = .head)
    (s : Socket) (unbroken : r.date.Unbroken)
    (handled : ∀ response, r.handled? request = some response →
      ∀ header ∈ response.head.headers, header.1.Read)
    (fixed : ∀ response, r.fixed? request = some response → ∃ t : RouteTemplate,
      t.body.isEmpty ∧ (∀ header ∈ t.head.headers, header.1.Read) ∧ t.compile = .ok response)
    (failure : ∀ e responder, (r.attempt request s).1 = .error e →
      r.errorResponder = some responder →
      (responder e).bodyWire false = [] ∧ ∀ header ∈ (responder e).head.headers, header.1.Read) :
    ∃ sent, (r.handle request s).2.peer.received = s.peer.received ++ sent ∧
      sent.EndsWithHead := by
  obtain ⟨sent, received, ⟨whole, wire, starts⟩ | rfl | ⟨e, whole, failed, wire, starts⟩⟩ :=
    r.exists_sent_handle request s
  · refine ⟨sent, received, Octets.EndsWithHead.of_prefix ?_ starts⟩
    rcases exists_of_ownWire? wire with ⟨response, found, rfl⟩ | ⟨response, found, wire⟩ | rfl
    · obtain ⟨t, empty, read, compiled⟩ := fixed response found
      obtain ⟨sized, nothing⟩ := TemplateBody.octets_of_isEmpty empty
      have decoded := RouteTemplate.sized_of_compile sized read (fun _ => unbroken) compiled
      exact decoded.endsWithHead_iff.mpr nothing
    · have bare : response.bodyWire request.method.isHead = [] := by
        rw [isHead]
        rfl
      exact DynamicResponse.endsWithHead_of_wire? (handled response found) unbroken bare wire
    · decide
  · exact ⟨[], received, Octets.endsWithHead_nil⟩
  · refine ⟨sent, received, Octets.EndsWithHead.of_prefix ?_ starts⟩
    unfold errorWire? at wire
    split at wire
    · cases wire
    · next responder configured =>
      obtain ⟨bare, read⟩ := failure e responder failed configured
      exact DynamicResponse.endsWithHead_of_wire? read unbroken bare wire

def withoutRoutes : RouteLevel where
  base_segments := List.forall_mem_nil RoutePath.IsSegment

/-- A level without routes resolves nothing. -/
theorem resolve?_empty (request : Request) :
    RouteTable.resolve?
      ⟨[],
        PerfectStore.compile ⟨[], [], Tier.distinct_nil, Tier.distinct_nil⟩ defaultKeyWidth false,
        { mode := .sensitive }, { mode := .insensitive }, []⟩ request = none := by
  have sorted : PerfectStore.sortedEntries ([] : Tier RenderedResponse) = [] := List.mergeSort_nil
  rw [RouteTable.resolve?, RouteTable.resolveOwn?, PerfectStore.compile, sorted]
  rfl

/-- A router whose handler answers everything with a text. -/
def handledNotFound : RouterPlan where
  routes := withoutRoutes
  notFound := some (.handled fun _ response => .ok { response with body := .text "nf" })
  errorResponder := none
  date := tracedDate.wire

theorem handle_endsWithHead_handled :
    ∃ r request, handledNotFound.build = .ok r ∧
      Request.parse (Octets.ofText "HEAD /x HTTP/1.1\r\n\r\n") = .ok (some request) ∧
      r.handled? request =
        some { head := { status := Status.notFound }, body := .text "nf", parameters := [] } ∧
      ∃ sent : Octets, (r.handle request (Socket.new {})).2.peer.received = [] ++ sent ∧
        sent.EndsWithHead := by
  obtain ⟨r, responder, built, answers, resolved, notFound, noError, date⟩ :
      ∃ r responder, handledNotFound.build = .ok r ∧
        (∀ request, responder.answer request [] =
          .ok { head := { status := Status.notFound }, body := .text "nf", parameters := [] }) ∧
        (∀ request, r.table.resolve? request = none) ∧ r.notFound = some (.dynamic responder) ∧
        r.errorResponder = none ∧ r.date = tracedDate.wire :=
    ⟨_, _, rfl, fun _ => rfl, resolve?_empty, rfl, rfl, rfl⟩
  obtain ⟨request, read, isHead⟩ : ∃ request,
      Request.parse (Octets.ofText "HEAD /x HTTP/1.1\r\n\r\n") = .ok (some request) ∧
      request.method = .head := ⟨_, rfl, rfl⟩
  have handled : r.handled? request =
      some { head := { status := Status.notFound }, body := .text "nf", parameters := [] } := by
    rw [handled?, resolved, notFound]
    dsimp only
    rw [answers]
    rfl
  refine ⟨r, request, built, read, handled, ?_⟩
  apply r.handle_endsWithHead isHead (Socket.new {})
  · rw [date]
    exact Octets.unbroken_wire tracedDate
  · intro response found
    rw [handled] at found
    cases found
    exact nofun
  · intro response found
    rw [fixed?, resolved, notFound] at found
    cases found
  · intro e responder _ configured
    rw [noError] at configured
    cases configured

/-! ## Fixed responses -/

/-- A fixed response of known length goes out whole, whatever the method of the request. -/
theorem handle_fixed (r : Router) {request : Request} {response : RenderedResponse} {s : Socket}
    (found : r.fixed? request = some response) (sized : response.isChunked = false)
    (generous : s.peer.policy = WritePolicy.generous) :
    (r.handle request s).2.peer.received = s.peer.received ++ response.wire r.date := by
  have attempted : ∃ outcome, r.attempt request s =
      ((response.respond r.date s).1.map fun () => outcome, (response.respond r.date s).2) := by
    unfold fixed? at found
    unfold attempt
    cases resolved : r.table.resolve? request with
    | some resolution =>
      rw [resolved] at found
      cases resolution with
      | fixed own tier =>
        cases found
        exact ⟨.responded tier, rfl⟩
      | dynamic own tier => cases found
    | none =>
      rw [resolved] at found
      dsimp only at found ⊢
      unfold respondUnmatched
      rcases notFound : r.notFound with _ | own | responder
      · rw [notFound] at found
        cases found
      · rw [notFound] at found
        cases found
        exact ⟨.notFound, rfl⟩
      · rw [notFound] at found
        cases found
  obtain ⟨outcome, eq⟩ := attempted
  obtain ⟨sent, received, part, _⟩ := response.exists_delivers_respond r.date s
  have done := response.respond_generous sized generous r.date
  have whole := part.complete_iff.mp done
  rw [handle, eq, done]
  rw [whole] at received
  exact received

/-- So octets follow the head exactly if the response was declared with a body. -/
theorem handle_fixed_endsWithHead_iff (r : Router) {request : Request} {t : RouteTemplate}
    {response : RenderedResponse} {s : Socket} (found : r.fixed? request = some response)
    (compiled : t.compile = .ok response) (sized : t.body.length?.isSome)
    (read : ∀ header ∈ t.head.headers, header.1.Read) (unbroken : r.date.Unbroken)
    (generous : s.peer.policy = WritePolicy.generous) :
    ∃ sent, (r.handle request s).2.peer.received = s.peer.received ++ sent ∧
      (sent.EndsWithHead ↔ t.body.octets = []) := by
  refine ⟨response.wire r.date, ?_, ?_⟩
  · refine r.handle_fixed found ?_ generous
    obtain ⟨_, rfl⟩ := RouteTemplate.exists_of_compile sized compiled
    exact t.isChunked_renderSized _
  · exact (RouteTemplate.sized_of_compile sized read (fun _ => unbroken) compiled).endsWithHead_iff

/-- A router that answers everything with a text. -/
def textNotFound : RouterPlan where
  routes := withoutRoutes
  notFound := some (.fixed (RouteTemplate.text "nf"))
  date := tracedDate.wire

/-- The text follows the head although only the head was asked for. -/
theorem text_follows_head :
    ∃ r request, textNotFound.build = .ok r ∧
      Request.parse (Octets.ofText "HEAD /x HTTP/1.1\r\n\r\n") = .ok (some request) ∧
      request.method = .head ∧
      ¬(r.handle request (Socket.new {})).2.peer.received.EndsWithHead := by
  obtain ⟨r, response, built, compiled, resolved, notFound, date⟩ : ∃ r response,
      textNotFound.build = .ok r ∧ (RouteTemplate.text "nf").compile = .ok response ∧
      (∀ request, r.table.resolve? request = none) ∧ r.notFound = some (.fixed response) ∧
      r.date = tracedDate.wire :=
    ⟨_, _, rfl, rfl, resolve?_empty, rfl, rfl⟩
  obtain ⟨request, read, isHead⟩ : ∃ request,
      Request.parse (Octets.ofText "HEAD /x HTTP/1.1\r\n\r\n") = .ok (some request) ∧
      request.method = .head := ⟨_, rfl, rfl⟩
  refine ⟨r, request, built, read, isHead, ?_⟩
  have found : r.fixed? request = some response := by
    rw [fixed?, resolved, notFound]
  have unbroken : r.date.Unbroken := by
    rw [date]
    exact Octets.unbroken_wire tracedDate
  obtain ⟨sent, received, ends⟩ := r.handle_fixed_endsWithHead_iff (s := Socket.new {}) found
    compiled rfl nofun unbroken rfl
  have alone : (Socket.new {}).peer.received = [] := rfl
  rw [received, alone, List.nil_append, ends]
  decide

end Router

end Signpost
