import Signpost.Proofs.Connection.Delivery
import Signpost.Router.Route

/-!
# Responses on the wire

The octets of a response are determined before any of them is written: a head
with the date in it, and a body, or frames of chunks and their end.  A source
of chunks that fails leaves its response without an end.  Whatever a responder
writes is a start of these octets, and it succeeds exactly if they have all
been taken.  Where there is no response it writes nothing.
-/

namespace Signpost

namespace Chunks

/-- A body in chunks, as if it ended where its source fails. -/
def wire : Chunks → Octets
  | [] => trailer
  | .error _ :: _ => trailer
  | .ok chunk :: rest => (if chunk.isEmpty then [] else frame chunk) ++ wire rest

theorem write_nil (s : Socket) : write [] s = RenderedResponse.sent (s.write trailer) := by
  rw [write, RenderedResponse.sent]
  rcases s.write trailer with ⟨_ | _, next⟩ <;> rfl

theorem write_of_full {chunk : Octets} (full : ¬chunk.isEmpty = true) (rest : Chunks) (s : Socket) :
    write (.ok chunk :: rest) s =
      thenWrite (RenderedResponse.sent (s.writeGathered [sizeLine chunk, chunk, Octets.crlf]))
        rest.write := by
  rw [write, if_neg full, RenderedResponse.sent]
  rcases s.writeGathered [sizeLine chunk, chunk, Octets.crlf] with ⟨_ | _, next⟩ <;> rfl

theorem exists_delivers_write (chunks : Chunks) (s : Socket) :
    ∃ sent, Delivers chunks.wire s sent (chunks.write s) := by
  induction chunks generalizing s with
  | nil =>
    rw [write_nil]
    exact Signpost.exists_delivers_write s trailer
  | cons item rest ih =>
    cases item with
    | error message =>
      have some_left : trailer ≠ [] := by decide
      exact ⟨[], (List.append_nil _).symm, .nothing some_left nofun, fun _ => rfl⟩
    | ok chunk =>
      by_cases empty : chunk.isEmpty = true
      · rw [wire, write, if_pos empty, if_pos empty]
        exact ih s
      · obtain ⟨sent, first⟩ :=
          exists_delivers_writeGathered s [sizeLine chunk, chunk, Octets.crlf]
        have framed : [sizeLine chunk, chunk, Octets.crlf].flatten = frame chunk := by
          simp [frame]
        rw [framed] at first
        rw [wire, if_neg empty, write_of_full empty]
        exact first.thenWrite ih

end Chunks

namespace RenderedResponse

/-- The spans of the response, or of its head if it is chunked, with a date put in. -/
def spans : RenderedResponse → Octets → List Octets
  | bytes whole, _ => [whole]
  | text whole, _ => [whole]
  | datedText d, date => [d.front, date, d.back]
  | datedBytes d, date => [d.front, date, d.back]
  | chunked d true _, date => [d.front, date, d.back]
  | chunked d false _, _ => [d.front, d.back]

/-- What is left to send behind the spans. -/
def chunkWire : RenderedResponse → Octets
  | chunked _ _ chunks => chunks.wire
  | bytes _ | text _ | datedText _ | datedBytes _ => []

/-- The octets of the response, with a date put in. -/
def wire (r : RenderedResponse) (date : Octets) : Octets := (r.spans date).flatten ++ r.chunkWire

theorem respond_chunked (head : DateSplit) (dated : Bool) (chunks : Chunks) (date : Octets)
    (s : Socket) :
    respond (.chunked head dated chunks) date s =
      thenWrite (sent (s.writeGathered (spans (.chunked head dated chunks) date)))
        chunks.write := by
  have head_written : (if dated then head.write date s else head.writeUndated s) =
      s.writeGathered (spans (.chunked head dated chunks) date) := by cases dated <;> rfl
  rw [respond, sent, head_written]
  rcases s.writeGathered (spans (.chunked head dated chunks) date) with ⟨_ | _, next⟩ <;> rfl

theorem exists_delivers_respond (r : RenderedResponse) (date : Octets) (s : Socket) :
    ∃ sent, Delivers (r.wire date) s sent (r.respond date s) := by
  cases r with
  | bytes whole =>
    have eq : wire (.bytes whole) date = whole := by simp [wire, spans, chunkWire]
    rw [eq]
    exact exists_delivers_write s whole
  | text whole =>
    have eq : wire (.text whole) date = whole := by simp [wire, spans, chunkWire]
    rw [eq]
    exact exists_delivers_write s whole
  | datedText d =>
    rw [wire, chunkWire, List.append_nil]
    exact exists_delivers_writeGathered s _
  | datedBytes d =>
    rw [wire, chunkWire, List.append_nil]
    exact exists_delivers_writeGathered s _
  | chunked head dated chunks =>
    obtain ⟨_, first⟩ := exists_delivers_writeGathered s (spans (.chunked head dated chunks) date)
    rw [respond_chunked]
    exact first.thenWrite chunks.exists_delivers_write

end RenderedResponse

/-- A response is written, of which the octets are these; or there is none, and nothing is. -/
def Attempts (wire? : Option Octets) (s : Socket)
    (result : Except ResponseError Unit × Socket) : Prop :=
  match wire? with
  | none => ∃ e, result = (.error e, s)
  | some whole => ∃ sent, Delivers whole s sent result

namespace DynamicResponse

/-- The framing of the body under a head. -/
def framing (r : DynamicResponse) (head : ResponseHead) : Except HeadError Framing :=
  if r.body.isStream then .ok .chunked else head.framingFor r.body.octets.length

/-- The head in two spans around the date. -/
def renderedHead (r : DynamicResponse) : Except HeadError DateSplit := do
  let head ← r.finalHead
  let framing ← r.framing head
  return head.render framing true

/-- The octets of the body, or of none. -/
def bodyWire (r : DynamicResponse) (omitBody : Bool) : Octets :=
  if omitBody then []
  else
    match r.body with
    | .stream chunks => chunks.wire
    | body => body.octets

/-- The octets of the response, if it is in order. -/
def wire? (r : DynamicResponse) (date : Octets) (omitBody : Bool) : Option Octets :=
  match r.renderedHead with
  | .error _ => none
  | .ok spans => some (spans.front ++ date ++ spans.back ++ r.bodyWire omitBody)

theorem bodyWire_of_sized {r : DynamicResponse} (sized : r.body.isStream = false) :
    r.bodyWire false = r.body.octets := by
  rw [bodyWire, if_neg Bool.false_ne_true]
  cases body : r.body with
  | stream chunks =>
    rw [body] at sized
    cases sized
  | _ => rfl

/-- A stream goes out behind its head, if that can be rendered. -/
theorem write_stream_eq {r : DynamicResponse} {chunks : Chunks} (streams : r.body = .stream chunks)
    (date : Octets) (omitBody : Bool) (s : Socket) :
    r.write date omitBody s =
      match r.renderedHead with
      | .error e => (.error (.head e), s)
      | .ok spans =>
        thenWrite (RenderedResponse.sent (s.writeGathered [spans.front, date, spans.back]))
          fun s => if omitBody then (.ok (), s) else chunks.write s := by
  rw [write, renderedHead]
  cases r.finalHead with
  | error e => rfl
  | ok head =>
    have framed : r.framing head = .ok .chunked := by
      rw [framing, streams]
      rfl
    rw [streams]
    dsimp only [bind, Except.bind, DateSplit.write]
    rw [framed]
    dsimp only [pure, Except.pure, RenderedResponse.sent]
    rcases s.writeGathered _ with ⟨_ | _, next⟩ <;> rfl

/-- A body of known length goes out together with its head, if that can be rendered. -/
theorem write_sized_eq {r : DynamicResponse} (sized : r.body.isStream = false) (date : Octets)
    (omitBody : Bool) (s : Socket) :
    r.write date omitBody s =
      match r.renderedHead with
      | .error e => (.error (.head e), s)
      | .ok spans =>
        RenderedResponse.sent
          (s.writeGathered [spans.front, date, spans.back, r.bodyWire omitBody]) := by
  rw [write, renderedHead]
  cases r.finalHead with
  | error e => rfl
  | ok head =>
    have framed : r.framing head = head.framingFor r.body.octets.length := by
      rw [framing, sized]
      rfl
    dsimp only [bind, Except.bind]
    rw [framed, bodyWire]
    cases body : r.body with
    | stream chunks =>
      rw [body] at sized
      cases sized
    | _ =>
      dsimp only
      cases head.framingFor _ <;> rfl

theorem exists_stream {r : DynamicResponse} (streams : r.body.isStream = true) :
    ∃ chunks, r.body = .stream chunks := by
  cases body : r.body with
  | stream chunks => exact ⟨chunks, rfl⟩
  | _ =>
    rw [body] at streams
    cases streams

section Write

variable {r : DynamicResponse} {spans : DateSplit} {e : HeadError}

theorem write_of_stream {chunks : Chunks} (rendered : r.renderedHead = .ok spans)
    (streams : r.body = .stream chunks) (date : Octets) (omitBody : Bool) (s : Socket) :
    r.write date omitBody s =
      thenWrite (RenderedResponse.sent (s.writeGathered [spans.front, date, spans.back]))
        fun s => if omitBody then (.ok (), s) else chunks.write s := by
  rw [write_stream_eq streams, rendered]

theorem write_of_sized (rendered : r.renderedHead = .ok spans) (sized : r.body.isStream = false)
    (date : Octets) (omitBody : Bool) (s : Socket) :
    r.write date omitBody s =
      RenderedResponse.sent
        (s.writeGathered [spans.front, date, spans.back, r.bodyWire omitBody]) := by
  rw [write_sized_eq sized, rendered]

/-- On a connection that takes what it is offered, a response of known length goes out whole. -/
theorem exists_write_of_willing {date whole : Octets} {omitBody : Bool} {s : Socket}
    (sized : r.body.isStream = false) (wire : r.wire? date omitBody = some whole)
    (willing : s.peer.policy.Willing) :
    ∃ s', r.write date omitBody s = (.ok (), s') ∧ s.Carries whole s' := by
  rw [wire?] at wire
  split at wire
  · cases wire
  · next spans rendered =>
    obtain ⟨s', eq, carries⟩ := s.exists_writeGathered_of_willing willing
      [spans.front, date, spans.back, r.bodyWire omitBody]
    have parts : [spans.front, date, spans.back, r.bodyWire omitBody].flatten = whole := by
      rw [← Option.some.inj wire]
      simp
    rw [parts] at carries
    rw [write_of_sized rendered sized, eq]
    exact ⟨s', rfl, carries⟩

/-- A response whose head cannot be rendered is refused, and nothing of it is written. -/
theorem write_of_refused (refused : r.renderedHead = .error e) (date : Octets) (omitBody : Bool)
    (s : Socket) : r.write date omitBody s = (.error (.head e), s) := by
  cases sized : r.body.isStream with
  | false => rw [write_sized_eq sized, refused]
  | true =>
    obtain ⟨chunks, streams⟩ := exists_stream sized
    rw [write_stream_eq streams, refused]

end Write

theorem attempts_write (r : DynamicResponse) (date : Octets) (omitBody : Bool) (s : Socket) :
    Attempts (r.wire? date omitBody) s (r.write date omitBody s) := by
  rw [wire?]
  cases rendered : r.renderedHead with
  | error e => exact ⟨.head e, write_of_refused rendered date omitBody s⟩
  | ok spans =>
    cases sized : r.body.isStream with
    | false =>
      have parts := exists_delivers_writeGathered s
        [spans.front, date, spans.back, r.bodyWire omitBody]
      rw [write_of_sized rendered sized]
      simpa [Attempts] using parts
    | true =>
      obtain ⟨chunks, streams⟩ := exists_stream sized
      obtain ⟨_, head⟩ := exists_delivers_writeGathered s [spans.front, date, spans.back]
      have flat : [spans.front, date, spans.back].flatten = spans.front ++ date ++ spans.back := by
        simp
      rw [flat] at head
      rw [write_of_stream rendered streams]
      refine head.thenWrite ?_
      intro s'
      unfold bodyWire
      cases omitBody with
      | true => exact ⟨[], (List.append_nil _).symm, .all [] rfl, fun _ => rfl⟩
      | false =>
        rw [streams]
        exact chunks.exists_delivers_write s'

end DynamicResponse

namespace DynamicResponder

/-- The octets of the response to a request, if there is one. -/
def wire? (r : DynamicResponder) (request : Request) (parameters : List String)
    (date : Octets) : Option Octets :=
  match r.answer request parameters with
  | .error _ => none
  | .ok response => response.wire? date request.method.isHead

theorem attempts_respond (r : DynamicResponder) (request : Request) (parameters : List String)
    (date : Octets) (s : Socket) :
    Attempts (r.wire? request parameters date) s (r.respond request parameters date s) := by
  rw [wire?, respond]
  cases r.answer request parameters with
  | error e => exact ⟨e, rfl⟩
  | ok response => exact response.attempts_write date request.method.isHead s

end DynamicResponder

end Signpost
