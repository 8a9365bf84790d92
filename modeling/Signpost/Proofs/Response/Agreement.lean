import Signpost.Proofs.Fallible
import Signpost.Proofs.Response.Decoded

/-!
# Rendered once or for each request

A dated template may be rendered when its route is compiled, or it may be what a
dynamic response starts out as.  Under one content type the two put the same octets
on a connection and end alike, and a head that is refused when the route is compiled
is refused, before anything is written, when the response is
(`RouteTemplate.respond_eq_write`).
-/

namespace Signpost

namespace RouteTemplate

/-- The responses to a template carry its own content type: it is declared, or the body has
none to be sent under. -/
def IsTyped (t : RouteTemplate) : Prop :=
  t.head.contentType.isSome ∨ t.body = .empty ∨ ∃ chunks, t.body = .chunked chunks

/-- A dated response with its head in two spans. -/
def renderAround (t : RouteTemplate) (spans : DateSplit) : RenderedResponse :=
  let whole : DateSplit := { spans with back := spans.back ++ t.body.octets }
  match t.body with
  | .chunked chunks => .chunked spans true chunks
  | .text _ => .datedText whole
  | .empty | .bytes _ => .datedBytes whole

variable {t : RouteTemplate}

theorem IsTyped.typedHead_eq (typed : t.IsTyped) :
    (DynamicResponse.ofTemplate t).typedHead = t.head := by
  obtain ⟨⟨version, status, contentType, headers, cookies⟩, body, isDated⟩ := t
  rcases typed with declared | empty | ⟨chunks, streams⟩
  · obtain ⟨c, rfl⟩ := Option.isSome_iff_exists.mp declared
    rfl
  · cases empty
    cases contentType <;> rfl
  · cases streams
    cases contentType <;> rfl

/-- The framing of the responses to a template, if its status allows its body. -/
def allowedFraming (t : RouteTemplate) : Except HeadError Framing :=
  match t.body with
  | .chunked _ =>
    if t.head.status.allowsBody then .ok .chunked else .error (.bodyNotAllowed t.head.status.code)
  | body => t.head.framingFor body.octets.length

theorem compile_eq (dated : t.dated = true) :
    t.compile = t.head.check.bind fun _ =>
      t.allowedFraming.map fun framing => t.renderAround (t.head.render framing true) := by
  obtain ⟨head, body, isDated⟩ := t
  subst dated
  rw [compile]
  cases head.check with
  | error e => rfl
  | ok _ =>
    cases body with
    | chunked chunks =>
      show (if head.status.allowsBody then Except.ok _ else Except.error _) =
        Except.map _ (if head.status.allowsBody then Except.ok _ else Except.error _)
      split <;> rfl
    | _ => exact bind_pure_comp _ (head.framingFor _)

/-- The head of its dynamic response is refused for the same reasons. -/
theorem renderedHead_eq (typed : t.IsTyped) :
    (DynamicResponse.ofTemplate t).renderedHead = t.head.check.bind fun _ =>
      t.allowedFraming.map fun framing => t.head.render framing true := by
  have same := typed.typedHead_eq
  rw [DynamicResponse.renderedHead, DynamicResponse.finalHead, ← DynamicResponse.typedHead, same]
  cases t.head.check with
  | error e => rfl
  | ok _ =>
    obtain ⟨head, body, isDated⟩ := t
    cases body with
    | chunked chunks =>
      rw [allowedFraming]
      dsimp only [DynamicResponse.ofTemplate, Body.isStream]
      cases head.status.allowsBody <;> rfl
    | _ => exact bind_pure_comp _ (head.framingFor _)

/-- A template is compiled from the head that its dynamic response is sent with. -/
theorem compile_eq_map (dated : t.dated = true) (typed : t.IsTyped) :
    t.compile = (DynamicResponse.ofTemplate t).renderedHead.map t.renderAround := by
  rw [compile_eq dated, renderedHead_eq typed]
  cases t.head.check with
  | error e => rfl
  | ok _ => cases t.allowedFraming <;> rfl

/-- Rendered around the date, a response goes out as it does when its body is not part of the
span behind the date. -/
theorem respond_renderAround {spans : DateSplit}
    (rendered : (DynamicResponse.ofTemplate t).renderedHead = .ok spans) (date : Octets)
    (s : Socket) :
    (t.renderAround spans).respond date s =
      (DynamicResponse.ofTemplate t).write date false s := by
  have gathered : ∀ body : Octets,
      s.writeGathered [spans.front, date, spans.back ++ body] =
        s.writeGathered [spans.front, date, spans.back, body] :=
    fun body => Socket.writeGathered_congr (by simp) s
  obtain ⟨head, body, isDated⟩ := t
  cases body with
  | chunked chunks =>
    rw [DynamicResponse.write_of_stream rendered rfl]
    exact RenderedResponse.respond_chunked spans true chunks date s
  | empty =>
    rw [DynamicResponse.write_of_sized rendered rfl]
    exact congrArg RenderedResponse.sent (gathered _)
  | bytes content =>
    rw [DynamicResponse.write_of_sized rendered rfl]
    exact congrArg RenderedResponse.sent (gathered _)
  | text content =>
    rw [DynamicResponse.write_of_sized rendered rfl]
    exact congrArg RenderedResponse.sent (gathered _)

end RouteTemplate

/-! ## Responses that are refused -/

theorem RenderedResponse.sent_ne_head (result : Except SocketError Unit × Socket) (e : HeadError) :
    (sent result).1 ≠ .error (.head e) := by
  unfold sent
  rcases result with ⟨_ | _, next⟩ <;> exact nofun

theorem thenWrite_ne_head {result : Except ResponseError Unit × Socket}
    {next : Socket → Except ResponseError Unit × Socket} {e : HeadError}
    (first : result.1 ≠ .error (.head e)) (second : ∀ s, (next s).1 ≠ .error (.head e)) :
    (thenWrite result next).1 ≠ .error (.head e) := by
  rcases result with ⟨_ | _, s⟩
  · exact first
  · exact second s

theorem Chunks.write_ne_head (chunks : Chunks) (s : Socket) (e : HeadError) :
    (chunks.write s).1 ≠ .error (.head e) := by
  induction chunks generalizing s with
  | nil =>
    rw [write_nil]
    exact RenderedResponse.sent_ne_head _ e
  | cons item rest ih =>
    cases item with
    | error message => exact nofun
    | ok chunk =>
      by_cases empty : chunk.isEmpty = true
      · rw [write, if_pos empty]
        exact ih s
      · rw [write_of_full empty]
        exact thenWrite_ne_head (RenderedResponse.sent_ne_head _ e) ih

namespace DynamicResponse

variable {r : DynamicResponse} {spans : DateSplit} {s : Socket}

/-- A head that can be rendered is not refused later on. -/
theorem write_ne_head (rendered : r.renderedHead = .ok spans) (date : Octets) (omitBody : Bool)
    (s : Socket) (e : HeadError) : (r.write date omitBody s).1 ≠ .error (.head e) := by
  cases sized : r.body.isStream with
  | false =>
    rw [write_of_sized rendered sized]
    exact RenderedResponse.sent_ne_head _ e
  | true =>
    obtain ⟨chunks, streams⟩ := exists_stream sized
    rw [write_of_stream rendered streams]
    refine thenWrite_ne_head (RenderedResponse.sent_ne_head _ e) ?_
    intro s
    cases omitBody with
    | true => exact nofun
    | false => exact chunks.write_ne_head s e

/-- A write is refused with the error of the head, and changes nothing. -/
theorem write_eq_head_iff (date : Octets) (omitBody : Bool) (s : Socket) (e : HeadError) :
    r.write date omitBody s = (.error (.head e), s) ↔ r.renderedHead = .error e := by
  cases rendered : r.renderedHead with
  | ok spans =>
    refine iff_of_false ?_ nofun
    intro refused
    exact write_ne_head rendered date omitBody s e (congrArg Prod.fst refused)
  | error e' =>
    rw [write_of_refused rendered]
    simp

theorem front_ne_nil (rendered : r.renderedHead = .ok spans) : spans.front ≠ [] := by
  obtain ⟨_, framing, _, rfl⟩ := exists_of_renderedHead rendered
  exact List.append_ne_nil_of_right_ne_nil _ (by decide)

/-- On a connection that takes everything, a head that can be rendered goes out. -/
theorem received_write_of_generous (rendered : r.renderedHead = .ok spans)
    (generous : s.peer.policy = WritePolicy.generous) (date : Octets) (omitBody : Bool) :
    (r.write date omitBody s).2.peer.received ≠ s.peer.received := by
  have front := front_ne_nil rendered
  have willing : s.peer.policy.Willing := generous ▸ WritePolicy.willing_generous
  cases sized : r.body.isStream with
  | false =>
    obtain ⟨s', eq, carries⟩ := Socket.exists_writeGathered_of_willing willing
      [spans.front, date, spans.back, r.bodyWire omitBody]
    rw [write_of_sized rendered sized, RenderedResponse.sent, eq, carries.received]
    simp [front]
  | true =>
    obtain ⟨chunks, streams⟩ := exists_stream sized
    obtain ⟨s', eq, carries⟩ := Socket.exists_writeGathered_of_willing willing
      [spans.front, date, spans.back]
    have done : (s.writeGathered [spans.front, date, spans.back]).1 = .ok () := by rw [eq]
    rw [write_of_stream rendered streams, thenWrite_sent done, eq]
    cases omitBody with
    | true =>
      rw [if_pos rfl, carries.received]
      simp [front]
    | false =>
      obtain ⟨sent, delivers⟩ := chunks.exists_delivers_write s'
      rw [if_neg Bool.false_ne_true, delivers.received, carries.received]
      simp [front]

end DynamicResponse

/-- A dated template puts the same octets on a connection, and ends in the same way, whether it is
compiled or a dynamic response starts out as it.  Compiling it fails exactly if the response is
refused before anything is written, and with the same error. -/
theorem RouteTemplate.respond_eq_write {t : RouteTemplate} (dated : t.dated = true)
    (typed : t.IsTyped) (date : Octets) (s : Socket) :
    (∀ response, t.compile = .ok response →
        response.respond date s = (DynamicResponse.ofTemplate t).write date false s) ∧
      (∀ e, t.compile = .error e ↔
        (DynamicResponse.ofTemplate t).write date false s = (.error (.head e), s)) ∧
      (s.peer.policy = WritePolicy.generous →
        ((∃ e, t.compile = .error e) ↔
          ∃ e, ((DynamicResponse.ofTemplate t).write date false s).1 = .error e ∧
            ((DynamicResponse.ofTemplate t).write date false s).2.peer.received =
              s.peer.received)) := by
  have made := t.compile_eq_map dated typed
  refine ⟨?_, ?_, ?_⟩
  · intro response compiled
    rw [made] at compiled
    obtain ⟨spans, rendered, rfl⟩ := exists_of_map_eq_ok compiled
    exact t.respond_renderAround rendered date s
  · intro e
    rw [DynamicResponse.write_eq_head_iff, made]
    cases (DynamicResponse.ofTemplate t).renderedHead with
    | error e' => rw [Except.map, Except.error.injEq, Except.error.injEq]
    | ok spans => exact iff_of_false nofun nofun
  · intro generous
    rw [made]
    cases rendered : (DynamicResponse.ofTemplate t).renderedHead with
    | error e =>
      rw [(DynamicResponse.write_eq_head_iff date false s e).mpr rendered]
      exact iff_of_true ⟨e, rfl⟩ ⟨.head e, rfl, rfl⟩
    | ok spans =>
      refine iff_of_false (fun ⟨e, failed⟩ => nomatch failed) ?_
      rintro ⟨e, _, unchanged⟩
      exact DynamicResponse.received_write_of_generous rendered generous date false unchanged

/-- A dated stream with a header of its own, under a status. -/
def streamed (status : Status) : RouteTemplate where
  head := { status, headers := [(.custom "x-trace", "a: b")] }
  body := .chunked [.ok (Octets.ofText "hi"), .ok [], .ok (Octets.ofText "there")]
  dated := true

/-- The stream is sent alike in both ways, and refused in both under a status that has no body. -/
theorem respond_eq_write_streamed :
    (∃ response, (streamed ⟨200⟩).compile = .ok response ∧
      response.respond tracedDate.wire (.new {}) =
        (DynamicResponse.ofTemplate (streamed ⟨200⟩)).write tracedDate.wire false (.new {})) ∧
      (streamed ⟨204⟩).compile = .error (.bodyNotAllowed 204) ∧
        (DynamicResponse.ofTemplate (streamed ⟨204⟩)).write tracedDate.wire false (.new {}) =
          (.error (.head (.bodyNotAllowed 204)), .new {}) := by
  have agree := fun status => RouteTemplate.respond_eq_write (t := streamed status) rfl
    (.inr (.inr ⟨_, rfl⟩)) tracedDate.wire (.new {})
  obtain ⟨response, compiled⟩ : ∃ response, (streamed ⟨200⟩).compile = .ok response := ⟨_, rfl⟩
  exact ⟨⟨response, compiled, (agree ⟨200⟩).1 response compiled⟩, rfl,
    ((agree ⟨204⟩).2.1 (.bodyNotAllowed 204)).mp rfl⟩

end Signpost
