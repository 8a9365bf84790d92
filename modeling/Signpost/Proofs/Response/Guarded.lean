import Signpost.Proofs.Response.Decoded

/-!
# Lines that no header adds

Some lines of a head are written by the response of its own accord: how the
body is framed, the date, the content type and the cookies.  The check of a
head refuses the standard names of these lines, so no standard name that it
lets through is one of theirs (`ResponseHead.harmless_of_check`).  Of a custom
name it looks at the value only.  Where no custom name spells one of those
lines either, a client finds in every response that is written the lines that
the response has chosen, and no others (`ResponseHead.guards_of_check`); where
one does, its line goes out beside them (`ResponseHead.check_smuggledHead`).
-/

namespace Signpost

open Octets (crlf headEnd fieldLine isField)

namespace ResponseHead

variable {h : ResponseHead} {date? : Option Octets}

theorem harmless_of_check (checked : h.check = .ok ()) :
    ∀ header ∈ h.headers, header.1.isCustom = false → header.1.Harmless := by
  intro header mem known
  have allowed := ((parts_of_check checked).1 header mem).1
  rcases header with ⟨name, value⟩
  cases name with
  | custom name => cases known
  | standard own => exact (HeaderName.read_standard own).harmless allowed

/-- Octets that a client reads as the lines of a head and a body.  Of the lines that a response
writes of its own accord there are those that it has chosen, and no others. -/
structure Guards (h : ResponseHead) (date? : Option Octets) (framing : Framing) (bytes : Octets) :
    Prop where
  decodes : ∃ body, bytes.Decodes (h.headLines date? framing) body
  own : ∀ known ∈ StandardHeader.guarded,
    (h.headLines date? framing).filter (isField known.text) = h.ownLines date? framing known

theorem guards_joined (checked : h.check = .ok ())
    (harmless : ∀ header ∈ h.headers, header.1.Harmless)
    (date : ∀ date ∈ date?, Octets.Unbroken date) (framing : Framing) (body : Octets) :
    h.Guards date? framing (joined crlf (h.headLines date? framing) ++ headEnd ++ body) := by
  have unbroken : ∀ line ∈ h.headLines date? framing, line.Unbroken :=
    unbroken_headLines checked (fun header mem => (harmless header mem).token) date
  refine ⟨⟨body, ?_⟩, fun known guarded => filter_headLines harmless guarded⟩
  exact Octets.decodes_joined (List.cons_ne_nil _ _) unbroken (h.full_headLines date? framing) body

end ResponseHead

/-! ## What is written -/

namespace RouteTemplate

/-- The framing that a template is sent with. -/
def framing (t : RouteTemplate) : Framing :=
  match t.body with
  | .chunked _ => .chunked
  | body => t.head.sizedFraming body.octets.length

theorem wire_of_compile {t : RouteTemplate} {response : RenderedResponse}
    (compiled : t.compile = .ok response) (date : Octets) :
    ∃ body, response.wire date =
      joined crlf (t.head.headLines (if t.dated then some date else none) t.framing) ++ headEnd ++
        body := by
  cases content : t.body with
  | chunked chunks =>
    rw [compile, content] at compiled
    obtain ⟨_, _, compiled⟩ := exists_of_bind_eq_ok compiled
    dsimp only at compiled
    split at compiled
    · cases compiled
      refine ⟨chunks.wire, ?_⟩
      rw [framing, content, RenderedResponse.wire, RenderedResponse.chunkWire]
      congr 1
      cases dated : t.dated with
      | false =>
        rw [if_neg (by decide), ← ResponseHead.render_undated]
        simp [RenderedResponse.spans, ResponseHead.render]
      | true =>
        rw [if_pos rfl, ← ResponseHead.render_dated]
        simp [RenderedResponse.spans]
    · cases compiled
  | _ =>
    have sized : t.body.length?.isSome = true := by
      rw [content]
      rfl
    obtain ⟨_, rfl⟩ := exists_of_compile sized compiled
    refine ⟨t.body.octets, ?_⟩
    rw [wire_renderSized, framing, content]

end RouteTemplate

namespace DynamicResponse

/-- The framing that a response is sent with. -/
def chosenFraming (r : DynamicResponse) : Framing :=
  if r.body.isStream then .chunked else r.typedHead.sizedFraming r.body.octets.length

theorem exists_of_wire? {r : DynamicResponse} {date bytes : Octets} {omitBody : Bool}
    (wire : r.wire? date omitBody = some bytes) :
    r.typedHead.check = .ok () ∧ bytes =
      joined crlf (r.typedHead.headLines (some date) r.chosenFraming) ++ headEnd ++
        r.bodyWire omitBody := by
  rw [wire?] at wire
  split at wire
  · cases wire
  · next spans rendered =>
    obtain ⟨checked, framing, framed, rfl⟩ := exists_of_renderedHead rendered
    rw [ResponseHead.render_dated, Option.some_inj] at wire
    have chosen : framing = r.chosenFraming := by
      rw [DynamicResponse.framing] at framed
      rw [chosenFraming]
      split at framed
      · next streams =>
        rw [if_pos streams]
        exact (Except.ok.inj framed).symm
      · next sized =>
        rw [if_neg sized]
        exact ResponseHead.eq_of_framingFor framed
    rw [← chosen]
    exact ⟨checked, wire.symm⟩

end DynamicResponse

namespace ResponseHead

variable {h : ResponseHead}

/-- If a head passes its check, no standard name among its headers is one that responses write of
their own accord.  If the custom names are none of them either, and tokens, then every response
with this head, fixed or filled in, goes out with the lines that it has chosen itself, and no
others of their names. -/
theorem guards_of_check (checked : h.check = .ok ()) :
    (∀ header ∈ h.headers, header.1.isCustom = false → header.1.Harmless) ∧
      ((∀ header ∈ h.headers, header.1.isCustom = true → header.1.Harmless) →
        (∀ header ∈ h.headers, header.1.Harmless) ∧
        (∀ (body : TemplateBody) (dated : Bool) (response : RenderedResponse) (date : Octets),
          RouteTemplate.compile ⟨h, body, dated⟩ = .ok response → (dated → date.Unbroken) →
          h.Guards (if dated then some date else none) (RouteTemplate.framing ⟨h, body, dated⟩)
              (response.wire date) ∧
            ∀ s, ∃ sent, Delivers (response.wire date) s sent (response.respond date s)) ∧
        ∀ (body : Body) (parameters : List String) (date : Octets) (omitBody : Bool),
          date.Unbroken →
          (∀ bytes, DynamicResponse.wire? ⟨h, body, parameters⟩ date omitBody = some bytes →
            (DynamicResponse.typedHead ⟨h, body, parameters⟩).Guards (some date)
              (DynamicResponse.chosenFraming ⟨h, body, parameters⟩) bytes) ∧
          ∀ s, Attempts (DynamicResponse.wire? ⟨h, body, parameters⟩ date omitBody) s
            (DynamicResponse.write ⟨h, body, parameters⟩ date omitBody s)) := by
  refine ⟨harmless_of_check checked, ?_⟩
  intro custom
  have harmless : ∀ header ∈ h.headers, header.1.Harmless := by
    intro header mem
    cases kind : header.1.isCustom with
    | false => exact harmless_of_check checked header mem kind
    | true => exact custom header mem kind
  refine ⟨harmless, ?_, ?_⟩
  · intro body dated response date compiled unbroken
    refine ⟨?_, response.exists_delivers_respond date⟩
    obtain ⟨rest, wire⟩ := RouteTemplate.wire_of_compile compiled date
    rw [wire]
    refine guards_joined checked harmless ?_ _ rest
    intro date' there
    split at there
    · next isDated =>
      cases there
      exact unbroken isDated
    · cases there
  · intro body parameters date omitBody unbroken
    refine ⟨?_, DynamicResponse.attempts_write _ date omitBody⟩
    intro bytes wire
    obtain ⟨typed, rfl⟩ := DynamicResponse.exists_of_wire? wire
    refine guards_joined typed harmless ?_ _ _
    intro date' there
    cases there
    exact unbroken

theorem guards_of_check_traced :
    tracedResponse.head.check = .ok () ∧
      (∀ header ∈ tracedResponse.head.headers, header.1.isCustom = true → header.1.Harmless) ∧
      ∃ bytes, tracedResponse.wire? tracedDate.wire false = some bytes ∧
        tracedResponse.typedHead.Guards (some tracedDate.wire) (.length 2) bytes := by
  have checked : tracedResponse.head.check = .ok () := rfl
  have custom : ∀ header ∈ tracedResponse.head.headers,
      header.1.isCustom = true → header.1.Harmless := by
    rw [tracedResponse, List.forall_mem_singleton]
    exact fun _ => ⟨by decide, by decide⟩
  obtain ⟨bytes, wire⟩ : ∃ bytes, tracedResponse.wire? tracedDate.wire false = some bytes :=
    ⟨_, rfl⟩
  obtain ⟨_, guards⟩ := guards_of_check checked
  obtain ⟨_, _, written⟩ := guards custom
  obtain ⟨read, _⟩ := written tracedResponse.body tracedResponse.parameters tracedDate.wire false
    (Octets.unbroken_wire tracedDate)
  exact ⟨checked, custom, bytes, wire, read bytes wire⟩

/-- A head whose only header is a length, under a custom name. -/
def smuggledHead : ResponseHead where
  headers := [(.custom "content-length", "3")]

/-- The head passes its check, and the length goes out before that of the body. -/
theorem check_smuggledHead :
    smuggledHead.check = .ok () ∧
      (∃ header ∈ smuggledHead.headers,
        (Octets.ofText header.1.text).eqFold (Octets.ofText "content-length")) ∧
      ∃ response, RouteTemplate.compile ⟨smuggledHead, .text "hello", false⟩ = .ok response ∧
        ∀ date, response.wire date = Octets.ofText
          "HTTP/1.1 200\r\ncontent-length: 3\r\ncontent-length: 5\r\n\r\nhello" := by
  refine ⟨rfl, ⟨_, List.mem_singleton_self _, by decide⟩, ⟨_, rfl, fun _ => ?_⟩⟩
  rfl

end ResponseHead

end Signpost
