import Signpost.Proofs.Http.Date
import Signpost.Proofs.Response.HeadLines
import Signpost.Proofs.Response.Wire

/-!
# Responses as a client reads them

A client cuts a response at the first blank line, cuts what stands before it into
lines, and takes the octets behind it for the body.  Of every response of known
length it finds the lines that were declared, the length of the body in the one
line that may tell it, and the body (`ResponseHead.Sized`).  The date is put in as
it is given: the date of a moment is read back, and octets with a blank line among
them end the head where they stand (`not_sized_brokenDate`).
-/

namespace Signpost

open Octets (crlf headEnd fieldLine isField)

/-- The octets hold these lines before their first blank line, and this body behind it. -/
def Octets.Decodes (bytes : Octets) (lines : List Octets) (body : Octets) : Prop :=
  ∃ n, bytes.headLength? = some n ∧ Octets.lines (bytes.take (n - headEnd.length)) = lines ∧
    bytes.drop n = body

theorem Octets.decodes_joined {parts : List Octets} (some_line : parts ≠ [])
    (unbroken : ∀ line ∈ parts, Unbroken line) (full : [] ∉ parts) (body : Octets) :
    Decodes (joined crlf parts ++ headEnd ++ body) parts body := by
  refine ⟨_, headLength?_joined some_line unbroken full body, ?_, ?_⟩
  · rw [Nat.add_sub_cancel, List.append_assoc, List.take_left]
    exact lines_joined some_line unbroken
  · rw [← List.length_append, List.drop_left]

namespace ResponseHead

/-- How a body of known length is framed under a status. -/
def sizedFraming (h : ResponseHead) (length : Nat) : Framing :=
  if h.status.allowsBody then .length length else .bare

theorem eq_of_framingFor {h : ResponseHead} {length : Nat} {framing : Framing}
    (found : h.framingFor length = .ok framing) : framing = h.sizedFraming length := by
  rw [framingFor] at found
  rw [sizedFraming]
  split at found
  · next allowed =>
    rw [if_pos allowed]
    exact (Except.ok.inj found).symm
  · next barred =>
    rw [if_neg barred]
    split at found
    · exact (Except.ok.inj found).symm
    · cases found

/-- A response of known length, as a client reads it: the declared lines, the length of the body in
a line of its own where the status allows a body, no other framing, and the body. -/
structure Sized (h : ResponseHead) (date? : Option Octets) (body bytes : Octets) : Prop where
  decodes : bytes.Decodes (h.headLines date? (h.sizedFraming body.length)) body
  length : (h.headLines date? (h.sizedFraming body.length)).filter (isField "content-length") =
    if h.status.allowsBody then
      [fieldLine "content-length" (Octets.ofText (Numeral.decimal body.length))]
    else []
  unchunked : ∀ line ∈ h.headLines date? (h.sizedFraming body.length),
    isField "transfer-encoding" line = false

variable {h : ResponseHead} {date? : Option Octets}

/-- A date that is read back as it was put in is without a line end. -/
theorem Sized.unbroken {body bytes : Octets} (sized : h.Sized date? body bytes) :
    ∀ date ∈ date?, Octets.Unbroken date := by
  intro date there
  obtain ⟨_, _, cut, _⟩ := sized.decodes
  have declared : fieldLine "date" date ∈ h.headLines date? (h.sizedFraming body.length) := by
    rw [Option.mem_def.mp there, headLines, ResponseHead.declared, Option.toList_some]
    exact List.mem_append_left _ (List.mem_cons_of_mem _ List.mem_cons_self)
  rw [← cut] at declared
  exact (Octets.unbroken_of_mem_lines declared).of_inside (List.suffix_append _ date).isInfix

theorem sized_joined (checked : h.check = .ok ()) (read : ∀ header ∈ h.headers, header.1.Read)
    (date : ∀ date ∈ date?, Octets.Unbroken date) (body : Octets) :
    h.Sized date? body
      (joined crlf (h.headLines date? (h.sizedFraming body.length)) ++ headEnd ++ body) := by
  have harmless := harmless_of_read checked read
  refine ⟨?_, ?_, ?_⟩
  · exact Octets.decodes_joined (List.cons_ne_nil _ _)
      (unbroken_headLines checked (fun header mem => (harmless header mem).token) date)
      (h.full_headLines date? _) body
  · have kept := @filter_headLines h date? (h.sizedFraming body.length) harmless .contentLength
      (by decide)
    refine kept.trans ?_
    rw [sizedFraming]
    split
    · rfl
    · rfl
  · have none := @filter_headLines h date? (h.sizedFraming body.length) harmless .transferEncoding
      (by decide)
    have framed : h.ownLines date? (h.sizedFraming body.length) .transferEncoding = [] := by
      rw [sizedFraming]
      split
      · rfl
      · rfl
    intro line mem
    have other := List.filter_eq_nil_iff.mp (none.trans framed) line mem
    exact Bool.eq_false_iff.mpr other

end ResponseHead

/-! ## Templates -/

namespace RouteTemplate

theorem wire_renderSized (t : RouteTemplate) (framing : Framing) (date : Octets) :
    (t.renderSized framing).wire date =
      joined crlf (t.head.headLines (if t.dated then some date else none) framing) ++ headEnd ++
        t.body.octets := by
  unfold renderSized
  dsimp only
  cases dated : t.dated with
  | false =>
    rw [if_neg (by decide), if_neg (by decide), ← ResponseHead.render_undated]
    split <;> simp [RenderedResponse.wire, RenderedResponse.spans, RenderedResponse.chunkWire]
  | true =>
    rw [if_pos rfl, if_pos rfl, ← ResponseHead.render_dated]
    split <;> simp [RenderedResponse.wire, RenderedResponse.spans, RenderedResponse.chunkWire]

theorem exists_of_compile {t : RouteTemplate} {response : RenderedResponse}
    (sized : t.body.length?.isSome) (compiled : t.compile = .ok response) :
    t.head.check = .ok () ∧
      response = t.renderSized (t.head.sizedFraming t.body.octets.length) := by
  rw [compile] at compiled
  obtain ⟨_, checked, compiled⟩ := exists_of_bind_eq_ok compiled
  refine ⟨checked, ?_⟩
  split at compiled
  · next streams =>
    rw [streams] at sized
    cases sized
  · obtain ⟨framing, found, compiled⟩ := exists_of_bind_eq_ok compiled
    rw [← ResponseHead.eq_of_framingFor found]
    exact (Except.ok.inj compiled).symm

theorem sized_of_compile {t : RouteTemplate} {response : RenderedResponse} {date : Octets}
    (sized : t.body.length?.isSome) (read : ∀ header ∈ t.head.headers, header.1.Read)
    (unbroken : t.dated → date.Unbroken) (compiled : t.compile = .ok response) :
    t.head.Sized (if t.dated then some date else none) t.body.octets (response.wire date) := by
  obtain ⟨checked, rfl⟩ := exists_of_compile sized compiled
  rw [wire_renderSized]
  refine ResponseHead.sized_joined checked read ?_ t.body.octets
  intro date' there
  split at there
  · next dated =>
    cases there
    exact unbroken dated
  · cases there

end RouteTemplate

/-! ## Dynamic responses -/

namespace DynamicResponse

/-- The head with the content type that its body is sent under. -/
def typedHead (r : DynamicResponse) : ResponseHead :=
  { r.head with contentType := r.head.contentType <|> r.body.defaultContentType? }

theorem parts_of_finalHead {r : DynamicResponse} {head : ResponseHead}
    (found : r.finalHead = .ok head) : head = r.typedHead ∧ r.typedHead.check = .ok () := by
  rw [finalHead] at found
  obtain ⟨_, checked, found⟩ := exists_of_bind_eq_ok found
  split at found
  · cases found
  · exact ⟨(Except.ok.inj found).symm, checked⟩

theorem exists_of_renderedHead {r : DynamicResponse} {spans : DateSplit}
    (rendered : r.renderedHead = .ok spans) :
    r.typedHead.check = .ok () ∧ ∃ framing, r.framing r.typedHead = .ok framing ∧
      spans = r.typedHead.render framing true := by
  rw [renderedHead] at rendered
  obtain ⟨head, found, rendered⟩ := exists_of_bind_eq_ok rendered
  obtain ⟨framing, framed, rendered⟩ := exists_of_bind_eq_ok rendered
  obtain ⟨rfl, checked⟩ := parts_of_finalHead found
  exact ⟨checked, framing, framed, (Except.ok.inj rendered).symm⟩

theorem eq_of_toBytes {r : DynamicResponse} {date bytes : Octets}
    (made : r.toBytes date = .ok bytes) :
    r.typedHead.check = .ok () ∧
      bytes = joined crlf (r.typedHead.headLines (some date)
        (r.typedHead.sizedFraming r.body.octets.length)) ++ headEnd ++ r.body.octets := by
  obtain ⟨head, final, made⟩ := exists_of_bind_eq_ok made
  obtain ⟨rfl, checked⟩ := parts_of_finalHead (eq_ok_of_mapError_eq_ok final)
  split at made
  · cases made
  · next body content =>
    obtain ⟨framing, framed, made⟩ := exists_of_bind_eq_ok made
    have own : body = r.body.octets := by
      cases kind : r.body <;> rw [kind] at content <;> cases content <;> rfl
    rw [ResponseHead.eq_of_framingFor (eq_ok_of_mapError_eq_ok framed), own] at made
    dsimp only at made
    rw [ResponseHead.render_dated] at made
    exact ⟨checked, (Except.ok.inj made).symm⟩

end DynamicResponse

/-- Every response of known length is read by a client as it was declared, whatever its headers,
cookies and body are, if the names of its headers were read.  A date can only be read back if no
line end is in it, and none is in the date of any moment. -/
theorem decodes_sized {h : ResponseHead} (read : ∀ header ∈ h.headers, header.1.Read) :
    (∀ (body : TemplateBody) (dated : Bool) (response : RenderedResponse),
        body.length?.isSome → RouteTemplate.compile ⟨h, body, dated⟩ = .ok response →
        ∀ date : Octets,
          h.Sized (if dated then some date else none) body.octets (response.wire date) ↔
            (dated → date.Unbroken)) ∧
      (∀ (body : Body) (parameters : List String) (date bytes : Octets),
        DynamicResponse.toBytes ⟨h, body, parameters⟩ date = .ok bytes →
        ((DynamicResponse.typedHead ⟨h, body, parameters⟩).Sized (some date) body.octets bytes ↔
          date.Unbroken)) ∧
      ∀ m : Moment, m.wire.length = dateLength ∧ m.wire.Unbroken := by
  refine ⟨?_, ?_, fun m => ⟨m.length_wire, Octets.unbroken_wire m⟩⟩
  · intro body dated response sized compiled date
    constructor
    · intro decoded isDated
      rw [if_pos isDated] at decoded
      exact decoded.unbroken date rfl
    · intro unbroken
      exact RouteTemplate.sized_of_compile (t := ⟨h, body, dated⟩) sized read unbroken compiled
  · intro body parameters date bytes made
    refine ⟨fun decoded => decoded.unbroken date rfl, fun unbroken => ?_⟩
    obtain ⟨checked, rfl⟩ := DynamicResponse.eq_of_toBytes made
    refine ResponseHead.sized_joined checked read ?_ body.octets
    intro date' there
    cases there
    exact unbroken

/-- A response with a header of its own, a cookie and a text. -/
def tracedResponse : DynamicResponse where
  head :=
    { headers := [(.custom "x-trace", "a: b")]
      cookies := [{ name := "id", value := "7", path := some "/", maxAge := some 60 }] }
  body := .text "hi"

def tracedDate : Moment := ⟨784111777, by decide⟩

/-- The name of its header was read. -/
theorem read_tracedResponse : ∀ header ∈ tracedResponse.head.headers, header.1.Read := by
  rw [tracedResponse, List.forall_mem_singleton]
  have lower : asciiLower "X-Trace" = "x-trace" := by
    rw [← String.toList_inj, asciiLower, String.toList_map]
    decide
  refine ⟨"X-Trace", ?_⟩
  rw [HeaderName.parse, HeaderName.ofText?, if_pos (by decide), lower]
  rfl

theorem decodes_sized_traced :
    ∃ bytes, tracedResponse.toBytes tracedDate.wire = .ok bytes ∧
      bytes.Decodes
        [Octets.ofText "HTTP/1.1 200", Octets.ofText "date: Sun, 06 Nov 1994 08:49:37 GMT",
          Octets.ofText "x-trace: a: b", Octets.ofText "set-cookie: id=7; Path=/; Max-Age=60",
          Octets.ofText "content-type: text/plain; charset=utf-8",
          Octets.ofText "content-length: 2"]
        (Octets.ofText "hi") := by
  obtain ⟨bytes, made⟩ : ∃ bytes, tracedResponse.toBytes tracedDate.wire = .ok bytes := ⟨_, rfl⟩
  obtain ⟨_, written, unbroken⟩ := decodes_sized read_tracedResponse
  exact ⟨bytes, made, ((written _ _ _ _ made).mpr (unbroken tracedDate).2).decodes⟩

/-- A text that is sent with the date. -/
def datedTemplate : RouteTemplate := { body := .text "hi", dated := true }

/-- As many octets as a date has, with a blank line among them. -/
def brokenDate : Octets := Octets.ofText "Sun, 06 Nov 1994\r\n\r\n49:37 GMT"

/-- Nothing looks at the octets of a date, and these end the head early. -/
theorem not_sized_brokenDate :
    brokenDate.length = dateLength ∧
      (∃ response, datedTemplate.compile = .ok response ∧
        (response.wire brokenDate).headLength? = some 40 ∧
        ¬datedTemplate.head.Sized (some brokenDate) datedTemplate.body.octets
          (response.wire brokenDate)) ∧
      (∀ header ∈ tracedResponse.head.headers, header.1.Read) ∧
      ∃ bytes, tracedResponse.toBytes brokenDate = .ok bytes ∧ bytes.headLength? = some 40 ∧
        ¬tracedResponse.typedHead.Sized (some brokenDate) tracedResponse.body.octets bytes := by
  have broken : ¬brokenDate.Unbroken := by
    rw [Octets.Unbroken, Decidable.not_not]
    exact ⟨brokenDate.take 16, brokenDate.drop 18, by decide +kernel⟩
  refine ⟨by decide +kernel, ⟨_, rfl, by decide +kernel, fun sized => ?_⟩, read_tracedResponse,
    ⟨_, rfl, by decide +kernel, fun sized => ?_⟩⟩
  · exact broken (sized.unbroken brokenDate rfl)
  · exact broken (sized.unbroken brokenDate rfl)

end Signpost
