import Signpost.Proofs.Response.Decoded

/-!
# Responses in memory

A dynamic response of known length is either put together in memory or written to a
connection, and each of the two completes, checks, frames and renders its head by
itself.  They come to the same: the response is refused for one reason (`refusal?`), or
it is one head (`sizedHead`) with the body behind it.  A connection that takes what it is
offered gets all of that, or the head alone if the body is to be left out
(`write_toBytes`).
-/

namespace Signpost

open Octets (crlf headEnd fieldLine)

/-- The framing is refused only for a body that the status leaves no room for. -/
theorem ResponseHead.framingFor_eq (h : ResponseHead) (body : Octets) :
    h.framingFor body.length =
      if h.status.allowsBody ∨ body = [] then .ok (h.sizedFraming body.length)
      else .error (.bodyNotAllowed h.status.code) := by
  rw [framingFor, sizedFraming]
  cases h.status.allowsBody with
  | true => rfl
  | false => cases body <;> rfl

namespace DynamicResponse

/-- Why a response of known length is refused, if it is.  The body is looked at only under a head
that is in order. -/
def refusal? (r : DynamicResponse) : Option HeadError :=
  match r.typedHead.check with
  | .error e => some e
  | .ok () =>
    if r.typedHead.status.allowsBody ∨ r.body.octets = [] then none
    else some (.bodyNotAllowed r.typedHead.status.code)

/-- The lines of the head of a response of known length. -/
def sizedLines (r : DynamicResponse) (date : Octets) : List Octets :=
  r.typedHead.headLines (some date) (r.typedHead.sizedFraming r.body.octets.length)

/-- The head of a response of known length, with the blank line that ends it. -/
def sizedHead (r : DynamicResponse) (date : Octets) : Octets :=
  joined crlf (r.sizedLines date) ++ headEnd

variable {r : DynamicResponse}

/-! ## One refusal and one head -/

theorem finalHead_of_sized (sized : r.body.isStream = false) :
    r.finalHead = r.typedHead.check.map fun _ => r.typedHead := by
  rw [finalHead, ← typedHead, sized]
  cases r.typedHead.check <;> rfl

theorem renderedHead_of_sized (sized : r.body.isStream = false) :
    r.renderedHead =
      match r.refusal? with
      | some e => .error e
      | none =>
        .ok (r.typedHead.render (r.typedHead.sizedFraming r.body.octets.length) true) := by
  rw [renderedHead, finalHead_of_sized sized, refusal?]
  cases r.typedHead.check with
  | error e => rfl
  | ok _ =>
    dsimp only [Except.map, bind, Except.bind]
    rw [framing, sized, if_neg Bool.false_ne_true, ResponseHead.framingFor_eq]
    by_cases room : r.typedHead.status.allowsBody ∨ r.body.octets = []
    · rw [if_pos room, if_pos room]
      rfl
    · rw [if_neg room, if_neg room]

theorem toBytes_of_sized (sized : r.body.isStream = false) (date : Octets) :
    r.toBytes date =
      match r.refusal? with
      | some e => .error (.head e)
      | none => .ok (r.sizedHead date ++ r.body.octets) := by
  have known : r.body.sized? = some r.body.octets := by
    cases body : r.body with
    | stream chunks =>
      rw [body] at sized
      cases sized
    | _ => rfl
  rw [toBytes, finalHead_of_sized sized, known, refusal?]
  cases r.typedHead.check with
  | error e => rfl
  | ok _ =>
    dsimp only [Except.map, Except.mapError, bind, Except.bind]
    rw [ResponseHead.framingFor_eq]
    by_cases room : r.typedHead.status.allowsBody ∨ r.body.octets = []
    · rw [if_pos room, if_pos room]
      exact congrArg (fun head => Except.ok (head ++ r.body.octets))
        (ResponseHead.render_dated r.typedHead _ date)
    · rw [if_neg room, if_neg room]

theorem wire?_of_sized (sized : r.body.isStream = false) (date : Octets) (omitBody : Bool) :
    r.wire? date omitBody =
      match r.refusal? with
      | some _ => none
      | none => some (r.sizedHead date ++ r.bodyWire omitBody) := by
  rw [wire?, renderedHead_of_sized sized]
  cases r.refusal? with
  | some e => rfl
  | none =>
    dsimp only
    rw [ResponseHead.render_dated]
    rfl

theorem write_of_refusal {e : HeadError} (sized : r.body.isStream = false)
    (refused : r.refusal? = some e) (date : Octets) (omitBody : Bool) (s : Socket) :
    r.write date omitBody s = (.error (.head e), s) := by
  refine write_of_refused ?_ date omitBody s
  rw [renderedHead_of_sized sized, refused]

/-! ## What the head says -/

/-- The head tells the length of the body, unless its status has no body and there is none. -/
theorem announces_of_accepted (accepted : r.refusal? = none) (date : Octets) :
    if r.typedHead.status.allowsBody then
      fieldLine "content-length" (Octets.ofText (Numeral.decimal r.body.octets.length)) ∈
        r.sizedLines date
    else r.body.octets = [] := by
  unfold refusal? at accepted
  split at accepted
  · cases accepted
  · split at accepted
    · next room =>
      split
      · next allowed =>
        rw [sizedLines, ResponseHead.headLines, ResponseHead.sizedFraming, if_pos allowed]
        exact List.mem_append_right _ (List.mem_singleton_self _)
      · next barred => exact room.resolve_left barred
    · cases accepted

theorem check_of_accepted (accepted : r.refusal? = none) : r.typedHead.check = .ok () := by
  unfold refusal? at accepted
  split at accepted
  · cases accepted
  · assumption

/-- The blank line at the end of the head is the first one. -/
theorem headLength?_of_accepted (accepted : r.refusal? = none)
    (read : ∀ header ∈ r.head.headers, header.1.Read) {date : Octets} (unbroken : date.Unbroken) :
    (r.sizedHead date ++ r.body.octets).headLength? = some (r.sizedHead date).length := by
  have checked := check_of_accepted accepted
  have harmless := ResponseHead.harmless_of_read checked read
  have lines : ∀ line ∈ r.sizedLines date, line.Unbroken := by
    refine ResponseHead.unbroken_headLines checked
      (fun header mem => (harmless header mem).token) ?_
    intro date' there
    cases there
    exact unbroken
  rw [sizedHead, List.length_append]
  exact Octets.headLength?_joined (List.cons_ne_nil _ _) lines
    (ResponseHead.full_headLines r.typedHead (some date) _) r.body.octets

/-! ## In memory and on a connection -/

/-- A response of known length comes to the same in memory and on a connection.  Its octets are a
head and the body, and the head tells the length of the body where its status allows one.  Written
to a connection that takes what it is offered they arrive whole, and without the body exactly the
head arrives, up to its blank line.  That is the first blank line, if the header names were read
and no line end is in the date.  In memory the response is refused exactly if it is on such a
connection, with the same error, and no connection is then written to. -/
theorem write_toBytes (sized : r.body.isStream = false) (date : Octets) :
    (∀ bytes, r.toBytes date = .ok bytes →
      bytes = r.sizedHead date ++ r.body.octets ∧
      (if r.typedHead.status.allowsBody then
        fieldLine "content-length" (Octets.ofText (Numeral.decimal r.body.octets.length)) ∈
          r.sizedLines date
      else r.body.octets = []) ∧
      ((∀ header ∈ r.head.headers, header.1.Read) → date.Unbroken →
        bytes.headLength? = some (r.sizedHead date).length) ∧
      ∀ s : Socket, s.peer.policy.Willing →
        (∃ s', r.write date false s = (.ok (), s') ∧ s.Carries bytes s') ∧
        ∃ s', r.write date true s = (.ok (), s') ∧ s.Carries (r.sizedHead date) s') ∧
    ∀ e,
      (r.toBytes date = .error e ↔ ∃ cause, r.refusal? = some cause ∧ e = .head cause) ∧
      (r.toBytes date = .error e → ∀ omitBody s, r.write date omitBody s = (.error e, s)) ∧
      ∀ (omitBody : Bool) (s : Socket), s.peer.policy.Willing →
        ((r.write date omitBody s).1 = .error e ↔ r.toBytes date = .error e) := by
  rw [toBytes_of_sized sized date]
  cases refusal : r.refusal? with
  | some cause =>
    have refused := write_of_refusal sized refusal date
    refine ⟨fun bytes made => ?_, fun e => ⟨?_, ?_, ?_⟩⟩
    · cases made
    · dsimp only
      rw [Except.error.injEq]
      constructor
      · rintro rfl
        exact ⟨cause, rfl, rfl⟩
      · rintro ⟨cause', same, rfl⟩
        rw [Option.some_inj.mp same]
    · intro failed
      cases failed
      exact refused
    · intro omitBody s _
      rw [refused]
      dsimp only
      rw [Except.error.injEq, Except.error.injEq]
  | none =>
    have written : ∀ (omitBody : Bool) {s : Socket}, s.peer.policy.Willing →
        ∃ s', r.write date omitBody s = (.ok (), s') ∧
          s.Carries (r.sizedHead date ++ r.bodyWire omitBody) s' := by
      intro omitBody s willing
      refine exists_write_of_willing sized ?_ willing
      rw [wire?_of_sized sized, refusal]
    refine ⟨fun bytes made => ?_, fun e => ⟨?_, fun failed => ?_, ?_⟩⟩
    · cases made
      refine ⟨rfl, announces_of_accepted refusal date,
        fun read => headLength?_of_accepted refusal read, ?_⟩
      intro s willing
      have whole := written false willing
      have head := written true willing
      rw [bodyWire_of_sized sized] at whole
      rw [bodyWire, if_pos rfl, List.append_nil] at head
      exact ⟨whole, head⟩
    · simp only [reduceCtorEq, false_and, exists_false]
    · cases failed
    · intro omitBody s willing
      obtain ⟨s', done, _⟩ := written omitBody willing
      rw [done]
      simp only [reduceCtorEq]

/-- A text goes out as it is in memory, behind a head that tells its length also if it stands
alone; under a status that has no body it is refused in both ways. -/
theorem write_toBytes_traced :
    (∃ bytes, tracedResponse.toBytes tracedDate.wire = .ok bytes ∧
      (∃ s', tracedResponse.write tracedDate.wire false (.new {}) = (.ok (), s') ∧
        (Socket.new {}).Carries bytes s') ∧
      fieldLine "content-length" (Octets.ofText "2") ∈
        tracedResponse.sizedLines tracedDate.wire) ∧
      (tracedResponse.withStatus ⟨304⟩).toBytes tracedDate.wire =
        .error (.head (.bodyNotAllowed 304)) ∧
      (tracedResponse.withStatus ⟨304⟩).write tracedDate.wire true (.new {}) =
        (.error (.head (.bodyNotAllowed 304)), .new {}) := by
  obtain ⟨bytes, made⟩ : ∃ bytes, tracedResponse.toBytes tracedDate.wire = .ok bytes := ⟨_, rfl⟩
  obtain ⟨_, announces, _, written⟩ := (write_toBytes (r := tracedResponse) rfl _).1 bytes made
  have refused : (tracedResponse.withStatus ⟨304⟩).toBytes tracedDate.wire =
      .error (.head (.bodyNotAllowed 304)) := rfl
  obtain ⟨_, unwritten, _⟩ := (write_toBytes (r := tracedResponse.withStatus ⟨304⟩) rfl _).2 _
  exact ⟨⟨bytes, made, (written (.new {}) WritePolicy.willing_generous).1, announces⟩, refused,
    unwritten refused true (.new {})⟩

end DynamicResponse

end Signpost
