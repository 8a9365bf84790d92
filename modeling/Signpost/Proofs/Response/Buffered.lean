import Signpost.Proofs.Response.Decoded

/-!
# Responses put into a buffer

A rendered response can be put into a buffer that other responses stand in as well, so
the place that its count promises, the octets that are stored and the octets that are
sent have to agree.  Putting parts one by one is putting them as a whole
(`Cursor.putAll?_cons`), which overwrites as many octets and no others
(`Cursor.exists_put?`).  For every kind of response these are as many as it counts and
the ones that it sends (`RenderedResponse.writeInto_respond`).
-/

namespace Signpost

/-- The buffer `after` is `before` with these octets stored from the offset on, and otherwise the
same. -/
structure Overwritten (before : Octets) (offset : Nat) (stored after : Octets) : Prop where
  length : after.length = before.length
  inside : ∀ i, i < stored.length → after[offset + i]? = stored[i]?
  outside : ∀ i, i < offset ∨ offset + stored.length ≤ i → after[i]? = before[i]?

namespace Cursor

variable {buffer bytes : Octets} {offset : Nat}

theorem put?_of_room (room : offset + bytes.length ≤ buffer.length) :
    put? ⟨buffer, offset⟩ bytes =
      some ⟨buffer.take offset ++ bytes ++ buffer.drop (offset + bytes.length),
        offset + bytes.length⟩ :=
  if_pos room

theorem put?_eq_none_iff :
    put? ⟨buffer, offset⟩ bytes = none ↔ buffer.length < offset + bytes.length := by
  rw [put?]
  split
  · next room => exact iff_of_false (Option.some_ne_none _) (Nat.not_lt.mpr room)
  · next full => exact iff_of_true rfl (Nat.not_le.mp full)

/-- Where there is room, putting octets overwrites as many, and no others. -/
theorem exists_put? (room : offset + bytes.length ≤ buffer.length) :
    ∃ after, put? ⟨buffer, offset⟩ bytes = some ⟨after, offset + bytes.length⟩ ∧
      Overwritten buffer offset bytes after := by
  have before : (buffer.take offset).length = offset := List.length_take_of_le (by omega)
  refine ⟨_, put?_of_room room, ?_, ?_, ?_⟩
  · simp only [List.length_append, List.length_drop, before]
    omega
  · intro i inside
    rw [List.append_assoc, List.getElem?_append_right (by omega), before, Nat.add_sub_cancel_left,
      List.getElem?_append_left inside]
  · rintro i (left | right)
    · rw [List.append_assoc, List.getElem?_append_left (by omega), List.getElem?_take_of_lt left]
    · have stored : (buffer.take offset ++ bytes).length = offset + bytes.length := by
        rw [List.length_append, before]
      rw [List.getElem?_append_right (by omega), stored, List.getElem?_drop]
      congr 1
      omega

/-- Octets can be put in two parts. -/
theorem put?_append (c : Cursor) (first second : Octets) :
    c.put? (first ++ second) = (c.put? first).bind (·.put? second) := by
  obtain ⟨buffer, offset⟩ := c
  by_cases room : offset + first.length ≤ buffer.length
  · have stored : (buffer.take offset ++ first).length = offset + first.length := by
      rw [List.length_append, List.length_take_of_le (by omega)]
    have same : (buffer.take offset ++ first ++ buffer.drop (offset + first.length)).length =
        buffer.length := by
      rw [List.length_append, stored, List.length_drop]
      omega
    -- the buffer keeps its length, so what has room for both parts has room for the second
    rw [put?_of_room room, Option.bind_some]
    by_cases more : offset + (first ++ second).length ≤ buffer.length
    · have kept := @List.take_left' _ _ (buffer.drop (offset + first.length)) _ stored
      have behind : (buffer.take offset ++ first ++ buffer.drop (offset + first.length)).drop
          (offset + first.length + second.length) =
            buffer.drop (offset + first.length + second.length) := by
        rw [← stored, List.drop_length_add_append, stored, List.drop_drop]
      have room' : offset + first.length + second.length ≤ buffer.length := by
        rwa [List.length_append, ← Nat.add_assoc] at more
      rw [put?_of_room more, put?_of_room (same ▸ room'), kept, behind]
      simp only [List.length_append, List.append_assoc, Nat.add_assoc]
    · have full := Nat.not_le.mp more
      rw [put?_eq_none_iff.mpr full, eq_comm, put?_eq_none_iff, same, Nat.add_assoc,
        ← List.length_append]
      exact full
  · have full := put?_eq_none_iff.mpr (Nat.not_le.mp room)
    rw [full, Option.bind_none, put?_eq_none_iff, List.length_append]
    omega

/-- Parts that are put one by one are put as a whole. -/
theorem putAll?_cons (c : Cursor) (first : Octets) (rest : List Octets) :
    c.putAll? (first :: rest) = c.put? (first :: rest).flatten := by
  induction rest generalizing c first with
  | nil =>
    rw [List.flatten_singleton]
    exact bind_pure (c.put? first)
  | cons next more ih =>
    rw [List.flatten_cons, put?_append]
    exact congrArg (c.put? first).bind (funext fun c' => ih c' next)

end Cursor

namespace RenderedResponse

/-- As many octets are counted as there are in the spans, if the date fits its place. -/
theorem length_flatten_spans (r : RenderedResponse) {date : Octets}
    (fits : date.length = dateLength) : (r.spans date).flatten.length = r.byteCount := by
  cases r with
  | chunked head dated chunks =>
    cases dated <;> simp [spans, byteCount, DateSplit.length, fits, Nat.add_assoc]
  | _ => simp [spans, byteCount, DateSplit.length, fits, Nat.add_assoc]

theorem writeInto?_eq (r : RenderedResponse) (date : Octets) (c : Cursor) :
    r.writeInto? date c = c.put? (r.spans date).flatten := by
  cases r with
  | bytes whole => rw [spans, List.flatten_singleton, writeInto?]
  | text whole => rw [spans, List.flatten_singleton, writeInto?]
  | datedText d => exact c.putAll?_cons _ _
  | datedBytes d => exact c.putAll?_cons _ _
  | chunked head dated chunks => cases dated <;> exact c.putAll?_cons _ _

/-- What is written behind the head: the chunks, if the response has any. -/
def writeChunks : RenderedResponse → Socket → Except ResponseError Unit × Socket
  | chunked _ _ chunks, s => chunks.write s
  | bytes _, s | text _, s | datedText _, s | datedBytes _, s => (.ok (), s)

/-- A connection that takes what it is offered gets the spans before the first chunk. -/
theorem exists_respond_of_willing (r : RenderedResponse) (date : Octets) {s : Socket}
    (willing : s.peer.policy.Willing) :
    ∃ s', s.Carries (r.spans date).flatten s' ∧ r.respond date s = r.writeChunks s' := by
  have gathered : ∀ parts : List Octets, ∃ s', s.Carries parts.flatten s' ∧
      sent (s.writeGathered parts) = (.ok (), s') := by
    intro parts
    obtain ⟨s', eq, carries⟩ := Socket.exists_writeGathered_of_willing willing parts
    rw [eq]
    exact ⟨s', carries, rfl⟩
  have single : ∀ whole : Octets, ∃ s', s.Carries [whole].flatten s' ∧
      sent (s.write whole) = (.ok (), s') := by
    intro whole
    obtain ⟨s', eq, carries⟩ := Socket.exists_write_of_willing willing whole
    rw [eq, List.flatten_singleton]
    exact ⟨s', carries, rfl⟩
  cases r with
  | bytes whole => exact single whole
  | text whole => exact single whole
  | datedText d => exact gathered _
  | datedBytes d => exact gathered _
  | chunked head dated chunks =>
    obtain ⟨s', carries, eq⟩ := gathered (spans (.chunked head dated chunks) date)
    refine ⟨s', carries, ?_⟩
    rw [respond_chunked, eq]
    rfl

/-- Every response, of whatever kind, stands for as many octets as it counts.  Put into a buffer
that has room for them they are stored at the offset, which moves behind them, and nothing else in
the buffer changes; without room nothing is stored.  On a connection that takes what it is offered
the same octets arrive, before the first chunk if there are chunks. -/
theorem writeInto_respond (r : RenderedResponse) {date : Octets}
    (fits : date.length = dateLength) :
    ∃ stored : Octets, stored.length = r.byteCount ∧
      (∀ buffer offset,
        (offset + r.byteCount ≤ buffer.length →
          ∃ after, r.writeInto? date ⟨buffer, offset⟩ = some ⟨after, offset + r.byteCount⟩ ∧
            Overwritten buffer offset stored after) ∧
        (r.writeInto? date ⟨buffer, offset⟩ = none ↔ buffer.length < offset + r.byteCount)) ∧
      ∀ s : Socket, s.peer.policy.Willing →
        ∃ s', s.Carries stored s' ∧ r.respond date s = r.writeChunks s' := by
  have counted := r.length_flatten_spans fits
  refine ⟨(r.spans date).flatten, counted, ?_, fun s => r.exists_respond_of_willing date⟩
  intro buffer offset
  rw [writeInto?_eq, ← counted]
  exact ⟨Cursor.exists_put?, Cursor.put?_eq_none_iff⟩

/-- A dated stream of one chunk. -/
def datedStream : RenderedResponse :=
  .chunked ⟨Octets.ofText "HTTP/1.1 200\r\ndate: ", Octets.crlf⟩ true [.ok (Octets.ofText "hi")]

/-- The head of the stream fits between two other responses, but not into a place that is one octet
short. -/
theorem writeInto_respond_datedStream :
    tracedDate.wire.length = dateLength ∧
      ∃ stored : Octets, stored.length = 51 ∧
        (∃ after,
          datedStream.writeInto? tracedDate.wire ⟨List.replicate 60 0, 5⟩ = some ⟨after, 56⟩ ∧
            Overwritten (List.replicate 60 0) 5 stored after) ∧
        datedStream.writeInto? tracedDate.wire ⟨List.replicate 55 0, 5⟩ = none ∧
        ∃ s', (Socket.new {}).Carries stored s' ∧
          datedStream.respond tracedDate.wire (.new {}) =
            Chunks.write [.ok (Octets.ofText "hi")] s' := by
  have fits := tracedDate.length_wire
  obtain ⟨stored, counted, put, written⟩ := writeInto_respond datedStream fits
  exact ⟨fits, stored, counted, (put _ 5).1 (by decide), (put _ 5).2.mpr (by decide),
    written (.new {}) WritePolicy.willing_generous⟩

end RenderedResponse

end Signpost
