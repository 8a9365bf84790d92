import Signpost.Proofs.Connection.Offers
import Signpost.Response.Rendered

/-!
# What arrives of what is written

However a peer takes what it is offered, it has in the end taken a prefix of
it, and writing succeeds exactly if that prefix is all of it.  The count that a
socket keeps lags behind what was taken only if the connection itself failed.
`Delivers` says so of one response, and is kept when one part of a response is
written after another.
-/

namespace Signpost

namespace Socket

/-- However a buffer is taken, a start of it arrives, and it is counted if that is all of it. -/
theorem exists_sent_write (s : Socket) (bytes : Octets) :
    ∃ sent, (s.write bytes).2.peer.received = s.peer.received ++ sent ∧
      SentOf sent bytes ((s.write bytes).1 = .ok ()) ∧
      ((s.write bytes).1 = .ok () →
        (s.write bytes).2.bytesWritten = s.bytesWritten + sent.length) := by
  obtain ⟨left, mid, result, last, taken, ended⟩ := s.peer.exists_ends bytes
  obtain ⟨sent, whole, received, part, _⟩ := taken.exists_sent_of_ends ended
  rw [write_of_ends taken ended]
  refine ⟨sent, received, part, ?_⟩
  intro done
  rw [if_pos (ended.ok_iff.mp done), ← part.complete_iff.mp done]

/-- However the parts are taken, a start of them arrives, and it is counted. -/
theorem exists_sent_writeGathered (s : Socket) (parts : List Octets) :
    ∃ sent, (s.writeGathered parts).2.peer.received = s.peer.received ++ sent ∧
      SentOf sent parts.flatten ((s.writeGathered parts).1 = .ok ()) ∧
      (s.writeGathered parts).2.bytesWritten = s.bytesWritten + sent.length := by
  obtain ⟨left, mid, result, last, taken, ended⟩ := s.peer.exists_ends parts.flatten
  obtain ⟨sent, whole, received, part, _⟩ := taken.exists_sent_of_ends ended
  obtain ⟨count, counted, eq⟩ := writeGathered_of_ends taken ended
  rw [whole, List.length_append] at counted
  rw [eq]
  exact ⟨sent, received, part, by dsimp only; omega⟩

end Socket

/-! ## Peers that take what they are offered -/

/-- Takes some of whatever is offered, and reports no fault. -/
def WritePolicy.Willing (policy : WritePolicy) : Prop :=
  ∀ attempt : Attempt, 0 < attempt.offered → ∃ n, 0 < n ∧ policy attempt = .ok n

theorem WritePolicy.willing_generous : generous.Willing :=
  fun attempt something => ⟨attempt.offered, something, rfl⟩

theorem WritePolicy.willing_limited {most : Nat} (some_taken : 0 < most) :
    (limited (some most) none none).Willing :=
  fun attempt something => ⟨min attempt.offered most, Nat.lt_min.mpr ⟨something, some_taken⟩, rfl⟩

namespace Peer

variable {p mid last : Peer} {bytes left : Octets}

theorem policy_offer (p : Peer) (bytes : Octets) : (p.offer bytes).2.policy = p.policy := by
  unfold offer
  dsimp only
  split <;> rfl

theorem Takes.policy (taken : p.Takes bytes left mid) : mid.policy = p.policy := by
  induction taken with
  | refl => rfl
  | @step p next last bytes left n took _ ih =>
    rw [ih, ← policy_offer p bytes, took]

theorem Ends.policy {result : Except SocketError Unit} (ended : p.Ends left result last) :
    last.policy = p.policy := by
  cases ended with
  | done => rfl
  | closed _ took => rw [← policy_offer p left, took]
  | failed _ took => rw [← policy_offer p left, took]

/-- A willing peer takes something of what is left as long as something is. -/
theorem Ends.eq_nil_of_willing {result : Except SocketError Unit}
    (ended : p.Ends left result last) (willing : p.policy.Willing) : left = [] := by
  have takes : left ≠ [] → ∃ n next, p.offer left = (.ok (n + 1), next) := by
    intro some_left
    have positive := List.length_pos_iff.mpr some_left
    obtain ⟨n, taken, eq⟩ := willing ⟨p.attempts, p.received.length, left.length⟩ positive
    obtain ⟨m, amount⟩ := Nat.exists_eq_succ_of_ne_zero (n := min n left.length) (by omega)
    unfold offer
    rw [eq]
    dsimp only
    rw [amount]
    exact ⟨m, _, rfl⟩
  cases ended with
  | done => rfl
  | closed some_left took =>
    obtain ⟨_, _, taken⟩ := takes some_left
    rw [took] at taken
    cases taken
  | failed some_left took =>
    obtain ⟨_, _, taken⟩ := takes some_left
    rw [took] at taken
    cases taken

theorem exists_takes_of_willing (willing : p.policy.Willing) (bytes : Octets) :
    ∃ mid, p.Takes bytes [] mid := by
  obtain ⟨left, mid, _, _, taken, ended⟩ := p.exists_ends bytes
  rw [ended.eq_nil_of_willing (taken.policy ▸ willing)] at taken
  exact ⟨mid, taken⟩

end Peer

namespace Socket

variable {s s' s'' : Socket}

theorem policy_write (s : Socket) (bytes : Octets) :
    (s.write bytes).2.peer.policy = s.peer.policy := by
  obtain ⟨_, _, _, _, taken, ended⟩ := s.peer.exists_ends bytes
  rw [write_of_ends taken ended]
  exact ended.policy.trans taken.policy

theorem policy_writeGathered (s : Socket) (parts : List Octets) :
    (s.writeGathered parts).2.peer.policy = s.peer.policy := by
  obtain ⟨_, _, _, _, taken, ended⟩ := s.peer.exists_ends parts.flatten
  obtain ⟨_, _, eq⟩ := writeGathered_of_ends taken ended
  rw [eq]
  exact ended.policy.trans taken.policy

/-- What becomes of a connection as these octets go out on it. -/
structure Carries (s : Socket) (bytes : Octets) (s' : Socket) : Prop where
  received : s'.peer.received = s.peer.received ++ bytes
  policy : s'.peer.policy = s.peer.policy

theorem Carries.nothing (s : Socket) : s.Carries [] s := ⟨(List.append_nil _).symm, rfl⟩

theorem Carries.trans {first second : Octets} (carries : s.Carries first s')
    (then_carries : s'.Carries second s'') : s.Carries (first ++ second) s'' where
  received := by rw [then_carries.received, carries.received, List.append_assoc]
  policy := then_carries.policy.trans carries.policy

/-- A willing peer gets a buffer whole. -/
theorem exists_write_of_willing (willing : s.peer.policy.Willing) (bytes : Octets) :
    ∃ s', s.write bytes = (.ok (), s') ∧ s.Carries bytes s' := by
  obtain ⟨mid, taken⟩ := Peer.exists_takes_of_willing willing bytes
  obtain ⟨sent, whole, received, _⟩ := taken.exists_sent
  rw [List.append_nil] at whole
  exact ⟨_, write_of_ends taken (.done mid), whole ▸ received, taken.policy⟩

/-- A willing peer gets all parts of a gathered write. -/
theorem exists_writeGathered_of_willing (willing : s.peer.policy.Willing) (parts : List Octets) :
    ∃ s', s.writeGathered parts = (.ok (), s') ∧ s.Carries parts.flatten s' := by
  obtain ⟨mid, taken⟩ := Peer.exists_takes_of_willing willing parts.flatten
  obtain ⟨sent, whole, received, _⟩ := taken.exists_sent
  obtain ⟨_, _, eq⟩ := writeGathered_of_ends taken (.done mid)
  rw [List.append_nil] at whole
  exact ⟨_, eq, whole ▸ received, taken.policy⟩

end Socket

/-! ## Parts of a response -/

/-- Of a response, `sent` has arrived, and all of it exactly if there was no error.  Where there
was none, or not one of the connection, it has been counted as well. -/
structure Delivers (whole : Octets) (s : Socket) (sent : Octets)
    (result : Except ResponseError Unit × Socket) : Prop where
  received : result.2.peer.received = s.peer.received ++ sent
  part : SentOf sent whole (result.1 = .ok ())
  counted : (∀ e, result.1 ≠ .error (.socket e)) →
    result.2.bytesWritten = s.bytesWritten + sent.length

theorem RenderedResponse.sent_eq_ok_iff {result : Except SocketError Unit × Socket} :
    (sent result).1 = .ok () ↔ result.1 = .ok () := by
  unfold sent
  rcases result with ⟨e | _, next⟩
  · exact ⟨nofun, nofun⟩
  · exact ⟨fun _ => rfl, fun _ => rfl⟩

/-- Writing fails only with the connection. -/
theorem RenderedResponse.eq_ok_of_sent {result : Except SocketError Unit × Socket}
    (sound : ∀ e, (sent result).1 ≠ .error (.socket e)) : result.1 = .ok () := by
  unfold sent at sound
  rcases result with ⟨e | _, next⟩
  · exact absurd rfl (sound e)
  · rfl

theorem exists_delivers_write (s : Socket) (bytes : Octets) :
    ∃ sent, Delivers bytes s sent (RenderedResponse.sent (s.write bytes)) := by
  obtain ⟨sent, received, part, counted⟩ := s.exists_sent_write bytes
  exact ⟨sent, received, part.of_iff RenderedResponse.sent_eq_ok_iff,
    fun sound => counted (RenderedResponse.eq_ok_of_sent sound)⟩

theorem exists_delivers_writeGathered (s : Socket) (parts : List Octets) :
    ∃ sent, Delivers parts.flatten s sent (RenderedResponse.sent (s.writeGathered parts)) := by
  obtain ⟨sent, received, part, counted⟩ := s.exists_sent_writeGathered parts
  exact ⟨sent, received, part.of_iff RenderedResponse.sent_eq_ok_iff, fun _ => counted⟩

/-- Write on, unless writing has failed. -/
def thenWrite (result : Except ResponseError Unit × Socket)
    (next : Socket → Except ResponseError Unit × Socket) : Except ResponseError Unit × Socket :=
  match result with
  | (.ok (), s) => next s
  | (.error e, s) => (.error e, s)

theorem thenWrite_sent {result : Except SocketError Unit × Socket} (done : result.1 = .ok ())
    (next : Socket → Except ResponseError Unit × Socket) :
    thenWrite (RenderedResponse.sent result) next = next result.2 := by
  rcases result with ⟨_ | _, s⟩
  · cases done
  · rfl

/-- One part of a response is written after another. -/
theorem Delivers.thenWrite {first second : Octets} {s : Socket} {sent : Octets}
    {result : Except ResponseError Unit × Socket} (delivers : Delivers first s sent result)
    {next : Socket → Except ResponseError Unit × Socket}
    (follows : ∀ s, ∃ sent, Delivers second s sent (next s)) :
    ∃ sent, Delivers (first ++ second) s sent (thenWrite result next) := by
  obtain ⟨received, part, counted⟩ := delivers
  rcases result with ⟨e | _, s'⟩
  · exact ⟨sent, received, part.append_right nofun second, counted⟩
  · obtain ⟨more, received', part', counted'⟩ := follows s'
    have goesOn : Signpost.thenWrite (.ok (), s') next = next s' := rfl
    have whole : sent = first := part.complete_iff.mp rfl
    subst whole
    rw [goesOn]
    refine ⟨sent ++ more, ?_, part'.append_left sent, ?_⟩
    · rw [received', received, List.append_assoc]
    · intro sound
      rw [counted' sound, counted nofun, List.length_append, Nat.add_assoc]

end Signpost
