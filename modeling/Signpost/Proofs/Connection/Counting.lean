import Signpost.Proofs.Connection.Delivery

/-!
# What a socket counts

A socket counts the octets of a buffer when it has gone out whole, and those of
gathered parts as they go.  So what its peer takes of a buffer that breaks off is
never counted, and it is all that is not (`Socket.counts_all_iff`).
-/

namespace Signpost

namespace Socket

/-- A call that writes to a socket. -/
inductive Call where
  | buffer (bytes : Octets)
  | gathered (parts : List Octets)

namespace Call

def make : Call → Socket → Except SocketError Unit × Socket
  | buffer bytes, s => s.write bytes
  | gathered parts, s => s.writeGathered parts

/-- How many octets of a call are taken without being counted: those of a buffer that is not
written whole. -/
def uncounted : Call → Socket → Nat
  | buffer bytes, s =>
    match s.write bytes with
    | (.ok (), _) => 0
    | (.error _, next) => next.peer.received.length - s.peer.received.length
  | gathered _, _ => 0

end Call

/-- The socket after some calls, whatever comes of each of them. -/
def after (s : Socket) (calls : List Call) : Socket :=
  calls.foldl (fun s call => (call.make s).2) s

/-- How many octets of some calls are taken without being counted. -/
def uncounted (s : Socket) : List Call → Nat
  | [] => 0
  | call :: rest => call.uncounted s + (call.make s).2.uncounted rest

/-- Some of a buffer is taken, but it is not written whole. -/
def BreaksOff (s : Socket) (bytes : Octets) : Prop :=
  (s.write bytes).1 ≠ .ok () ∧ (s.write bytes).2.peer.received ≠ s.peer.received

/-- The count is the number of octets that a peer has taken since the socket was new. -/
def Exact (s : Socket) (start : Peer) : Prop :=
  s.peer.received.length = start.received.length + s.bytesWritten

instance (s : Socket) (start : Peer) : Decidable (s.Exact start) :=
  inferInstanceAs (Decidable (_ = _))

/-! ## One call -/

theorem bytesWritten_of_failed {s next : Socket} {bytes : Octets} {e : SocketError}
    (took : s.write bytes = (.error e, next)) : next.bytesWritten = s.bytesWritten := by
  unfold write at took
  split at took
  · cases took
  · cases took
    rfl

theorem Call.received_make (call : Call) (s : Socket) :
    (call.make s).2.peer.received.length + s.bytesWritten =
      s.peer.received.length + (call.make s).2.bytesWritten + call.uncounted s := by
  cases call with
  | buffer bytes =>
    obtain ⟨sent, received, _, counted⟩ := s.exists_sent_write bytes
    rw [make, uncounted]
    rcases took : s.write bytes with ⟨e | _, next⟩
    · rw [took] at received
      have length := congrArg List.length received
      have same := bytesWritten_of_failed took
      rw [List.length_append] at length
      dsimp only at length ⊢
      omega
    · rw [took] at received counted
      have length := congrArg List.length received
      have same := counted rfl
      rw [List.length_append] at length
      dsimp only at length same ⊢
      omega
  | gathered parts =>
    obtain ⟨sent, received, _, counted⟩ := s.exists_sent_writeGathered parts
    have length := congrArg List.length received
    rw [List.length_append] at length
    rw [make, uncounted]
    omega

theorem uncounted_buffer_eq_zero_iff (s : Socket) (bytes : Octets) :
    (Call.buffer bytes).uncounted s = 0 ↔ ¬s.BreaksOff bytes := by
  obtain ⟨sent, received, _, _⟩ := s.exists_sent_write bytes
  rw [Call.uncounted, BreaksOff, received]
  simp only [Ne, List.append_right_eq_self]
  rcases took : s.write bytes with ⟨e | _, next⟩
  · rw [took] at received
    have length := congrArg List.length received
    rw [List.length_append] at length
    dsimp only at length ⊢
    rw [length, Nat.add_sub_cancel_left, List.length_eq_zero_iff]
    exact ⟨fun none both => both.2 none, fun whole => Decidable.byContradiction (whole ⟨nofun, ·⟩)⟩
  · exact iff_of_true rfl fun both => both.1 rfl

/-! ## Runs of calls -/

theorem received_after (s : Socket) (calls : List Call) :
    (s.after calls).peer.received.length + s.bytesWritten =
      s.peer.received.length + (s.after calls).bytesWritten + s.uncounted calls := by
  induction calls generalizing s with
  | nil => rfl
  | cons call rest ih =>
    have first := call.received_make s
    have others := ih (call.make s).2
    rw [after, List.foldl_cons, ← after, uncounted]
    omega

theorem received_after_new (start : Peer) (calls : List Call) :
    ((new start).after calls).peer.received.length =
      start.received.length + ((new start).after calls).bytesWritten +
        (new start).uncounted calls :=
  (new start).received_after calls

theorem uncounted_append (s : Socket) (made rest : List Call) :
    s.uncounted (made ++ rest) = s.uncounted made + (s.after made).uncounted rest := by
  induction made generalizing s with
  | nil => exact (Nat.zero_add _).symm
  | cons call more ih =>
    rw [List.cons_append, uncounted, uncounted, ih, Nat.add_assoc]
    rfl

theorem uncounted_eq_zero_iff (s : Socket) (calls : List Call) :
    s.uncounted calls = 0 ↔
      ∀ made bytes rest, calls = made ++ .buffer bytes :: rest →
        ¬(s.after made).BreaksOff bytes := by
  induction calls generalizing s with
  | nil => exact iff_of_true rfl fun made _ _ eq => absurd eq.symm (by simp)
  | cons call rest ih =>
    rw [uncounted, Nat.add_eq_zero_iff, ih]
    constructor
    · rintro ⟨first, others⟩ made bytes more eq
      cases made with
      | nil =>
        cases eq
        exact (uncounted_buffer_eq_zero_iff s bytes).mp first
      | cons other made =>
        cases eq
        exact others made bytes more rfl
    · intro whole
      refine ⟨?_, fun made bytes more eq => whole (call :: made) bytes more (by rw [eq]; rfl)⟩
      cases call with
      | buffer bytes => exact (uncounted_buffer_eq_zero_iff s bytes).mpr (whole [] bytes rest rfl)
      | gathered parts => rfl

/-- After any calls a socket has counted what its peer has taken since it was new, except for what
was taken of buffers that were not written whole.  So its count is exact after each of the calls if
and only if no buffer among them breaks off. -/
theorem counts_all_iff (start : Peer) (calls : List Call) :
    ((new start).after calls).peer.received.length =
        start.received.length + ((new start).after calls).bytesWritten +
          (new start).uncounted calls ∧
      ((∀ made, made <+: calls → ((new start).after made).Exact start) ↔
        ∀ made bytes rest, calls = made ++ .buffer bytes :: rest →
          ¬((new start).after made).BreaksOff bytes) := by
  have exact_iff : ∀ made,
      ((new start).after made).Exact start ↔ (new start).uncounted made = 0 := by
    intro made
    rw [Exact, received_after_new]
    exact Nat.add_eq_left
  refine ⟨received_after_new start calls, ?_⟩
  rw [← uncounted_eq_zero_iff, ← exact_iff]
  constructor
  · intro all
    exact all calls List.prefix_rfl
  · rintro last made ⟨rest, rfl⟩
    rw [exact_iff, uncounted_append] at last
    exact (exact_iff made).mpr (Nat.eq_zero_of_add_eq_zero_right last)

/-- A peer that is gone after three octets. -/
def threeTaken : Peer :=
  { policy := .limited none (some 3) (some ⟨.brokenPipe, "mock failure"⟩) }

/-- Three octets of a buffer have been taken, and none of them is counted. -/
theorem buffer_uncounted :
    let s := (new threeTaken).after [.buffer (Octets.ofText "hello")]
    s.peer.received = Octets.ofText "hel" ∧ s.bytesWritten = 0 ∧ ¬s.Exact threeTaken := by
  let mid := (threeTaken.offer (Octets.ofText "hello")).2
  have taken : threeTaken.Takes (Octets.ofText "hello") (Octets.ofText "lo") mid :=
    .step rfl (.refl mid _)
  have ended : mid.Ends (Octets.ofText "lo") (.error (.ofFault ⟨.brokenPipe, "mock failure"⟩)) _ :=
    .failed (by decide) rfl
  have broken := write_of_ends (s := new threeTaken) taken ended
  dsimp only
  rw [after, List.foldl_cons, List.foldl_nil, Call.make, broken]
  exact ⟨rfl, rfl, by decide⟩

end Socket

end Signpost
