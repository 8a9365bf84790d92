import Signpost.Connection.Socket

/-!
# Writing until nothing is left

What is written to a peer is offered to it, and then what is left of it, again and
again.  The peer takes some of each offer (`Peer.Takes`) until nothing is left, it
takes nothing, or it reports a fault (`Peer.Ends`).  Both ways in which a socket
writes go through just these offers: a buffer does as it stands, and gathered parts
do as one string of octets, wherever a part begins and the peer stops.

* `Peer.exists_ends`: every write comes to an end.
* `Socket.write_of_ends`, `Socket.writeGathered_of_ends`: what has been written by
  then, with which result, and what the socket has counted of it.
* `Socket.writeGathered_arrives`: a gathered write delivers its parts once and in
  order, or a start of them.
-/

namespace Signpost

/-- `sent` is the start of a whole, and all of it exactly if that is what `complete` says. -/
structure SentOf (sent whole : Octets) (complete : Prop) : Prop where
  starts : sent <+: whole
  complete_iff : complete ↔ sent = whole

namespace SentOf

variable {sent whole : Octets} {complete : Prop}

theorem all (whole : Octets) {complete : Prop} (holds : complete) : SentOf whole whole complete :=
  ⟨List.prefix_rfl, iff_of_true holds rfl⟩

theorem nothing (some_left : whole ≠ []) (fails : ¬complete) : SentOf [] whole complete :=
  ⟨List.nil_prefix, iff_of_false fails some_left.symm⟩

/-- What is sent first may be sent with it. -/
theorem append_left (part : SentOf sent whole complete) (front : Octets) :
    SentOf (front ++ sent) (front ++ whole) complete := by
  refine ⟨(List.prefix_append_right_inj front).mpr part.starts, ?_⟩
  rw [part.complete_iff, List.append_cancel_left_eq]

/-- What breaks off also breaks off something longer. -/
theorem append_right (part : SentOf sent whole complete) (fails : ¬complete) (more : Octets) :
    SentOf sent (whole ++ more) complete := by
  refine ⟨part.starts.trans (List.prefix_append whole more), iff_of_false fails ?_⟩
  rintro rfl
  have longer := part.starts.length_le
  rw [List.length_append] at longer
  have nothing : more = [] := List.length_eq_zero_iff.mp (by omega)
  subst nothing
  exact fails (part.complete_iff.mpr (List.append_nil whole))

theorem of_iff {complete' : Prop} (part : SentOf sent whole complete)
    (same : complete' ↔ complete) : SentOf sent whole complete' :=
  ⟨part.starts, same.trans part.complete_iff⟩

end SentOf

/-! ## Offers -/

namespace Peer

/-- Of octets that are offered, and then of what is left of them, a peer takes some each time
until `left` are left. -/
inductive Takes : Peer → Octets → Octets → Peer → Prop
  | refl (p : Peer) (bytes : Octets) : Takes p bytes bytes p
  | step {p next last : Peer} {bytes left : Octets} {n : Nat} :
    p.offer bytes = (.ok (n + 1), next) → Takes next (bytes.drop (n + 1)) left last →
    Takes p bytes left last

/-- How a write ends when `left` are left of it. -/
inductive Ends : Peer → Octets → Except SocketError Unit → Peer → Prop
  | done (p : Peer) : Ends p [] (.ok ()) p
  | closed {p next : Peer} {left : Octets} :
    left ≠ [] → p.offer left = (.ok 0, next) → Ends p left (.error .closed) next
  | failed {p next : Peer} {left : Octets} {fault : PeerFault} :
    left ≠ [] → p.offer left = (.error fault, next) → Ends p left (.error (.ofFault fault)) next

section Offer

variable {p p' : Peer} {bytes : Octets}

theorem received_of_fault {fault : PeerFault} (took : p.offer bytes = (.error fault, p')) :
    p'.received = p.received := by
  unfold offer at took
  dsimp only at took
  split at took
  · cases took
    rfl
  · cases took

theorem received_of_some {n : Nat} (took : p.offer bytes = (.ok n, p')) :
    p'.received = p.received ++ bytes.take n := by
  unfold offer at took
  dsimp only at took
  split at took
  · cases took
  · cases took
    rfl

theorem received_of_none (took : p.offer bytes = (.ok 0, p')) : p'.received = p.received := by
  rw [received_of_some took, List.take_zero, List.append_nil]

theorem attempts_of_offer {taken : Except PeerFault Nat} (took : p.offer bytes = (taken, p')) :
    p'.attempts = p.attempts + 1 := by
  unfold offer at took
  dsimp only at took
  split at took <;>
  · cases took
    rfl

theorem offer_nil_ne_some {n : Nat} : p.offer [] ≠ (.ok (n + 1), p') :=
  fun took => absurd (offer_le took) (Nat.not_succ_le_zero n)

end Offer

variable {p mid last : Peer} {bytes left : Octets} {result : Except SocketError Unit}

/-- What is no longer left has arrived, with an octet at least for each attempt. -/
theorem Takes.exists_sent (taken : p.Takes bytes left mid) :
    ∃ sent, bytes = sent ++ left ∧ mid.received = p.received ++ sent ∧
      mid.attempts ≤ p.attempts + sent.length := by
  induction taken with
  | refl p bytes => exact ⟨[], rfl, (List.append_nil _).symm, Nat.le_refl _⟩
  | @step p next last bytes left n took _ ih =>
    obtain ⟨sent, rest, received, attempts⟩ := ih
    have front := List.length_take_of_le (offer_le took)
    refine ⟨bytes.take (n + 1) ++ sent, ?_, ?_, ?_⟩
    · rw [List.append_assoc, ← rest, List.take_append_drop]
    · rw [received, received_of_some took, List.append_assoc]
    · rw [attempts_of_offer took] at attempts
      rw [List.length_append, front]
      omega

theorem Ends.received (ended : p.Ends left result last) : last.received = p.received := by
  cases ended with
  | done => rfl
  | closed _ took => exact received_of_none took
  | failed _ took => exact received_of_fault took

theorem Ends.ok_iff (ended : p.Ends left result last) : result = .ok () ↔ left = [] := by
  cases ended with
  | done => exact iff_of_true rfl rfl
  | closed some_left _ => exact iff_of_false nofun some_left
  | failed some_left _ => exact iff_of_false nofun some_left

/-- A last attempt is made only if something is left. -/
theorem Ends.attempts_le (ended : p.Ends left result last) :
    last.attempts ≤ p.attempts + left.length := by
  cases ended with
  | done => exact Nat.le_refl _
  | closed some_left took =>
    rw [attempts_of_offer took]
    exact Nat.add_le_add_left (List.length_pos_iff.mpr some_left) _
  | failed some_left took =>
    rw [attempts_of_offer took]
    exact Nat.add_le_add_left (List.length_pos_iff.mpr some_left) _

/-- By its end a write has brought a start of its octets to the peer, and all of them exactly if
it succeeds, with at most one attempt for each octet. -/
theorem Takes.exists_sent_of_ends (taken : p.Takes bytes left mid)
    (ended : mid.Ends left result last) :
    ∃ sent, bytes = sent ++ left ∧ last.received = p.received ++ sent ∧
      SentOf sent bytes (result = .ok ()) ∧ last.attempts ≤ p.attempts + bytes.length := by
  obtain ⟨sent, rfl, received, attempts⟩ := taken.exists_sent
  have more := ended.attempts_le
  refine ⟨sent, rfl, by rw [ended.received, received], ⟨List.prefix_append sent left, ?_⟩, ?_⟩
  · rw [ended.ok_iff, List.self_eq_append_right]
  · rw [List.length_append]
    omega

/-- Every write comes to an end, because each offer is shorter than the one before. -/
theorem exists_ends (p : Peer) (bytes : Octets) :
    ∃ left mid result last, p.Takes bytes left mid ∧ mid.Ends left result last := by
  induction size : bytes.length using Nat.strongRecOn generalizing p bytes with
  | ind length ih =>
    by_cases some_left : bytes = []
    · rw [some_left]
      exact ⟨_, _, _, _, .refl p [], .done p⟩
    · rcases took : p.offer bytes with ⟨fault | _ | n, next⟩
      · exact ⟨_, _, _, _, .refl p bytes, .failed some_left took⟩
      · exact ⟨_, _, _, _, .refl p bytes, .closed some_left took⟩
      · have shorter : (bytes.drop (n + 1)).length < length := by
          have positive := List.length_pos_iff.mpr some_left
          rw [List.length_drop]
          omega
        obtain ⟨left, mid, result, last, taken, ended⟩ := ih _ shorter next _ rfl
        exact ⟨left, mid, result, last, .step took taken, ended⟩

/-! ## Buffers -/

theorem writeAll_of_takes (taken : p.Takes bytes left mid) :
    p.writeAll bytes = mid.writeAll left := by
  induction taken with
  | refl => rfl
  | @step p next last bytes left n took _ ih =>
    have some_left : bytes ≠ [] := by
      rintro rfl
      exact offer_nil_ne_some took
    rw [writeAll_of_some some_left took, ih]

end Peer

namespace Socket

variable {s : Socket} {mid last : Peer} {bytes left : Octets} {result : Except SocketError Unit}

/-- A buffer is counted only when nothing is left of it. -/
theorem write_of_ends (taken : s.peer.Takes bytes left mid) (ended : mid.Ends left result last) :
    s.write bytes =
      (result, ⟨last, if left = [] then s.bytesWritten + bytes.length else s.bytesWritten⟩) := by
  rw [write, Peer.writeAll_of_takes taken]
  cases ended with
  | done => rw [Peer.writeAll_nil, if_pos rfl]
  | closed some_left took =>
    rw [Peer.writeAll_of_none some_left took, if_neg some_left]
    rfl
  | failed some_left took => rw [Peer.writeAll_of_fault some_left took, if_neg some_left]

/-! ## Gathered parts -/

/-- Parts with no used-up part in front: if there are any, there is something left of them. -/
def Trimmed (parts : List Octets) : Prop := parts.flatten = [] → parts = []

theorem trimmed_advance (n : Nat) (parts : List Octets) : Trimmed (advance n parts) := by
  induction parts generalizing n with
  | nil => exact fun _ => rfl
  | cons part rest ih =>
    rw [advance]
    split
    · exact ih _
    · next left =>
      intro nothing
      rw [List.flatten_cons, List.append_eq_nil_iff, List.drop_eq_nil_iff] at nothing
      exact absurd nothing.1 left

/-- Wherever the peer stops, what is left of the parts is what is left of their octets, and what
has been taken is counted. -/
theorem writeParts_of_takes {p : Peer} (taken : p.Takes bytes left mid) (count : Nat)
    {parts : List Octets} (trimmed : Trimmed parts) (whole : parts.flatten = bytes) :
    ∃ rest count', Trimmed rest ∧ rest.flatten = left ∧
      count' + left.length = count + bytes.length ∧
      writeParts ⟨p, count⟩ parts = writeParts ⟨mid, count'⟩ rest := by
  induction taken generalizing count parts with
  | refl => exact ⟨parts, count, trimmed, whole, rfl, rfl⟩
  | @step p next last bytes left n took _ ih =>
    subst whole
    have some_left : parts ≠ [] := by
      rintro rfl
      exact Peer.offer_nil_ne_some took
    obtain ⟨rest, count', front, flat, counted, eq⟩ := ih (count + (n + 1))
      (trimmed_advance (n + 1) parts) (flatten_advance (n + 1) parts)
    have taken := Peer.offer_le took
    rw [List.length_drop] at counted
    exact ⟨rest, count', front, flat, by omega, by rw [writeParts_of_some some_left took, eq]⟩

theorem writeParts_of_ends {parts : List Octets} (trimmed : Trimmed parts)
    (whole : parts.flatten = left) (ended : s.peer.Ends left result last) :
    s.writeParts parts = (result, { s with peer := last }) := by
  have nonempty : left ≠ [] → parts ≠ [] := by
    rintro some_left rfl
    exact some_left whole.symm
  cases ended with
  | done =>
    rw [trimmed whole]
    exact writeParts_nil s
  | closed some_left took => exact writeParts_of_none (nonempty some_left) (whole ▸ took)
  | failed some_left took => exact writeParts_of_fault (nonempty some_left) (whole ▸ took)

/-- Whatever has been taken of gathered parts is counted. -/
theorem writeGathered_of_ends {parts : List Octets} (taken : s.peer.Takes parts.flatten left mid)
    (ended : mid.Ends left result last) :
    ∃ count, count + left.length = s.bytesWritten + parts.flatten.length ∧
      s.writeGathered parts = (result, ⟨last, count⟩) := by
  obtain ⟨rest, count, trimmed, flat, counted, eq⟩ := writeParts_of_takes taken
    s.bytesWritten (trimmed_advance 0 parts) (by rw [flatten_advance, List.drop_zero])
  refine ⟨count, counted, ?_⟩
  rw [writeGathered, eq]
  exact writeParts_of_ends trimmed flat ended

/-- Where the parts begin makes no difference. -/
theorem writeGathered_congr {parts parts' : List Octets} (same : parts.flatten = parts'.flatten)
    (s : Socket) : s.writeGathered parts = s.writeGathered parts' := by
  obtain ⟨_, _, _, _, taken, ended⟩ := s.peer.exists_ends parts.flatten
  obtain ⟨count, counted, eq⟩ := writeGathered_of_ends taken ended
  obtain ⟨count', counted', eq'⟩ := writeGathered_of_ends (same ▸ taken) ended
  rw [← same, ← counted] at counted'
  rw [eq, eq', Nat.add_right_cancel counted']

/-- However a peer takes the parts of a gathered write, what arrives is a start of the parts put
together, and all of them exactly if the write succeeds.  There is at most one attempt for each
octet, and none at all where the parts are empty.  The write ends as the offers do: where something
is left and none of it is taken, with the connection closed. -/
theorem writeGathered_arrives (s : Socket) (parts : List Octets) :
    ∃ sent, (s.writeGathered parts).2.peer.received = s.peer.received ++ sent ∧
      SentOf sent parts.flatten ((s.writeGathered parts).1 = .ok ()) ∧
      (s.writeGathered parts).2.peer.attempts ≤ s.peer.attempts + parts.flatten.length ∧
      ((∀ part ∈ parts, part = []) → s.writeGathered parts = (.ok (), s)) ∧
      ∀ {left mid result last}, s.peer.Takes parts.flatten left mid → mid.Ends left result last →
        (s.writeGathered parts).1 = result ∧ (s.writeGathered parts).2.peer = last := by
  obtain ⟨left, mid, result, last, taken, ended⟩ := s.peer.exists_ends parts.flatten
  obtain ⟨sent, _, received, part, attempts⟩ := taken.exists_sent_of_ends ended
  obtain ⟨count, _, eq⟩ := writeGathered_of_ends taken ended
  refine ⟨sent, by rw [eq, received], by rw [eq]; exact part, by rw [eq]; exact attempts, ?_, ?_⟩
  · intro empty
    have nothing : parts.flatten = [] := List.flatten_eq_nil_iff.mpr empty
    rw [writeGathered, trimmed_advance 0 parts (by rw [flatten_advance, nothing, List.drop_nil])]
    exact writeParts_nil s
  · intro left mid result last taken ended
    obtain ⟨_, _, eq⟩ := writeGathered_of_ends taken ended
    rw [eq]
    exact ⟨rfl, rfl⟩

end Socket

end Signpost
