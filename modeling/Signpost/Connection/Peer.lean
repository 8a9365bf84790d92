import Signpost.Connection.Fault
import Signpost.Octets

/-!
# The other end of a connection

A peer sends what its script holds and takes what its policy admits.  The
policy sees the number of the attempt, the octets taken so far and the octets
offered; it may take some of them, none, or report a fault.  Every schedule of
partial writes is such a policy.
-/

namespace Signpost

/-- What a read meets. -/
inductive Arrival where
  | data (bytes : Octets)
  | fault (fault : PeerFault)
  /-- Nothing comes any more, and the connection stays open. -/
  | silence
  deriving DecidableEq, Repr

/-- The octets of an arrival, and the event itself. -/
def Arrival.size : Arrival → Nat
  | data bytes => bytes.length + 1
  | fault _ => 1
  | silence => 1

/-- An attempt to write to a peer. -/
structure Attempt where
  /-- The attempts made before. -/
  number : Nat
  /-- The octets taken before. -/
  taken : Nat
  offered : Nat

/-- How many of the offered octets an attempt gets rid of. -/
abbrev WritePolicy := Attempt → Except PeerFault Nat

namespace WritePolicy

/-- Takes everything offered. -/
def generous : WritePolicy := fun a => .ok a.offered

/-- Takes at most `most` octets at a time, and `total` octets in all.  After that it reports the
fault, or takes nothing if there is none. -/
def limited (most total : Option Nat) (fault : Option PeerFault) : WritePolicy := fun a =>
  let amount := min a.offered (most.getD a.offered)
  match total with
  | none => .ok amount
  | some total =>
    if total ≤ a.taken then
      match fault with
      | some fault => .error fault
      | none => .ok 0
    else .ok (min amount (total - a.taken))

end WritePolicy

structure Peer where
  script : List Arrival := []
  policy : WritePolicy := WritePolicy.generous
  flushFault : Option PeerFault := none
  /-- The octets taken so far. -/
  received : Octets := []
  attempts : Nat := 0
  shutdowns : Nat := 0

namespace Peer

/-- Offer octets; how many were taken is at most how many were offered. -/
def offer (p : Peer) (bytes : Octets) : Except PeerFault Nat × Peer :=
  let next := { p with attempts := p.attempts + 1 }
  match p.policy ⟨p.attempts, p.received.length, bytes.length⟩ with
  | .error fault => (.error fault, next)
  | .ok amount =>
    let amount := min amount bytes.length
    (.ok amount, { next with received := p.received ++ bytes.take amount })

theorem offer_le {p p' : Peer} {bytes : Octets} {n : Nat} (took : p.offer bytes = (.ok n, p')) :
    n ≤ bytes.length := by
  unfold offer at took
  split at took
  · simp at took
  · simp only [Prod.mk.injEq, Except.ok.injEq] at took
    rw [← took.1]
    exact Nat.min_le_right _ _

/-- What the next read of at most `room` octets meets.  The rest of longer data stays for the next
read, and the end of the script reads as the end of the data. -/
def take (p : Peer) (room : Nat) : Arrival × Peer :=
  match p.script with
  | [] => (.data [], p)
  | .data bytes :: rest =>
    let left := bytes.drop room
    (.data (bytes.take room),
      { p with script := if left.isEmpty then rest else .data left :: rest })
  | .fault fault :: rest => (.fault fault, { p with script := rest })
  | .silence :: _ => (.silence, p)

/-- The data and the events that a peer still has to send. -/
def pending (p : Peer) : Nat :=
  p.script.foldr (fun arrival rest => arrival.size + rest) 0

theorem pending_take {p p' : Peer} {room : Nat} {bytes : Octets}
    (took : p.take room = (.data bytes, p')) (some_read : bytes ≠ []) :
    p'.pending < p.pending := by
  unfold take at took
  split at took
  · simp only [Prod.mk.injEq, Arrival.data.injEq] at took
    exact absurd took.1.symm some_read
  · next data rest script =>
    simp only [Prod.mk.injEq, Arrival.data.injEq] at took
    obtain ⟨rfl, rfl⟩ := took
    have shorter : (data.drop room).length < data.length := by
      have : data.take room ≠ [] := some_read
      have len := List.length_pos_iff.2 this
      rw [List.length_take] at len
      rw [List.length_drop]
      omega
    simp only [pending, script, List.foldr_cons, Arrival.size]
    split
    · omega
    · simp only [List.foldr_cons]
      omega
  · simp at took
  · simp at took

end Peer

end Signpost
