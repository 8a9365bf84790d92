import Signpost.Connection.Peer

/-!
# Sockets

A socket writes all it is given, in as many attempts as the peer needs, and
counts what it has written.  A buffer is counted once it has gone out whole;
the parts of a gathered write are counted as they go.
-/

namespace Signpost

structure Socket where
  peer : Peer
  bytesWritten : Nat := 0

/-- A buffer that reads are appended to.  It offers the room that is left in it, and grows when it
is full. -/
structure ReadBuffer where
  bytes : Octets := []
  capacity : Nat

namespace ReadBuffer

/-- The least room that growing makes. -/
def minGrowth : Nat := 64

def grown (b : ReadBuffer) : ReadBuffer :=
  if b.bytes.length < b.capacity then b
  else { b with capacity := max (2 * b.capacity) (b.bytes.length + minGrowth) }

/-- Make room for octets up to a total length.  Memory is taken to suffice for it. -/
def reserve (b : ReadBuffer) (total : Nat) : ReadBuffer :=
  if total ≤ b.capacity then b else { b with capacity := max (2 * b.capacity) total }

def room (b : ReadBuffer) : Nat := b.capacity - b.bytes.length

def append (b : ReadBuffer) (bytes : Octets) : ReadBuffer := { b with bytes := b.bytes ++ bytes }

end ReadBuffer

/-- How a read ended. -/
inductive ReadResult where
  /-- The number of octets that were read; none at the end of the data. -/
  | read (count : Nat)
  | failed (error : SocketError)
  | silent
  deriving DecidableEq, Repr

namespace Peer

/-- Write octets until all are taken.  Taking none of some is a fault. -/
def writeAll (p : Peer) (bytes : Octets) : Except PeerFault Unit × Peer :=
  if bytes.isEmpty then (.ok (), p)
  else
    match took : p.offer bytes with
    | (.error fault, p) => (.error fault, p)
    | (.ok 0, p) => (.error ⟨.writeZero, "failed to write whole buffer"⟩, p)
    | (.ok (n + 1), p) => p.writeAll (bytes.drop (n + 1))
termination_by bytes.length
decreasing_by
  have := offer_le took
  rw [List.length_drop]
  omega

section WriteAll

variable {p p' : Peer} {bytes : Octets}

theorem writeAll_nil (p : Peer) : p.writeAll [] = (.ok (), p) := by
  rw [writeAll]
  rfl

theorem writeAll_of_fault {fault : PeerFault} (some_left : bytes ≠ [])
    (took : p.offer bytes = (.error fault, p')) : p.writeAll bytes = (.error fault, p') := by
  rw [writeAll, if_neg (by simpa using some_left)]
  split <;> simp_all

theorem writeAll_of_none (some_left : bytes ≠ []) (took : p.offer bytes = (.ok 0, p')) :
    p.writeAll bytes = (.error ⟨.writeZero, "failed to write whole buffer"⟩, p') := by
  rw [writeAll, if_neg (by simpa using some_left)]
  split <;> simp_all

theorem writeAll_of_some {n : Nat} (some_left : bytes ≠ [])
    (took : p.offer bytes = (.ok (n + 1), p')) :
    p.writeAll bytes = p'.writeAll (bytes.drop (n + 1)) := by
  rw [writeAll, if_neg (by simpa using some_left)]
  split <;> simp_all

end WriteAll

end Peer

/-- Drop octets from the front of a list of parts, and the parts that are used up with them. -/
def advance : Nat → List Octets → List Octets
  | _, [] => []
  | n, part :: rest =>
    if part.length ≤ n then advance (n - part.length) rest else part.drop n :: rest

theorem flatten_advance (n : Nat) (parts : List Octets) :
    (advance n parts).flatten = parts.flatten.drop n := by
  induction parts generalizing n with
  | nil => simp [advance]
  | cons part rest ih =>
    rw [advance]
    split
    · next short =>
      rw [ih, List.flatten_cons, List.drop_append, List.drop_eq_nil_of_le short, List.nil_append]
    · next long =>
      rw [List.flatten_cons, List.flatten_cons, List.drop_append,
        Nat.sub_eq_zero_of_le (Nat.le_of_not_le long), List.drop_zero]

namespace Socket

def new (peer : Peer) : Socket := { peer }

/-- Write one buffer. -/
def write (s : Socket) (bytes : Octets) : Except SocketError Unit × Socket :=
  match s.peer.writeAll bytes with
  | (.ok (), peer) => (.ok (), { peer, bytesWritten := s.bytesWritten + bytes.length })
  | (.error fault, peer) => (.error (.ofFault fault), { s with peer })

/-- Write parts that have no used-up part in front. -/
def writeParts (s : Socket) (parts : List Octets) : Except SocketError Unit × Socket :=
  if parts.isEmpty then (.ok (), s)
  else
    match took : s.peer.offer parts.flatten with
    | (.error fault, peer) => (.error (.ofFault fault), { s with peer })
    | (.ok 0, peer) => (.error .closed, { s with peer })
    | (.ok (n + 1), peer) =>
      writeParts { peer, bytesWritten := s.bytesWritten + (n + 1) } (advance (n + 1) parts)
termination_by parts.flatten.length
decreasing_by
  have := Peer.offer_le took
  rw [flatten_advance, List.length_drop]
  omega

section WriteParts

variable {s : Socket} {peer : Peer} {parts : List Octets}

theorem writeParts_nil (s : Socket) : s.writeParts [] = (.ok (), s) := by
  rw [writeParts]
  rfl

theorem writeParts_of_fault {fault : PeerFault} (some_left : parts ≠ [])
    (took : s.peer.offer parts.flatten = (.error fault, peer)) :
    s.writeParts parts = (.error (.ofFault fault), { s with peer }) := by
  rw [writeParts, if_neg (by simpa using some_left)]
  split <;> simp_all

theorem writeParts_of_none (some_left : parts ≠ [])
    (took : s.peer.offer parts.flatten = (.ok 0, peer)) :
    s.writeParts parts = (.error .closed, { s with peer }) := by
  rw [writeParts, if_neg (by simpa using some_left)]
  split <;> simp_all

theorem writeParts_of_some {n : Nat} (some_left : parts ≠ [])
    (took : s.peer.offer parts.flatten = (.ok (n + 1), peer)) :
    s.writeParts parts =
      writeParts { peer, bytesWritten := s.bytesWritten + (n + 1) } (advance (n + 1) parts) := by
  rw [writeParts, if_neg (by simpa using some_left)]
  split <;> simp_all

end WriteParts

/-- Write parts one after the other, several at a time where the peer takes them. -/
def writeGathered (s : Socket) (parts : List Octets) : Except SocketError Unit × Socket :=
  s.writeParts (advance 0 parts)

def flush (s : Socket) : Except SocketError Unit :=
  match s.peer.flushFault with
  | some fault => .error (.ofFault fault)
  | none => .ok ()

/-- Flush, and then end the writing side. -/
def close (s : Socket) : Except SocketError Unit × Socket :=
  match s.flush with
  | .error e => (.error e, s)
  | .ok () => (.ok (), { s with peer := { s.peer with shutdowns := s.peer.shutdowns + 1 } })

/-- Read once into a buffer, as much as it has room for. -/
def read (s : Socket) (buffer : ReadBuffer) : ReadResult × ReadBuffer × Socket :=
  let buffer := buffer.grown
  match s.peer.take buffer.room with
  | (.data bytes, peer) => (.read bytes.length, buffer.append bytes, { s with peer })
  | (.fault fault, peer) => (.failed (.ofFault fault), buffer, { s with peer })
  | (.silence, peer) => (.silent, buffer, { s with peer })

theorem pending_read {s s' : Socket} {buffer buffer' : ReadBuffer} {n : Nat}
    (took : s.read buffer = (.read (n + 1), buffer', s')) : s'.peer.pending < s.peer.pending := by
  simp only [read] at took
  split at took
  · next bytes peer taken =>
    simp only [Prod.mk.injEq, ReadResult.read.injEq] at took
    obtain ⟨count, -, rfl⟩ := took
    exact Peer.pending_take taken (List.length_pos_iff.1 (by omega))
  · simp at took
  · simp at took

end Socket

end Signpost
