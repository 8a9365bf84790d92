import Signpost.Proofs.Connection.Reads

/-!
# Where a peer stops

A peer sends data until it stops: it closes, or fails, or nothing comes any
more.  So a script is the data that a connection brings in, its `opening`, and
what the next read meets behind it, its `stop`.  While there is data, what
follows it makes no difference to a read (`Socket.read_followed`).
-/

namespace Signpost

/-- The data that a peer sends before it stops. -/
def opening : List Arrival → List Octets
  | .data bytes :: rest => if bytes.isEmpty then [] else bytes :: opening rest
  | _ => []

/-- What is left of a script from where the peer stops. -/
def stop : List Arrival → List Arrival
  | .data bytes :: rest => if bytes.isEmpty then .data bytes :: rest else stop rest
  | script => script

theorem full_opening (script : List Arrival) : [] ∉ opening script := by
  induction script with
  | nil => exact List.not_mem_nil
  | cons arrival rest ih =>
    cases arrival with
    | data bytes =>
      rw [opening]
      split
      · exact List.not_mem_nil
      · next full =>
        rw [List.mem_cons, not_or]
        exact ⟨fun empty => full (by rw [← empty]; rfl), ih⟩
    | fault fault => exact List.not_mem_nil
    | silence => exact List.not_mem_nil

theorem opening_append_stop (script : List Arrival) :
    (opening script).map .data ++ stop script = script := by
  induction script with
  | nil => rfl
  | cons arrival rest ih =>
    cases arrival with
    | data bytes =>
      rw [opening, stop]
      split
      · rfl
      · rw [List.map_cons, List.cons_append, ih]
    | fault fault => rfl
    | silence => rfl

/-- What a read meets where a peer stops. -/
inductive Stops : List Arrival → Prop
  | closed : Stops []
  | empty {rest : List Arrival} : Stops (.data [] :: rest)
  | fault {fault : PeerFault} {rest : List Arrival} : Stops (.fault fault :: rest)
  | silence {rest : List Arrival} : Stops (.silence :: rest)

theorem stops_stop (script : List Arrival) : Stops (stop script) := by
  induction script with
  | nil => exact .closed
  | cons arrival rest ih =>
    cases arrival with
    | data bytes =>
      rw [stop]
      split
      · next empty =>
        rw [List.isEmpty_iff.mp empty]
        exact .empty
      · exact ih
    | fault fault => exact .fault
    | silence => exact .silence

namespace Socket

/-- The octets that come in until the peer stops. -/
def incoming (s : Socket) : Octets := (opening s.peer.script).flatten

/-- The connection with more to come behind what the peer still has to send. -/
def followed (s : Socket) (more : List Arrival) : Socket := s.withScript (s.peer.script ++ more)

theorem read_followed {s s' : Socket} {buffer buffer' : ReadBuffer} {result : ReadResult}
    (some_left : s.peer.script ≠ []) (took : s.read buffer = (result, buffer', s'))
    (more : List Arrival) :
    (s.followed more).read buffer = (result, buffer', s'.followed more) := by
  obtain ⟨arrival, rest, script⟩ := List.exists_cons_of_ne_nil some_left
  cases arrival with
  | data bytes =>
    simp only [read, followed, withScript, Peer.withScript, Peer.take, script, Prod.mk.injEq,
      List.cons_append] at took ⊢
    obtain ⟨rfl, rfl, rfl⟩ := took
    refine ⟨rfl, rfl, ?_⟩
    cases (bytes.drop buffer.grown.room).isEmpty with
    | true => rfl
    | false => rfl
  | fault fault =>
    simp only [read, followed, withScript, Peer.withScript, Peer.take, script, Prod.mk.injEq,
      List.cons_append] at took ⊢
    obtain ⟨rfl, rfl, rfl⟩ := took
    exact ⟨rfl, rfl, rfl⟩
  | silence =>
    simp only [read, followed, withScript, Peer.withScript, Peer.take, script, Prod.mk.injEq,
      List.cons_append] at took ⊢
    obtain ⟨rfl, rfl, rfl⟩ := took
    refine ⟨rfl, rfl, ?_⟩
    rw [script]
    rfl

/-- While parts are left a read takes some octets off their front. -/
theorem exists_read_followed (s : Socket) (buffer : ReadBuffer) {parts : List Octets}
    (full : [] ∉ parts) (some_left : parts ≠ []) (more : List Arrival) :
    ∃ (b : UInt8) (got : Octets) (later : List Octets),
      [] ∉ later ∧ (b :: got) ++ later.flatten = parts.flatten ∧
        ((s.sending parts).followed more).read buffer =
          (.read (got.length + 1), buffer.grown.append (b :: got),
            (s.sending later).followed more) := by
  obtain ⟨got, later, got_full, later_full, whole, took⟩ :=
    s.exists_read_parts buffer full some_left
  obtain ⟨b, got, rfl⟩ := List.exists_cons_of_ne_nil got_full
  have unread : (s.sending parts).peer.script ≠ [] := mt List.map_eq_nil_iff.mp some_left
  exact ⟨b, got, later, later_full, whole, read_followed unread took more⟩

/-- Every connection sends data up to where its peer stops. -/
theorem sending_opening (s : Socket) :
    (s.sending (opening s.peer.script)).followed (stop s.peer.script) = s := by
  have whole : (s.sending (opening s.peer.script)).followed (stop s.peer.script) =
      s.withScript ((opening s.peer.script).map .data ++ stop s.peer.script) := rfl
  rw [whole, opening_append_stop]
  rfl

end Socket

end Signpost
