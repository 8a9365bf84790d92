import Signpost.Proofs.Connection.Script

/-!
# Reading a script of data

A peer that sends data and then closes has a script of non-empty parts.  While
there are parts a read takes some octets off the front of what is left, never
none, and leaves a script of non-empty parts again (`exists_read_parts`).
-/

namespace Signpost

namespace ReadBuffer

theorem grown_bytes (b : ReadBuffer) : b.grown.bytes = b.bytes := by
  rw [grown]
  split <;> rfl

/-- A buffer is read into with room to spare. -/
theorem grown_room_pos (b : ReadBuffer) : 0 < b.grown.room := by
  rw [grown, room]
  split
  · next roomy => omega
  · have enough := Nat.le_max_right (2 * b.capacity) (b.bytes.length + minGrowth)
    simp only [minGrowth] at enough ⊢
    omega

theorem reserve_bytes (b : ReadBuffer) (total : Nat) : (b.reserve total).bytes = b.bytes := by
  rw [reserve]
  split <;> rfl

end ReadBuffer

namespace Socket

/-- A connection whose peer sends the given parts and then closes. -/
def sending (s : Socket) (parts : List Octets) : Socket := s.withScript (parts.map .data)

theorem exists_read_parts (s : Socket) (buffer : ReadBuffer) {parts : List Octets}
    (full : [] ∉ parts) (some_left : parts ≠ []) :
    ∃ (got : Octets) (later : List Octets),
      got ≠ [] ∧ [] ∉ later ∧ got ++ later.flatten = parts.flatten ∧
        (s.sending parts).read buffer =
          (.read got.length, buffer.grown.append got, s.sending later) := by
  obtain ⟨part, rest, rfl⟩ := List.exists_cons_of_ne_nil some_left
  have part_full : part ≠ [] := fun empty => full (by simp [empty])
  have rest_full : [] ∉ rest := fun member => full (List.mem_cons_of_mem _ member)
  have room := buffer.grown_room_pos
  have got_full : part.take buffer.grown.room ≠ [] := by
    rw [ne_eq, List.take_eq_nil_iff, not_or]
    exact ⟨Nat.ne_of_gt room, part_full⟩
  by_cases fits : part.drop buffer.grown.room = []
  · refine ⟨part.take buffer.grown.room, rest, got_full, rest_full, ?_, ?_⟩
    · have whole := List.take_append_drop buffer.grown.room part
      rw [fits, List.append_nil] at whole
      rw [whole, List.flatten_cons]
    · simp only [read, sending, withScript, Peer.withScript, Peer.take, List.map_cons, fits,
        List.isEmpty_nil, if_true]
  · refine ⟨part.take buffer.grown.room, part.drop buffer.grown.room :: rest, got_full, ?_, ?_, ?_⟩
    · intro member
      rcases List.mem_cons.mp member with empty | later
      · exact fits empty.symm
      · exact rest_full later
    · rw [List.flatten_cons, List.flatten_cons, ← List.append_assoc, List.take_append_drop]
    · have more : (part.drop buffer.grown.room).isEmpty = false := by
        rw [← Bool.not_eq_true, List.isEmpty_iff]
        exact fits
      simp only [read, sending, withScript, Peer.withScript, Peer.take, List.map_cons, more,
        Bool.false_eq_true, if_false]

end Socket

end Signpost
