import Signpost.Proofs.Octets
import Signpost.Proofs.Response.Wire
import Signpost.Proofs.Text.Marks

/-!
# Chunked bodies as a client reads them

A client reads a chunked body frame by frame (`ChunkedBody.read`): a length in
hexadecimal digits on a line of its own, as many octets as it says, and a line end.
A frame of length zero ends the body.  A line end among the octets of a chunk is
passed over with them, so chunks may hold anything.

* `ChunkedBody.read_frame` is the step: what a client makes of one frame.
* `ChunkedBody.read_frames`: frames are read as what was framed, wherever chunks are
  empty.
* `Chunks.read_write`: a body that is written whole is read to its end and no further;
  one whose source fails is read as unended, with nothing left over.
-/

namespace Signpost

open Octets (crlf)

namespace Octets

/-- Take in one more hexadecimal digit. -/
def pushHex (value : Nat) (b : UInt8) : Option Nat :=
  (Octet.hexValue? b).map (value * 16 + ·)

/-- The number that is written in hexadecimal digits, one at least. -/
def hexNumber? (digits : Octets) : Option Nat :=
  if digits.isEmpty then none else digits.foldlM pushHex 0

end Octets

/-- What a client makes of octets that start with a chunked body. -/
inductive ChunkedBody where
  /-- The body, and the octets behind its end. -/
  | ended (body rest : Octets)
  /-- The octets stop before the end of the body; the rest of them make no whole frame. -/
  | unended (body rest : Octets)
  | malformed
  deriving DecidableEq

namespace ChunkedBody

/-- What is read when a chunk has been read before. -/
def behind (chunk : Octets) : ChunkedBody → ChunkedBody
  | ended body rest => ended (chunk ++ body) rest
  | unended body rest => unended (chunk ++ body) rest
  | malformed => malformed

/-- Read frames up to one of length zero. -/
def read (bytes : Octets) : ChunkedBody :=
  match _cut : cutMark? crlf bytes with
  | none => unended [] bytes
  | some (line, after) =>
    match Octets.hexNumber? line with
    | none => malformed
    | some size =>
      if after.length < size + crlf.length then unended [] bytes
      else if (after.drop size).take crlf.length != crlf then malformed
      else if size == 0 then ended [] (after.drop (size + crlf.length))
      else (read (after.drop (size + crlf.length))).behind (after.take size)
termination_by bytes.length
decreasing_by
  have whole := congrArg List.length (eq_append_of_cutMark? _cut)
  have mark : crlf.length = 2 := rfl
  simp only [List.length_append, List.length_drop] at whole ⊢
  omega

theorem behind_behind (first second : Octets) (read : ChunkedBody) :
    (read.behind second).behind first = read.behind (first ++ second) := by
  cases read <;> simp [behind]

theorem behind_nil (read : ChunkedBody) : read.behind [] = read := by
  cases read <;> rfl

end ChunkedBody

/-! ## Lengths -/

namespace Numeral

/-- The digits of a number are those of its sixteenth with one more behind them. -/
theorem hex_eq (n : Nat) : ∃ digit, Octets.ofText (hex n) =
    (if n < 16 then [] else Octets.ofText (hex (n / 16))) ++ [digit] ∧
      digit ≠ 0x0D ∧ Octet.hexValue? digit = some (n % 16) := by
  have written : ∀ d < 16, ∃ digit, String.utf8EncodeChar (Nat.digitChar d) = [digit] ∧
      digit ≠ 0x0D ∧ Octet.hexValue? digit = some d := by
    intro d small
    refine ⟨UInt8.ofNat (Nat.digitChar d).toNat, ?_⟩
    revert d
    decide
  obtain ⟨digit, own, other, value⟩ := written (n % 16) (Nat.mod_lt n (by decide))
  refine ⟨digit, ?_, other, value⟩
  rw [Octets.ofText, hex, String.toList_ofList, Nat.toDigits_eq_if (by decide)]
  split
  · next small =>
    rw [Nat.mod_eq_of_lt small] at own
    simpa using own
  · rw [List.flatMap_append, Octets.ofText, hex, String.toList_ofList]
    simpa using own

theorem hex_digits (n : Nat) :
    0x0D ∉ Octets.ofText (hex n) ∧ (Octets.ofText (hex n)).foldlM Octets.pushHex 0 = some n := by
  induction n using Nat.strongRecOn with
  | ind n ih =>
    obtain ⟨digit, eq, other, value⟩ := hex_eq n
    -- Below sixteen nothing stands before the last digit, and the sixteenth is zero.
    have before : 0x0D ∉ (if n < 16 then [] else Octets.ofText (hex (n / 16))) ∧
        (if n < 16 then [] else Octets.ofText (hex (n / 16))).foldlM Octets.pushHex 0 =
          some (n / 16) := by
      split
      · next small =>
        rw [Nat.div_eq_of_lt small]
        exact ⟨List.not_mem_nil, rfl⟩
      · exact ih (n / 16) (by omega)
    have last : Octets.pushHex (n / 16) digit = some n := by
      rw [Octets.pushHex, value, Option.map_some, Nat.div_add_mod']
    rw [eq, List.mem_append, List.mem_singleton, not_or, List.foldlM_append, before.2]
    refine ⟨⟨before.1, Ne.symm other⟩, ?_⟩
    simpa using last

theorem hexNumber?_hex (n : Nat) : Octets.hexNumber? (Octets.ofText (hex n)) = some n := by
  obtain ⟨digit, eq, _⟩ := hex_eq n
  have full : ¬(Octets.ofText (hex n)).isEmpty = true := by simp [eq]
  rw [Octets.hexNumber?, if_neg full]
  exact (hex_digits n).2

end Numeral

/-! ## Frames -/

namespace ChunkedBody

/-- A frame is read by its length, whatever is in it. -/
theorem read_frame (chunk rest : Octets) :
    read (Chunks.frame chunk ++ rest) =
      if chunk = [] then ended [] rest else (read rest).behind chunk := by
  have parts : Chunks.frame chunk ++ rest =
      Octets.ofText (Numeral.hex chunk.length) ++ (crlf ++ (chunk ++ (crlf ++ rest))) := by
    simp only [Chunks.frame, Chunks.sizeLine, List.append_assoc]
  have cut : cutMark? crlf (Chunks.frame chunk ++ rest) =
      some (Octets.ofText (Numeral.hex chunk.length), chunk ++ (crlf ++ rest)) := by
    rw [parts]
    exact cutMark?_append_mark (Numeral.hex_digits chunk.length).1 _ _
  have long : ¬(chunk ++ (crlf ++ rest)).length < chunk.length + crlf.length := by
    simp only [List.length_append]
    omega
  have behindFrame : (chunk ++ (crlf ++ rest)).drop (chunk.length + crlf.length) = rest := by
    rw [← List.append_assoc, ← List.length_append, List.drop_left]
  have marked :
      ¬(((chunk ++ (crlf ++ rest)).drop chunk.length).take crlf.length != crlf) = true := by
    rw [List.drop_left, List.take_left]
    simp
  rw [read]
  split
  · next none =>
    rw [cut] at none
    cases none
  · next line after found =>
    rw [cut] at found
    cases found
    rw [Numeral.hexNumber?_hex]
    dsimp only
    rw [if_neg long, if_neg marked, behindFrame, List.take_left]
    simp

theorem read_nil : read [] = unended [] [] := by
  rw [read]
  rfl

end ChunkedBody

/-! ## Bodies -/

namespace Chunks

/-- The frames that chunks go out in. -/
def frames (chunks : List Octets) : Octets := (chunks.filter (!·.isEmpty)).flatMap frame

theorem frames_nil : frames [] = [] := rfl

theorem frames_cons (chunk : Octets) (chunks : List Octets) :
    frames (chunk :: chunks) = (if chunk.isEmpty then [] else frame chunk) ++ frames chunks := by
  unfold frames
  cases empty : chunk.isEmpty <;> simp [empty]

theorem trailer_eq_frame : trailer = frame [] := by
  rw [trailer, frame, sizeLine, List.append_nil]
  rfl

/-- A willing peer gets the frames of chunks, and what follows them is written from there. -/
theorem exists_write_frames (chunks : List Octets) (more : Chunks) {s : Socket}
    (willing : s.peer.policy.Willing) :
    ∃ s', s.Carries (frames chunks) s' ∧ write (chunks.map .ok ++ more) s = write more s' := by
  induction chunks generalizing s with
  | nil => exact ⟨s, .nothing s, rfl⟩
  | cons chunk chunks ih =>
    rw [frames_cons, List.map_cons, List.cons_append]
    by_cases empty : chunk.isEmpty = true
    · rw [write, if_pos empty, if_pos empty]
      exact ih willing
    · obtain ⟨mid, eq, first⟩ :=
        s.exists_writeGathered_of_willing willing [sizeLine chunk, chunk, crlf]
      obtain ⟨last, others, writes⟩ := ih (first.policy ▸ willing)
      have framed : [sizeLine chunk, chunk, crlf].flatten = frame chunk := by simp [frame]
      rw [framed] at first
      rw [if_neg empty, write_of_full empty, thenWrite_sent (by rw [eq]), eq]
      exact ⟨last, first.trans others, writes⟩

end Chunks

/-- Frames are read as the chunks in them, and what follows is read on. -/
theorem ChunkedBody.read_frames (chunks : List Octets) (rest : Octets) :
    read (Chunks.frames chunks ++ rest) = (read rest).behind chunks.flatten := by
  induction chunks with
  | nil => rw [Chunks.frames_nil, List.nil_append, List.flatten_nil, behind_nil]
  | cons chunk chunks ih =>
    rw [Chunks.frames_cons, List.flatten_cons, List.append_assoc]
    by_cases empty : chunk = []
    · rw [empty]
      exact ih
    · have full : ¬chunk.isEmpty = true := by rwa [List.isEmpty_iff]
      rw [if_neg full, read_frame, if_neg empty, ih, behind_behind]

namespace Chunks

/-- A peer that takes what it is offered gets a body in chunks so that a client reads the chunks,
one behind another, and stops at the end of the body.  Where the source fails, the frames of the
chunks before have been written and no more, and a client is left without an end. -/
theorem read_write (chunks : List Octets) {s : Socket} (willing : s.peer.policy.Willing) :
    (∃ sent s', write (chunks.map .ok) s = (.ok (), s') ∧
      s'.peer.received = s.peer.received ++ sent ∧
      ∀ rest, ChunkedBody.read (sent ++ rest) = .ended chunks.flatten rest) ∧
    ∀ message more, ∃ s',
      write (chunks.map .ok ++ .error message :: more) s = (.error (.stream message), s') ∧
      s'.peer.received = s.peer.received ++ frames chunks ∧
      ChunkedBody.read (frames chunks) = .unended chunks.flatten [] := by
  constructor
  · obtain ⟨mid, framed, writes⟩ := exists_write_frames chunks [] willing
    obtain ⟨last, eq, ended⟩ :=
      mid.exists_write_of_willing (framed.policy ▸ willing) trailer
    rw [List.append_nil, write_nil, eq] at writes
    refine ⟨frames chunks ++ trailer, last, writes, (framed.trans ended).received, ?_⟩
    intro rest
    rw [List.append_assoc, ChunkedBody.read_frames, trailer_eq_frame, ChunkedBody.read_frame,
      if_pos rfl, ChunkedBody.behind, List.append_nil]
  · intro message more
    obtain ⟨mid, framed, writes⟩ := exists_write_frames chunks (.error message :: more) willing
    refine ⟨mid, writes, framed.received, ?_⟩
    rw [← List.append_nil (frames chunks), ChunkedBody.read_frames, ChunkedBody.read_nil,
      ChunkedBody.behind, List.append_nil]

/-- Among these chunks is one that looks like the end of a body. -/
def lookalikes : List Octets := [Octets.ofText "hi", [], trailer, Octets.ofText "ho"]

/-- The lookalike goes out and is read as the chunk it is, three octets at a time. -/
theorem read_write_lookalikes :
    let s : Socket := ⟨{ policy := .limited (some 3) none none }, 0⟩
    s.peer.policy.Willing ∧
      ∃ s', write (lookalikes.map .ok) s = (.ok (), s') ∧
        ChunkedBody.read s'.peer.received = .ended (Octets.ofText "hi0\r\n\r\nho") [] := by
  intro s
  have willing : s.peer.policy.Willing := WritePolicy.willing_limited (by decide)
  obtain ⟨⟨sent, s', written, received, read⟩, -⟩ := read_write lookalikes willing
  have body : lookalikes.flatten = Octets.ofText "hi0\r\n\r\nho" := by decide
  refine ⟨willing, s', written, ?_⟩
  rw [received, ← body, ← read [], List.append_nil]
  rfl

end Chunks

end Signpost
