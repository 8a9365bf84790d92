import Signpost.Proofs.Request.Bare
import Signpost.Proofs.Text.Lines

/-!
# A request by the offsets of its parts

A reader that keeps the octets it was given can hand out slices of them.  It takes the first line
as the start line where the path ends right before the version, and writes a line only where
something was left out; and it counts the offsets of the segments on from piece to piece.  What it
hands out is what `Request.parse` does (`Request.Spelling.slicedLine_eq`,
`Request.Spelling.slicedSegments_eq`).  Either way the start line is made of the method, the path
and the version, and it determines all three (`Request.startLine_determines`).
-/

namespace Signpost

open Octets (space slash crlf headEnd)

namespace Octets

/-- The octets from one offset up to another. -/
def slice (bytes : Octets) (start stop : Nat) : Octets := (bytes.take stop).drop start

theorem slice_append (front part back : Octets) :
    (front ++ part ++ back).slice front.length (front.length + part.length) = part := by
  rw [slice, ← List.length_append, List.take_left, List.drop_left]

/-- The offsets of all pieces that are not empty.  The first piece stands at a given offset, and one
octet separates each piece from the next. -/
def spans : Nat → List Octets → List (Nat × Nat)
  | _, [] => []
  | offset, piece :: rest =>
    let later := spans (offset + (piece.length + 1)) rest
    if piece.isEmpty then later else (offset, offset + piece.length) :: later

/-- The offsets stay aligned with the pieces. -/
theorem map_slice_spans (sep : UInt8) {parts : List Octets} (some_part : parts ≠ [])
    (front back : Octets) :
    (spans front.length parts).map
        (fun span => (front ++ joined [sep] parts ++ back).slice span.1 span.2) =
      parts.filter fun part => !part.isEmpty := by
  -- On the pieces: those gone through, with their separators, belong to the front.
  induction parts generalizing front with
  | nil => exact absurd rfl some_part
  | cons part rest ih =>
    have later : (spans (front.length + (part.length + 1)) rest).map
        (fun span => (front ++ joined [sep] (part :: rest) ++ back).slice span.1 span.2) =
          rest.filter fun part => !part.isEmpty := by
      cases rest with
      | nil => rfl
      | cons next more =>
        have onward := ih (List.cons_ne_nil next more) (front ++ part ++ [sep])
        have count : (front ++ part ++ [sep]).length = front.length + (part.length + 1) := by
          rw [List.length_append, List.length_append, List.length_singleton, Nat.add_assoc]
        rw [count] at onward
        rw [joined_cons (List.cons_ne_nil next more)]
        simpa only [List.append_assoc] using onward
    have own : (front ++ joined [sep] (part :: rest) ++ back).slice front.length
        (front.length + part.length) = part := by
      cases rest with
      | nil => exact slice_append front part back
      | cons next more =>
        have first := slice_append front part ([sep] ++ joined [sep] (next :: more) ++ back)
        rw [joined_cons (List.cons_ne_nil next more)]
        simpa only [List.append_assoc] using first
    rw [spans, List.filter_cons]
    cases part with
    | nil => exact later
    | cons b more => exact List.cons_eq_cons.mpr ⟨own, later⟩

end Octets

namespace Request

/-- What stands before the first line end. -/
def firstLine (bytes : Octets) : Octets :=
  match cutMark? crlf bytes with
  | some (line, _) => line
  | none => bytes

/-- Where the path starts among the octets of a request: behind the method and a space. -/
def pathStart (r : Request) : Nat := r.method.wire.length + 1

def pathEnd (r : Request) : Nat := r.pathStart + r.path.length

/-- The start line as a slice where the path ends right before the version, with the space between;
otherwise what stands up to the end of the path, with the version written behind it. -/
def slicedLine (r : Request) (bytes : Octets) : Octets :=
  let lineEnd := (firstLine bytes).length
  if r.pathEnd = lineEnd - r.version.wire.length - 1 then bytes.slice 0 lineEnd
  else bytes.slice 0 r.pathEnd ++ space :: r.version.wire

/-- The segments as slices, by the offsets of the pieces of the path. -/
def slicedSegments (r : Request) (bytes : Octets) : List Octets :=
  (Octets.spans r.pathStart (pieces slash (bytes.slice r.pathStart r.pathEnd))).map
    fun span => bytes.slice span.1 span.2

namespace Spelling

/-- What stands on the start line before the path. -/
def opening (s : Spelling) : Octets := s.method.wire ++ [space]

theorem length_opening (s : Spelling) : s.opening.length = s.request.pathStart := by
  rw [opening, List.length_append, List.length_singleton]
  rfl

/-- A request starts with its line and a line end. -/
theorem exists_octets_eq (s : Spelling) :
    ∃ rest, s.octets = lineOf s.method s.target.octets s.version ++ (crlf ++ rest) :=
  Octets.exists_joined_headEnd _ _ s.body

theorem firstLine_octets (s : Spelling) :
    firstLine s.octets = lineOf s.method s.target.octets s.version := by
  obtain ⟨rest, eq⟩ := s.exists_octets_eq
  have cut := cutMark?_append_mark s.return_not_mem_lineOf [0x0A] rest
  rw [firstLine, eq, crlf, cut]

/-- The path stands between the opening of the line and what was sent behind it. -/
theorem exists_octets_eq_path (s : Spelling) :
    ∃ behind, s.octets = s.opening ++ s.target.path ++ behind := by
  obtain ⟨rest, eq⟩ := s.exists_octets_eq
  rw [eq, lineOf, opening, Target.octets]
  exact ⟨_, by simp only [List.append_assoc, List.cons_append, List.nil_append]; rfl⟩

theorem slice_path (s : Spelling) :
    s.octets.slice s.request.pathStart s.request.pathEnd = s.target.path := by
  obtain ⟨behind, eq⟩ := s.exists_octets_eq_path
  rw [eq, pathEnd, ← s.length_opening]
  exact Octets.slice_append s.opening s.target.path behind

/-- The path ends right before the version exactly if it is all of the target. -/
theorem pathEnd_eq_iff (s : Spelling) :
    s.request.pathEnd = (firstLine s.octets).length - s.version.wire.length - 1 ↔
      s.target.octets = s.target.path := by
  have line : (firstLine s.octets).length =
      s.request.pathStart + s.target.octets.length + 1 + s.version.wire.length := by
    rw [s.firstLine_octets, ← s.length_opening]
    simp only [lineOf, opening, List.length_append, List.length_cons, List.length_nil]
    omega
  have path : s.request.pathEnd = s.request.pathStart + s.target.path.length := rfl
  rw [line, path]
  constructor
  · intro reaches
    have same : s.target.path.length = s.target.octets.length := by omega
    have starts : s.target.path <+: s.target.octets := by
      rw [Target.octets, List.append_assoc]
      exact List.prefix_append _ _
    exact (starts.eq_of_length same).symm
  · intro whole
    rw [whole]
    omega

/-- The slice and the line that is written in its place are the same line. -/
theorem slicedLine_eq (s : Spelling) :
    s.request.slicedLine s.octets = lineOf s.method s.target.path s.version := by
  unfold slicedLine
  dsimp only
  split
  · next reaches =>
    obtain ⟨rest, eq⟩ := s.exists_octets_eq
    have whole := s.pathEnd_eq_iff.mp reaches
    rw [s.firstLine_octets, Octets.slice, List.drop_zero, eq, List.take_left, whole]
  · obtain ⟨behind, eq⟩ := s.exists_octets_eq_path
    have count : s.request.pathEnd = (s.opening ++ s.target.path).length := by
      rw [List.length_append, s.length_opening]
      rfl
    rw [Octets.slice, List.drop_zero, eq, count, List.take_left, opening, lineOf]
    simp only [List.append_assoc, List.cons_append, List.nil_append]
    rfl

theorem slicedSegments_eq (s : Spelling) :
    s.request.slicedSegments s.octets = fullPieces slash s.target.path := by
  obtain ⟨behind, eq⟩ := s.exists_octets_eq_path
  have aligned := Octets.map_slice_spans slash (pieces_ne_nil slash s.target.path) s.opening behind
  rw [joined_pieces, ← eq, s.length_opening] at aligned
  rw [slicedSegments, s.slice_path]
  exact aligned

end Spelling

/-- The parts of a request that it is routed by, as they stand among its octets. -/
structure Keyed (r : Request) (bytes : Octets) : Prop where
  line : r.startLine = r.method.wire ++ [space] ++ r.path ++ [space] ++ r.version.wire
  line_sliced : r.startLine = r.slicedLine bytes
  path_sliced : r.path = bytes.slice r.pathStart r.pathEnd
  path_clean : ∀ b ∈ r.path, b ≠ space ∧ Octet.isControl b = false ∧ b ≠ 0x3F ∧ b ≠ 0x23
  /-- The segments are what stands between the slashes of the path, where something does. -/
  segments : ∃ parts, parts ≠ [] ∧ (∀ part ∈ parts, slash ∉ part) ∧
    joined [slash] parts = r.path ∧ r.segments = parts.filter fun part => !part.isEmpty
  segments_sliced : r.segments = r.slicedSegments bytes

theorem Spelling.keyed (s : Spelling) : s.request.Keyed s.octets where
  line := by simp [request, lineOf]
  line_sliced := s.slicedLine_eq.symm
  path_sliced := s.slice_path.symm
  path_clean := parts_of_clean s.clean_path
  segments := ⟨pieces slash s.target.path, pieces_ne_nil slash _, fun _ => not_mem_of_mem_pieces,
    joined_pieces slash _, rfl⟩
  segments_sliced := s.slicedSegments_eq.symm

/-- Whatever a request carries besides, its start line is its method, its path and its version, and
requests have the same start line exactly if they have the same three. -/
theorem startLine_determines {bytes : Octets} {r : Request} (read : parse bytes = .ok (some r)) :
    r.Keyed bytes ∧
      ∀ (bytes' : Octets) (r' : Request), parse bytes' = .ok (some r') →
        (r.startLine = r'.startLine ↔
          r.method = r'.method ∧ r.path = r'.path ∧ r.version = r'.version) := by
  obtain ⟨s, rfl, rfl⟩ := parse_eq_some_iff.mp read
  refine ⟨s.keyed, fun bytes' r' read' => ?_⟩
  obtain ⟨s', rfl, rfl⟩ := parse_eq_some_iff.mp read'
  have lines : s.request.startLine = s'.request.startLine ↔ s.method = s'.method ∧
      s.version = s'.version ∧ s.target.path = s'.target.path :=
    key_lineOf_eq_iff .sensitive
  exact lines.trans (and_congr_right fun _ => and_comm)

/-- The padded request is routed like the bare one for its path. -/
theorem startLine_determines_padded :
    parse paddedSpelling.octets = .ok (some paddedSpelling.request) ∧
      paddedSpelling.request.slicedLine paddedSpelling.octets = Octets.ofText "GET /a HTTP/1.1" ∧
      paddedSpelling.request.startLine = (bare .get (Octets.ofText "/a") .http11).startLine := by
  have read : parse paddedSpelling.octets = .ok (some paddedSpelling.request) :=
    parse_eq_some_iff.mpr ⟨paddedSpelling, rfl, rfl⟩
  have other : parse (lineOf .get (Octets.ofText "/a") .http11 ++ headEnd) =
      .ok (some (bare .get (Octets.ofText "/a") .http11)) :=
    parse_bare rfl (by decide) (by decide) .get .http11
  obtain ⟨keyed, determines⟩ := startLine_determines read
  exact ⟨read, keyed.line_sliced.symm.trans (by decide),
    (determines _ _ other).mpr ⟨rfl, rfl, rfl⟩⟩

end Request

end Signpost
