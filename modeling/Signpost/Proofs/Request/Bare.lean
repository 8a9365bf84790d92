import Signpost.Proofs.Request.Grammar

/-!
# Requests that are no more than a line

The shortest request for a path is a start line and the blank line behind it.  It is
read if the path starts with a slash, is clean, and has no more segments than a request
may have (`parse_bare`).  A path is clean if it holds no blank and no control character,
and none of the marks that a path ends at.  One that is not clean stands in no start
line, however a request is written, and up to letter case as well
(`clean_of_key_startLine`).
-/

namespace Signpost

open Octets (space slash headEnd)

/-- No path of a request holds it: the space, the control codes and the marks before a query and a
fragment. -/
def Octet.isBarred (b : UInt8) : Bool := b == space || isControl b || b == 0x3F || b == 0x23

namespace Octets

def Clean (bytes : Octets) : Prop := ∀ b ∈ bytes, Octet.isBarred b = false

instance (bytes : Octets) : Decidable bytes.Clean :=
  decidable_of_iff (bytes.all (!Octet.isBarred ·) = true) (by simp [Clean])

theorem clean_append {a b : Octets} : Clean (a ++ b) ↔ a.Clean ∧ b.Clean :=
  List.forall_mem_append

theorem clean_flatMap_slash {parts : List Octets} :
    Clean (parts.flatMap (slash :: ·)) ↔ ∀ part ∈ parts, part.Clean := by
  rw [Clean, List.forall_mem_flatMap]
  refine forall₂_congr fun part _ => ?_
  exact List.forall_mem_cons.trans (and_iff_right (by decide))

end Octets

theorem Octet.isBarred_lower (b : UInt8) : isBarred (lower b) = isBarred b := by
  have all : ∀ n < 256, isBarred (lower (UInt8.ofNat n)) = isBarred (UInt8.ofNat n) := by
    decide +kernel
  rw [← UInt8.ofNat_toNat (x := b)]
  exact all b.toNat b.toNat_lt

theorem CaseMode.clean_key_iff (mode : CaseMode) (bytes : Octets) :
    (mode.key bytes).Clean ↔ bytes.Clean := by
  cases mode with
  | sensitive => exact Iff.rfl
  | insensitive =>
    rw [key, Octets.lower, Octets.Clean, List.forall_mem_map]
    simp only [Octet.isBarred_lower]
    exact Iff.rfl

namespace Request

theorem parts_of_clean {path : Octets} (clean : path.Clean) :
    ∀ b ∈ path, b ≠ space ∧ Octet.isControl b = false ∧ b ≠ 0x3F ∧ b ≠ 0x23 := by
  intro b mem
  simpa [Octet.isBarred, and_assoc] using clean b mem

/-- A clean path as a target. -/
def Target.ofPath (path : Octets) (clean : path.Clean) : Target where
  path
  query := none
  fragment := none
  path_free :=
    ⟨fun mem => (parts_of_clean clean _ mem).2.2.2 rfl,
      fun mem => (parts_of_clean clean _ mem).2.2.1 rfl⟩
  query_free := nofun

theorem Target.octets_ofPath {path : Octets} (clean : path.Clean) :
    (Target.ofPath path clean).octets = path := by
  rw [octets, ofPath, Octets.marked, Octets.marked, List.append_nil, List.append_nil]

/-- A request that spells its start line and nothing else. -/
def Spelling.bare (method : Method) (path : Octets) (version : Version)
    (rooted : path.head? = some slash) (clean : path.Clean)
    (few : (fullPieces slash path).length ≤ maxSegments) : Spelling where
  method
  target := .ofPath path clean
  version
  fields := []
  body := []
  admitted := by
    rw [Target.octets_ofPath]
    exact fun b mem => ⟨(parts_of_clean clean b mem).1, (parts_of_clean clean b mem).2.1⟩
  origin := by
    rw [Target.octets_ofPath]
    exact .inl rooted
  segments := few
  room := Nat.zero_le _
  unbroken := nofun

/-- What is read of a start line alone. -/
def bare (method : Method) (path : Octets) (version : Version) : Request where
  method
  version
  startLine := lineOf method path version
  path
  queryOctets := none
  segments := fullPieces slash path
  headers := []
  headLength := (lineOf method path version).length + headEnd.length
  body := []

/-- A clean path is read as it stands. -/
theorem parse_bare {path : Octets} (rooted : path.head? = some slash) (clean : path.Clean)
    (few : (fullPieces slash path).length ≤ maxSegments) (method : Method) (version : Version) :
    parse (lineOf method path version ++ headEnd) = .ok (some (bare method path version)) := by
  let spelling := Spelling.bare method path version rooted clean few
  have head : spelling.head = lineOf method path version :=
    congrArg (lineOf method · version) (Target.octets_ofPath clean)
  refine parse_eq_some_iff.mpr ⟨spelling, ?_, ?_⟩
  · rw [Spelling.octets, head]
    exact List.append_nil _
  · rw [Spelling.request, head]
    rfl

/-- No path holds what ends it. -/
theorem Spelling.clean_path (s : Spelling) : s.target.path.Clean := by
  intro b mem
  have inside : b ∈ s.target.octets := by
    rw [Target.octets, List.append_assoc]
    exact List.mem_append_left _ mem
  obtain ⟨blank, control⟩ := s.admitted b inside
  have query : b ≠ 0x3F := fun eq => s.target.path_free.2 (eq ▸ mem)
  have fragment : b ≠ 0x23 := fun eq => s.target.path_free.1 (eq ▸ mem)
  simp [Octet.isBarred, blank, control, query, fragment]

/-- A path that is the one of a start line, up to what is compared, is clean. -/
theorem clean_of_key_startLine {bytes path : Octets} {request : Request} {mode : CaseMode}
    {method : Method} {version : Version} (read : parse bytes = .ok (some request))
    (same : mode.key request.startLine = mode.key (lineOf method path version)) : path.Clean := by
  obtain ⟨s, rfl, rfl⟩ := parse_eq_some_iff.mp read
  obtain ⟨_, _, paths⟩ := (key_lineOf_eq_iff mode).mp same
  rw [← mode.clean_key_iff, ← paths, mode.clean_key_iff]
  exact s.clean_path

end Request

end Signpost
