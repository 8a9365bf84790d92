import Signpost.Octets
import Signpost.Text.Numeral

/-!
# Route keys

A start line is read as a form of 64 octets, zeros standing past its end.  A
route key is the octets of that form at a list of positions.  For hashing, a
key is folded into one 128-bit word.
-/

namespace Signpost

/-- The length of the form that keys are sampled from, and the most octets a key holds. -/
def keyLimit : Nat := 64

/-- The octet at an offset, zero past the end. -/
def octetAt (source : Octets) (offset : Nat) : UInt8 := source[offset]?.getD 0

/-- The octets sampled from a start line. -/
structure RouteKey where
  sample : Octets
  length_le : sample.length ≤ keyLimit
  deriving DecidableEq

namespace RouteKey

/-- Sample a source at the first 64 of the given positions. -/
def ofSource (source : Octets) (positions : List Nat) : RouteKey where
  sample := (positions.take keyLimit).map (octetAt source)
  length_le := by
    rw [List.length_map, List.length_take]
    exact Nat.min_le_left _ _

/-- The value of an octet string, most significant octet first. -/
def bigEndian (lane : Octets) : Nat := lane.foldl (fun value b => value * 256 + b.toNat) 0

/-- The 16-octet lanes of a sample; the last may be shorter. -/
def lanes (sample : Octets) : List Octets :=
  if sample.isEmpty then []
  else sample.take 16 :: lanes (sample.drop 16)
termination_by sample.length
decreasing_by
  have : sample ≠ [] := by simpa using ‹¬sample.isEmpty = true›
  have := List.length_pos_iff.2 this
  simp only [List.length_drop]
  omega

/-- How far each lane is turned against the one before it. -/
def laneTurn : Nat := 29

/-- The exclusive or of all lanes, each turned left by its own amount. -/
def foldLanes : Nat → List Octets → BitVec 128
  | _, [] => 0
  | turn, lane :: rest =>
    (BitVec.ofNat 128 (bigEndian lane)).rotateLeft turn ^^^ foldLanes (turn + laneTurn) rest

/-- The word a key is hashed by.  Up to 16 octets it is their big-endian value. -/
def fold (key : RouteKey) : BitVec 128 := foldLanes 0 (lanes key.sample)

/-- The sampled octets in hexadecimal. -/
def render (key : RouteKey) : String := "RouteKey(0x" ++ Numeral.hexOctets key.sample ++ ")"

end RouteKey

end Signpost
