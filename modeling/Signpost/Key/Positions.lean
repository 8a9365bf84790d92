import Signpost.Key.Width
import Signpost.Key.Basic

/-!
# Choosing positions

The positions of a key are the offsets at which a set of start lines differs
most.  An offset is weighed by the number of distinct octets found there.  The
choice goes through all counts and takes the free offset of the greatest one,
the lowest offset among equals, clears its count, and starts over until the
width is reached.
-/

namespace Signpost.Positions

/-- The number of distinct octets that the sources carry at an offset. -/
def variety (sources : List Octets) (offset : Nat) : Nat :=
  (sources.map fun source => octetAt source offset).eraseDups.length

/-- The best offset so far with its count, or a further one if its count is greater. -/
def better (best : Option (Nat × Nat)) (offset count : Nat) : Nat × Nat :=
  match best with
  | none => (offset, count)
  | some (first, most) => if count ≤ most then (first, most) else (offset, count)

/-- Compare an offset with the best one so far, unless it is taken. -/
def consider (taken : List Nat) (best : Option (Nat × Nat)) : Nat × Nat → Option (Nat × Nat)
  | (count, offset) => if taken.contains offset then best else some (better best offset count)

/-- The best offset that is not taken, with its count. -/
def best? (counts taken : List Nat) : Option (Nat × Nat) :=
  counts.zipIdx.foldl (consider taken) none

/-- Take the best offset that is left, a number of times, behind those that are taken. -/
def choose : Nat → List Nat → List Nat → List Nat
  | 0, _, taken => taken
  | rounds + 1, counts, taken =>
    match best? counts taken with
    | none => taken
    | some (offset, _) => choose rounds (counts.set offset 0) (taken ++ [offset])

/-- The positions a key of the given width samples to tell the sources apart. -/
def select (sources : List Octets) (width : KeyWidth) : List Nat :=
  choose width.octets ((List.range keyLimit).map (variety sources)) []

end Signpost.Positions
