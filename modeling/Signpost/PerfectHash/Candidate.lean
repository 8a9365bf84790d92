import Signpost.Key.Basic

/-!
# Hash candidates

A candidate multiplies the folded key by an odd word, keeps 64 bits of the
128-bit product from a shift on, and reduces them to a slot: by a mask where
the table is a power of two, by the remainder where it has exactly one slot per
key.  A candidate serves a list of keys if all of them get different slots.
-/

namespace Signpost

/-- A multiply-and-shift hash with its reduction to slots. -/
structure HashCandidate where
  multiplier : UInt64
  shift : Nat
  mask : UInt64
  tableSize : Nat
  minimal : Bool
  deriving DecidableEq, Repr

namespace HashCandidate

/-- The product of a folded key and the multiplier, without what is above 128 bits. -/
def product (c : HashCandidate) (word : BitVec 128) : BitVec 128 :=
  word * c.multiplier.toBitVec.setWidth 128

/-- The 64 bits of the product from the shift on. -/
def hashWord (c : HashCandidate) (word : BitVec 128) : UInt64 :=
  UInt64.ofBitVec ((c.product word >>> c.shift).setWidth 64)

def slotOfWord (c : HashCandidate) (word : BitVec 128) : Nat :=
  let hash := c.hashWord word
  if c.minimal then hash.toNat % c.tableSize else (hash &&& c.mask).toNat

def hash (c : HashCandidate) (key : RouteKey) : UInt64 := c.hashWord key.fold

/-- The slot a key is looked for in. -/
def slot (c : HashCandidate) (key : RouteKey) : Nat := c.slotOfWord key.fold

/-- Whether words get slots of the table that differ from each other and from the taken ones. -/
def separatesFrom (c : HashCandidate) (taken : List Nat) : List (BitVec 128) → Bool
  | [] => true
  | word :: rest =>
    let slot := c.slotOfWord word
    slot < c.tableSize && !taken.contains slot && c.separatesFrom (slot :: taken) rest

/-- Whether words get different slots of the table. -/
def separates (c : HashCandidate) (words : List (BitVec 128)) : Bool := c.separatesFrom [] words

end HashCandidate

/-! ## The search space -/

namespace CandidateSearch

/-- The multipliers, in the order they are tried; all odd. -/
def multipliers : List UInt64 :=
  [0x9E3779B97F4A7C15, 0xBF58476D1CE4E5B9, 0x94D049BB133111EB, 0xFF51AFD7ED558CCD,
   0xC4CEB9FE1A85EC53, 0x2545F4914F6CDD1D, 0xD6E8FEB86659FD93, 0x87C37B91114253D5]

/-- The largest table has two to this power slots. -/
def maxTableBits : Nat := 9

/-- How far below the highest shift the search goes. -/
def shiftWindow : Nat := 64

/-- The shifts from a highest one downwards. -/
def shiftsFrom (top : Nat) : List Nat :=
  (List.range (min shiftWindow top + 1)).map fun below => top - below

/-- The number of bits needed to write a number. -/
def bitLength (n : Nat) : Nat := if n = 0 then 0 else n.log2 + 1

/-- The exponent of the least power of two that is at least `n`. -/
def ceilLog2 (n : Nat) : Nat := bitLength (n - 1)

/-- The powers of two tried as table sizes, smallest first. -/
def tableBits (count : Nat) : List Nat :=
  (List.range (maxTableBits + 1)).filter fun bits => ceilLog2 count ≤ bits

/-- The candidates for tables of a power of two: smaller tables first, then higher shifts, then
multipliers in their order.  `productBits` is the length of the longest product. -/
def powerCandidates (productBits count : Nat) : List HashCandidate :=
  (tableBits count).flatMap fun bits =>
    (shiftsFrom (min (productBits - bits) 127)).flatMap fun shift =>
      multipliers.map fun multiplier =>
        { multiplier, shift, mask := UInt64.ofNat (Nat.pow 2 bits - 1),
          tableSize := Nat.pow 2 bits, minimal := false }

/-- The candidates for tables of one slot per key. -/
def minimalCandidates (productBits count : Nat) : List HashCandidate :=
  (shiftsFrom (productBits - max (bitLength (count - 1)) 1)).flatMap fun shift =>
    multipliers.map fun multiplier =>
      { multiplier, shift, mask := UInt64.ofNat (UInt64.size - 1),
        tableSize := count, minimal := true }

end CandidateSearch

end Signpost
