import Signpost.PerfectHash.Sampling

/-!
# Perfect-hash tables

A table holds a candidate, the slots it points into and the keys of its lines.
A line is found in one step: sample it, hash the key to a slot, and compare the
key with that of the line the slot names.  Lines that agree at all sampled
positions cannot be told apart by the table.

`PerfectTable.build` widens the key until a search succeeds.
-/

namespace Signpost

structure PerfectTable where
  candidate : HashCandidate
  width : KeyWidth
  positions : List Nat
  /-- The number of the line in each slot. -/
  slots : Array (Option Nat)
  keys : Array RouteKey

namespace PerfectTable

/-- The number of the line that has this key. -/
def lookup? (t : PerfectTable) (key : RouteKey) : Option Nat := do
  let index ← (← t.slots[t.candidate.slot key]?)
  let stored ← t.keys[index]?
  if stored = key then some index else none

def keyOf (t : PerfectTable) (line : Octets) : RouteKey := RouteKey.ofSource line t.positions

/-- The number of the line that agrees with the given one at all sampled positions. -/
def lookupLine? (t : PerfectTable) (line : Octets) : Option Nat := t.lookup? (t.keyOf line)

def size (t : PerfectTable) : Nat := t.keys.size

def isEmpty (t : PerfectTable) : Bool := t.keys.isEmpty

def tableSize (t : PerfectTable) : Nat := t.slots.size

/-- Used slots as a percentage of all slots, with six decimal places. -/
def loadFactor (t : PerfectTable) : String :=
  let used := t.slots.toList.countP Option.isSome
  Numeral.fixedPlaces 6 (100 * used) t.slots.size

/-- Write the numbers of the keys into their slots, in order. -/
def fillSlots (c : HashCandidate) : Nat → List RouteKey → Array (Option Nat) → Array (Option Nat)
  | _, [], slots => slots
  | index, key :: rest, slots =>
    fillSlots c (index + 1) rest (slots.setIfInBounds (c.slot key) (some index))

/-- The table of a sampling under a candidate, if it finds every line again. -/
def ofCandidate? (s : Sampling) (c : HashCandidate) : Option PerfectTable :=
  let table : PerfectTable :=
    { candidate := c, width := s.width, positions := s.positions
      slots := fillSlots c 0 s.keys (Array.replicate c.tableSize none), keys := s.keys.toArray }
  if s.keys.zipIdx.all fun (key, index) => table.lookup? key == some index then some table
  else none

/-- The table of the smallest power of two. -/
def power? (s : Sampling) : Option PerfectTable := s.candidate?.bind (ofCandidate? s)

/-- The table of one slot per line. -/
def minimal? (s : Sampling) : Option PerfectTable := s.minimalCandidate?.bind (ofCandidate? s)

/-- The table for one key width.  If a minimal one is wanted it is tried first. -/
def atWidth? (entries : List HashEntry) (minimal : Bool) (width : KeyWidth) :
    Option PerfectTable :=
  let s := Sampling.ofEntries entries width
  if minimal then minimal? s <|> power? s else power? s

/-- The table of the narrowest key width, from `width` on, for which a search succeeds. -/
def build (entries : List HashEntry) (width : KeyWidth) (minimal : Bool) :
    Except EntryError (Option PerfectTable) := do
  checkEntries entries
  return width.upward.findSome? (atWidth? entries minimal)

end PerfectTable

end Signpost
