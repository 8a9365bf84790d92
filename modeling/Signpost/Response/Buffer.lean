import Signpost.Octets

/-!
# Writing into a buffer of fixed length

A cursor stands in a buffer of octets.  Putting octets overwrites as many from
the cursor on and moves the cursor past them; it is refused where they do not
fit.  Octets fill a buffer of just their length with themselves (`filled_eq`).
-/

namespace Signpost

structure Cursor where
  buffer : Octets
  offset : Nat
  deriving DecidableEq

namespace Cursor

def put? (c : Cursor) (bytes : Octets) : Option Cursor :=
  if c.offset + bytes.length ≤ c.buffer.length then
    some {
      buffer := c.buffer.take c.offset ++ bytes ++ c.buffer.drop (c.offset + bytes.length)
      offset := c.offset + bytes.length }
  else none

/-- Put several strings of octets, one after the other. -/
def putAll? (c : Cursor) (parts : List Octets) : Option Cursor :=
  parts.foldlM put? c

end Cursor

/-- The octets written into a buffer of just their length. -/
def filled (bytes : Octets) : Octets :=
  match Cursor.put? ⟨List.replicate bytes.length 0, 0⟩ bytes with
  | some c => c.buffer
  | none => []

theorem filled_eq (bytes : Octets) : filled bytes = bytes := by
  simp [filled, Cursor.put?]

end Signpost
