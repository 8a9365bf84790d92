/-!
# Key widths

A route key samples a fixed number of octets, one of six powers of two, which
tells the width (`KeyWidth.ofOctets?_octets`).  The widths are ordered; `wider?` is
the next one.
-/

namespace Signpost

/-- How many octets a key samples. -/
inductive KeyWidth where
  | two
  | four
  | eight
  | sixteen
  | thirtyTwo
  | sixtyFour
  deriving DecidableEq, Repr

namespace KeyWidth

/-- All widths, narrowest first. -/
def all : List KeyWidth := [two, four, eight, sixteen, thirtyTwo, sixtyFour]

def octets : KeyWidth → Nat
  | two => 2
  | four => 4
  | eight => 8
  | sixteen => 16
  | thirtyTwo => 32
  | sixtyFour => 64

def bits (w : KeyWidth) : Nat := 8 * w.octets

/-- The bits that remain once a key is folded into a 128-bit word. -/
def foldedBits (w : KeyWidth) : Nat := min w.bits 128

def wider? : KeyWidth → Option KeyWidth
  | two => some four
  | four => some eight
  | eight => some sixteen
  | sixteen => some thirtyTwo
  | thirtyTwo => some sixtyFour
  | sixtyFour => none

def ofOctets? (n : Nat) : Option KeyWidth := all.find? fun w => w.octets == n

/-- The widths from this one on, narrowest first. -/
def upward (w : KeyWidth) : List KeyWidth := all.filter fun v => w.octets ≤ v.octets

theorem ofOctets?_octets (w : KeyWidth) : ofOctets? w.octets = some w := by
  cases w <;> rfl

end KeyWidth

end Signpost
