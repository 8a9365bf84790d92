import Signpost.Store.Tier

/-!
# Stores of static responses

A store has two tiers.  One is keyed by the exact start line; the other by the
start line in lower case, and has to be asked with a line in lower case.  No
line stands twice in a tier.
-/

namespace Signpost

/-- What a line is kept under. -/
def tierKey (line : Octets) : CaseMode → Octets
  | .sensitive => line
  | .insensitive => line.lower

structure LineStore (α : Type) where
  sensitive : Tier α := []
  insensitive : Tier α := []
  sensitive_distinct : sensitive.Distinct := by exact Tier.distinct_nil
  insensitive_distinct : insensitive.Distinct := by exact Tier.distinct_nil

namespace LineStore

variable {α : Type}

/-- The entries of one tier. -/
def entries (s : LineStore α) : CaseMode → Tier α
  | .sensitive => s.sensitive
  | .insensitive => s.insensitive

/-- Put a value under a line, and tell the one it replaces. -/
def register (s : LineStore α) (line : Octets) (mode : CaseMode) (value : α) :
    Option α × LineStore α :=
  let key := tierKey line mode
  match mode with
  | .sensitive =>
    (s.sensitive.get? key, { s with
      sensitive := s.sensitive.put key value
      sensitive_distinct := s.sensitive_distinct.put key value })
  | .insensitive =>
    (s.insensitive.get? key, { s with
      insensitive := s.insensitive.put key value
      insensitive_distinct := s.insensitive_distinct.put key value })

theorem entries_register (s : LineStore α) (line : Octets) (mode other : CaseMode) (value : α) :
    (s.register line mode value).2.entries other =
      if other = mode then (s.entries mode).put (tierKey line mode) value
      else s.entries other := by
  cases mode <;> cases other <;> rfl

def respond? (s : LineStore α) (line : Octets) (mode : CaseMode) : Option α :=
  (s.entries mode).get? line

/-- The number of lines in both tiers. -/
def size (s : LineStore α) : Nat := s.sensitive.length + s.insensitive.length

end LineStore

end Signpost
