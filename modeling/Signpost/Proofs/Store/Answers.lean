import Signpost.Proofs.Store.Coherence

/-!
# A store with tables answers like a plain one

`StoreCall` is what a store of static responses is asked to do; a store with
tables can also be told which tables to try first.  `PerfectStore.answers_eq`
compares the answers of both stores to any sequence of calls, and the answers
of a plain store with those of the store that is compiled from it.
-/

namespace Signpost

inductive StoreCall (α : Type) where
  | register (line : Octets) (mode : CaseMode) (value : α)
  | respond (line : Octets) (mode : CaseMode)
  | contains (line : Octets) (mode : CaseMode)
  | size

inductive StoreAnswer (α : Type) where
  | value (found : Option α)
  | truth (holds : Bool)
  | count (n : Nat)

/-- What is done to a store with tables. -/
inductive StoreStep (α : Type) where
  | call (c : StoreCall α)
  | minimal (minimal : Bool)

/-- The call of a step, if it is one. -/
def StoreStep.call? {α : Type} : StoreStep α → Option (StoreCall α)
  | .call c => some c
  | .minimal _ => none

variable {α : Type}

namespace LineStore

def answer (s : LineStore α) : StoreCall α → StoreAnswer α × LineStore α
  | .register line mode value =>
    let (replaced, s) := s.register line mode value
    (.value replaced, s)
  | .respond line mode => (.value (s.respond? line mode), s)
  | .contains line mode => (.truth (s.respond? line mode).isSome, s)
  | .size => (.count s.size, s)

/-- The answers to a sequence of calls. -/
def answers : LineStore α → List (StoreCall α) → List (StoreAnswer α)
  | _, [] => []
  | s, c :: rest => (s.answer c).1 :: (s.answer c).2.answers rest

end LineStore

namespace PerfectStore

/-- Answer a call.  To look a line up is to ask for the table of its tier. -/
def answer (s : PerfectStore α) : StoreCall α → StoreAnswer α × PerfectStore α
  | .register line mode value =>
    let (replaced, s) := s.register line mode value
    (.value replaced, s)
  | .respond line mode => (.value (s.respond? line mode), s.filled mode)
  | .contains line mode => (.truth (s.respond? line mode).isSome, s.filled mode)
  | .size => (.count s.size, s)

/-- The answers to the calls of a sequence of steps. -/
def answers : PerfectStore α → List (StoreStep α) → List (StoreAnswer α)
  | _, [] => []
  | s, .minimal minimal :: rest => (s.minimal minimal).answers rest
  | s, .call c :: rest => (s.answer c).1 :: (s.answer c).2.answers rest

/-- Both tiers answer like those of a plain store. -/
def Holds (s : PerfectStore α) (plain : LineStore α) : Prop :=
  ∀ mode, (s.tier mode).Holds (plain.entries mode)

namespace Holds

variable {s : PerfectStore α} {plain : LineStore α}

theorem size_eq (holds : s.Holds plain) : s.size = plain.size := by
  have sensitive := (holds .sensitive).length_eq
  have insensitive := (holds .insensitive).length_eq
  exact congr (congrArg HAdd.hAdd sensitive) insensitive

theorem respond?_eq (holds : s.Holds plain) (line : Octets) (mode : CaseMode) :
    s.respond? line mode = plain.respond? line mode :=
  (holds mode).get?_eq line

theorem minimal (holds : s.Holds plain) (minimal : Bool) : (s.minimal minimal).Holds plain := by
  intro mode
  cases mode with
  | sensitive => exact (holds .sensitive).setMinimal minimal
  | insensitive => exact (holds .insensitive).setMinimal minimal

theorem filled (holds : s.Holds plain) (mode : CaseMode) : (s.filled mode).Holds plain := by
  intro other
  rw [PerfectStore.filled, tier_withTier]
  split
  · next same => exact same ▸ (holds mode).filled
  · exact holds other

theorem register (holds : s.Holds plain) (line : Octets) (mode : CaseMode) (value : α) :
    (s.register line mode value).1 = (plain.register line mode value).1 ∧
      (s.register line mode value).2.Holds (plain.register line mode value).2 := by
  constructor
  · have replaced := (holds mode).put_fst (tierKey line mode) value
    cases mode with
    | sensitive => exact replaced
    | insensitive => exact replaced
  · intro other
    rw [PerfectStore.register, tier_withTier, LineStore.entries_register]
    split
    · exact (holds mode).put (tierKey line mode) value
    · exact holds other

/-- One call has the same answer, and leaves stores that answer alike. -/
theorem answer (holds : s.Holds plain) (c : StoreCall α) :
    (s.answer c).1 = (plain.answer c).1 ∧ (s.answer c).2.Holds (plain.answer c).2 := by
  cases c with
  | register line mode value =>
    obtain ⟨replaced, next⟩ := holds.register line mode value
    exact ⟨congrArg StoreAnswer.value replaced, next⟩
  | respond line mode =>
    exact ⟨congrArg StoreAnswer.value (holds.respond?_eq line mode), holds.filled mode⟩
  | contains line mode =>
    refine ⟨?_, holds.filled mode⟩
    exact congrArg (StoreAnswer.truth ·.isSome) (holds.respond?_eq line mode)
  | size => exact ⟨congrArg StoreAnswer.count holds.size_eq, holds⟩

theorem answers (holds : s.Holds plain) (steps : List (StoreStep α)) :
    s.answers steps = plain.answers (steps.filterMap StoreStep.call?) := by
  induction steps generalizing s plain with
  | nil => rfl
  | cons step rest ih =>
    cases step with
    | minimal minimal => exact ih (holds.minimal minimal)
    | call c =>
      obtain ⟨same, next⟩ := holds.answer c
      rw [PerfectStore.answers, same, ih next]
      rfl

end Holds

theorem holds_empty (width : KeyWidth) : (withWidth width : PerfectStore α).Holds {} := by
  intro mode
  cases mode with
  | sensitive => exact PerfectTier.holds_empty width
  | insensitive => exact PerfectTier.holds_empty width

theorem sortedEntries_perm (t : Tier α) : (sortedEntries t).Perm t := List.mergeSort_perm t _

/-- A tier that the sorted entries of a plain one have been put into answers like that one. -/
theorem holds_putAll_sortedEntries {t : PerfectTier α} (empty : t.Holds []) {entries : Tier α}
    (distinct : entries.Distinct) : (t.putAll (sortedEntries entries)).Holds entries := by
  have perm := sortedEntries_perm entries
  have sorted : Tier.Distinct ([] ++ sortedEntries entries) :=
    (perm.map Prod.fst).nodup_iff.mpr distinct
  have put := empty.putAll (sortedEntries entries)
  rw [Tier.foldl_put sorted, List.nil_append] at put
  refine ⟨put.coherent, ?_, ?_⟩
  · intro line
    rw [put.get?_eq, distinct.get?_eq_of_perm perm.symm]
  · rw [put.length_eq, perm.length_eq]

theorem holds_compile (plain : LineStore α) (width : KeyWidth) (minimal : Bool) :
    (compile plain width minimal).Holds plain := by
  have empty := (holds_empty (α := α) width).minimal minimal
  intro mode
  cases mode with
  | sensitive =>
    exact (holds_putAll_sortedEntries (empty .sensitive) plain.sensitive_distinct).filled
  | insensitive =>
    exact (holds_putAll_sortedEntries (empty .insensitive) plain.insensitive_distinct).filled

/-- The tables cannot be observed.  Whatever is registered, replaced, looked up and counted, in any
order and with any choice of tables in between, the answers are those of a plain store; and a store
that is compiled from a plain one has its size and finds what it finds. -/
theorem answers_eq (width : KeyWidth) (minimal : Bool) :
    (∀ steps : List (StoreStep α),
      ((withWidth width).minimal minimal).answers steps =
        LineStore.answers {} (steps.filterMap StoreStep.call?)) ∧
    ∀ plain : LineStore α,
      (∀ line mode, (compile plain width minimal).respond? line mode = plain.respond? line mode) ∧
        (compile plain width minimal).size = plain.size := by
  constructor
  · exact ((holds_empty width).minimal minimal).answers
  · intro plain
    have holds := holds_compile plain width minimal
    exact ⟨holds.respond?_eq, holds.size_eq⟩

end PerfectStore

end Signpost
