import Mathlib.Data.List.Induction
import Mathlib.Data.String.Basic
import Signpost.Text.Dictionary

/-!
# Dictionaries of pairs

A dictionary is built by putting in one pair after the other.  One pair keeps the names
in order and leaves every other name as it was (`Dictionary.Ordered.put`,
`Dictionary.Ordered.mem_put_iff`).  So a dictionary holds each name of its pairs once,
with the value of the last pair of that name (`Dictionary.isMapOf_ofPairs`).
-/

namespace Signpost.Dictionary

variable {α : Type}

/-- The names ascend, so none is there twice. -/
def Ordered (d : Dictionary α) : Prop := d.Pairwise fun entry next => entry.1 < next.1

/-- The last pair of a name has a value. -/
def LastUnder (pairs : List (String × α)) (name : String) (value : α) : Prop :=
  ∃ front back, pairs = front ++ (name, value) :: back ∧ ∀ pair ∈ back, pair.1 ≠ name

/-- Each name of some pairs once, with the value of its last pair. -/
structure IsMapOf (d : Dictionary α) (pairs : List (String × α)) : Prop where
  ordered : d.Ordered
  mem_iff (name : String) (value : α) : (name, value) ∈ d ↔ LastUnder pairs name value

theorem mem_of_mem_put {name : String} {value : α} {d : Dictionary α} {entry : String × α}
    (mem : entry ∈ put name value d) : entry = (name, value) ∨ entry ∈ d := by
  induction d with
  | nil => exact .inl (List.mem_singleton.mp mem)
  | cons first rest ih =>
    rw [put] at mem
    split at mem
    · rcases List.mem_cons.mp mem with own | behind
      · exact .inl own
      · exact .inr (List.mem_cons_of_mem first behind)
    split at mem
    · exact List.mem_cons.mp mem
    · rcases List.mem_cons.mp mem with rfl | behind
      · exact .inr List.mem_cons_self
      · exact (ih behind).imp id (List.mem_cons_of_mem first)

namespace Ordered

theorem put {d : Dictionary α} (ordered : d.Ordered) (name : String) (value : α) :
    (put name value d).Ordered := by
  induction d with
  | nil => exact List.pairwise_singleton _ _
  | cons first rest ih =>
    obtain ⟨other, old⟩ := first
    obtain ⟨above, later⟩ := List.pairwise_cons.mp ordered
    rw [Dictionary.put]
    split
    · next same => exact List.pairwise_cons.mpr ⟨same ▸ above, later⟩
    split
    · next below =>
      refine List.pairwise_cons.mpr ⟨?_, ordered⟩
      rw [List.forall_mem_cons]
      exact ⟨below, fun entry mem => below.trans (above entry mem)⟩
    · next different behind =>
      have past : other < name := lt_of_le_of_ne (not_lt.mp behind) (Ne.symm different)
      refine List.pairwise_cons.mpr ⟨fun entry mem => ?_, ih later⟩
      rcases mem_of_mem_put mem with rfl | mem
      · exact past
      · exact above entry mem

/-- The name that is put in has its new value, and every other name what it had. -/
theorem mem_put_iff {d : Dictionary α} (ordered : d.Ordered) {name : String} {value : α}
    {entry : String × α} :
    entry ∈ Dictionary.put name value d ↔ entry = (name, value) ∨ (entry.1 ≠ name ∧ entry ∈ d) := by
  induction d with
  | nil => simp [Dictionary.put]
  | cons first rest ih =>
    obtain ⟨other, old⟩ := first
    obtain ⟨above, later⟩ := List.pairwise_cons.mp ordered
    have others : ∀ entry ∈ rest, other < entry.1 := above
    rw [Dictionary.put]
    split
    · next same =>
      have apart : entry ∈ rest → entry.1 ≠ name := fun mem => by
        rw [same]
        exact (others entry mem).ne'
      grind
    split
    · next below =>
      have apart : entry ∈ rest → entry.1 ≠ name := fun mem =>
        (below.trans (others entry mem)).ne'
      grind
    · rw [List.mem_cons, ih later]
      grind

end Ordered

theorem lastUnder_concat_iff {pairs : List (String × α)} {pair : String × α} {name : String}
    {value : α} :
    LastUnder (pairs ++ [pair]) name value ↔
      (name, value) = pair ∨ (name ≠ pair.1 ∧ LastUnder pairs name value) := by
  constructor
  · rintro ⟨front, back, whole, free⟩
    rcases List.eq_nil_or_concat' back with rfl | ⟨between, last, rfl⟩
    · exact .inl (List.singleton_inj.mp (List.append_inj_right' whole rfl)).symm
    · rw [← List.cons_append, ← List.append_assoc] at whole
      obtain ⟨rfl, same⟩ := List.append_inj' whole rfl
      rw [List.singleton_inj.mp same]
      rw [List.forall_mem_append, List.forall_mem_singleton] at free
      exact .inr ⟨free.2.symm, front, between, rfl, free.1⟩
  · rintro (rfl | ⟨other, front, back, rfl, free⟩)
    · exact ⟨pairs, [], rfl, nofun⟩
    · refine ⟨front, back ++ [pair], by simp, ?_⟩
      rw [List.forall_mem_append, List.forall_mem_singleton]
      exact ⟨free, other.symm⟩

/-- A dictionary maps each name to the value of its last pair. -/
theorem isMapOf_ofPairs (pairs : List (String × α)) : (ofPairs pairs).IsMapOf pairs := by
  induction pairs using List.reverseRecOn with
  | nil => exact ⟨List.Pairwise.nil, by simp [ofPairs, LastUnder]⟩
  | append_singleton pairs pair ih =>
    have step : ofPairs (pairs ++ [pair]) = put pair.1 pair.2 (ofPairs pairs) :=
      List.foldl_concat _ _ _ _
    rw [step]
    refine ⟨ih.ordered.put _ _, fun name value => ?_⟩
    rw [ih.ordered.mem_put_iff, lastUnder_concat_iff, ih.mem_iff]

end Signpost.Dictionary
