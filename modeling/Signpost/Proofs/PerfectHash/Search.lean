import Signpost.PerfectHash.Table
import Signpost.Proofs.Key.Selection

/-!
# What a search for a hash goes through

Entries are refused before any search: too many of them, or two of one form
(`checkEntries_eq_ok_iff`).  The candidates that a search then tries come with a
table size that is fixed beforehand: one slot per key (`CandidateSearch.IsMinimal`),
or a power of two that holds all keys and has no more than 512 slots
(`CandidateSearch.IsPower`).
-/

namespace Signpost

/-! ## Refused entries -/

theorem firstRepeated?_eq_none_iff (seen : List Octets) (entries : List HashEntry) :
    firstRepeated? seen entries = none ↔
      (entries.map HashEntry.form).Nodup ∧ ∀ form ∈ entries.map HashEntry.form, form ∉ seen := by
  induction entries generalizing seen with
  | nil => simp [firstRepeated?]
  | cons entry rest ih =>
    rw [firstRepeated?, List.map_cons, List.nodup_cons, List.forall_mem_cons]
    by_cases old : entry.form ∈ seen
    · rw [if_pos (List.contains_iff_mem.mpr old)]
      exact iff_of_false nofun fun free => free.2.1 old
    · rw [if_neg (by simpa using old), ih]
      constructor
      · rintro ⟨distinct, free⟩
        refine ⟨⟨fun again => free _ again List.mem_cons_self, distinct⟩, old, ?_⟩
        exact fun form mem known => free form mem (List.mem_cons_of_mem _ known)
      · rintro ⟨⟨once, distinct⟩, _, free⟩
        refine ⟨distinct, fun form mem known => ?_⟩
        rcases List.mem_cons.mp known with rfl | known
        · exact once mem
        · exact free form mem known

/-- The forms of entries that may be hashed together. -/
theorem checkEntries_eq_ok_iff (entries : List HashEntry) :
    checkEntries entries = .ok () ↔
      entries.length ≤ maxEntries ∧ (entries.map HashEntry.form).Nodup := by
  have repeated := firstRepeated?_eq_none_iff [] entries
  rw [checkEntries]
  split
  · next many => exact iff_of_false nofun fun free => by omega
  · next few =>
    split
    · next entry found =>
      rw [found] at repeated
      exact iff_of_false nofun fun free => by simp [free.2] at repeated
    · next found =>
      rw [found] at repeated
      exact iff_of_true rfl ⟨by omega, (repeated.mp rfl).1⟩

theorem checkEntries_eq_tooMany_iff (entries : List HashEntry) :
    (∃ count, checkEntries entries = .error (.tooMany count)) ↔ maxEntries < entries.length := by
  rw [checkEntries]
  split
  · next many => exact iff_of_true ⟨_, rfl⟩ many
  · next few =>
    split
    · exact iff_of_false nofun few
    · exact iff_of_false nofun few

theorem checkEntries_eq_duplicate_iff (entries : List HashEntry) :
    (∃ name, checkEntries entries = .error (.duplicate name)) ↔
      entries.length ≤ maxEntries ∧ ¬(entries.map HashEntry.form).Nodup := by
  have passes := checkEntries_eq_ok_iff entries
  have many := checkEntries_eq_tooMany_iff entries
  cases result : checkEntries entries with
  | ok _ =>
    rw [result] at passes
    exact iff_of_false nofun fun bad => bad.2 (passes.mp rfl).2
  | error e =>
    rw [result] at passes many
    cases e with
    | tooMany count =>
      have above := many.mp ⟨count, rfl⟩
      exact iff_of_false nofun fun bad => by omega
    | duplicate name =>
      have few : entries.length ≤ maxEntries :=
        Nat.le_of_not_lt fun above => by simpa using many.mpr above
      exact iff_of_true ⟨name, rfl⟩ ⟨few, fun distinct => nomatch passes.mpr ⟨few, distinct⟩⟩

/-! ## The candidates -/

namespace CandidateSearch

theorem bitLength_le_iff (n bits : Nat) : bitLength n ≤ bits ↔ n < Nat.pow 2 bits := by
  rw [bitLength]
  split
  · next zero =>
    rw [zero]
    exact iff_of_true (Nat.zero_le _) (Nat.two_pow_pos bits)
  · next nonzero => exact Nat.log2_lt nonzero

theorem ceilLog2_le_iff (n bits : Nat) : ceilLog2 n ≤ bits ↔ n ≤ Nat.pow 2 bits := by
  have positive : 0 < Nat.pow 2 bits := Nat.two_pow_pos bits
  rw [ceilLog2, bitLength_le_iff]
  omega

theorem mem_tableBits_iff (count bits : Nat) :
    bits ∈ tableBits count ↔ count ≤ Nat.pow 2 bits ∧ bits ≤ maxTableBits := by
  rw [tableBits, List.mem_filter, List.mem_range, decide_eq_true_eq, ceilLog2_le_iff,
    Nat.lt_succ_iff, and_comm]

/-- The shifts that are tried below a highest one. -/
def InWindow (top shift : Nat) : Prop := shift ≤ top ∧ top ≤ shift + shiftWindow

/-- The candidates for tables of a power of two that have a slot for every key. -/
inductive IsPower (productBits count : Nat) : HashCandidate → Prop
  | intro {bits shift : Nat} {multiplier : UInt64} :
    count ≤ Nat.pow 2 bits → bits ≤ maxTableBits → InWindow (min (productBits - bits) 127) shift →
    multiplier ∈ multipliers →
    IsPower productBits count
      { multiplier, shift, mask := UInt64.ofNat (Nat.pow 2 bits - 1), tableSize := Nat.pow 2 bits,
        minimal := false }

/-- The candidates for tables of one slot per key. -/
inductive IsMinimal (productBits count : Nat) : HashCandidate → Prop
  | intro {shift : Nat} {multiplier : UInt64} :
    InWindow (productBits - max (bitLength (count - 1)) 1) shift → multiplier ∈ multipliers →
    IsMinimal productBits count
      { multiplier, shift, mask := UInt64.ofNat (UInt64.size - 1), tableSize := count,
        minimal := true }

variable {productBits count : Nat} {c : HashCandidate}

theorem mem_shiftsFrom_iff (top shift : Nat) : shift ∈ shiftsFrom top ↔ InWindow top shift := by
  rw [shiftsFrom, List.mem_map, InWindow]
  simp only [List.mem_range]
  constructor
  · rintro ⟨below, inside, rfl⟩
    omega
  · rintro ⟨low, high⟩
    exact ⟨top - shift, by omega, by omega⟩

theorem mem_powerCandidates_iff :
    c ∈ powerCandidates productBits count ↔ IsPower productBits count c := by
  simp only [powerCandidates, List.mem_flatMap, List.mem_map, mem_tableBits_iff, mem_shiftsFrom_iff]
  constructor
  · rintro ⟨bits, ⟨holds, most⟩, shift, inside, multiplier, listed, rfl⟩
    exact .intro holds most inside listed
  · rintro ⟨holds, most, inside, listed⟩
    exact ⟨_, ⟨holds, most⟩, _, inside, _, listed, rfl⟩

theorem mem_minimalCandidates_iff :
    c ∈ minimalCandidates productBits count ↔ IsMinimal productBits count c := by
  simp only [minimalCandidates, List.mem_flatMap, List.mem_map, mem_shiftsFrom_iff]
  constructor
  · rintro ⟨shift, inside, multiplier, listed, rfl⟩
    exact .intro inside listed
  · rintro ⟨inside, listed⟩
    exact ⟨_, inside, _, listed, rfl⟩

theorem IsPower.parts (power : IsPower productBits count c) :
    c.minimal = false ∧ c.tableSize.isPowerOfTwo ∧ count ≤ c.tableSize ∧ c.tableSize ≤ 512 := by
  obtain ⟨holds, most, _, _⟩ := power
  next bits _ _ _ _ =>
  exact ⟨rfl, ⟨bits, rfl⟩, holds, Nat.pow_le_pow_right (by decide) most⟩

theorem IsMinimal.parts (minimal : IsMinimal productBits count c) :
    c.minimal = true ∧ c.tableSize = count := by
  obtain ⟨_, _⟩ := minimal
  exact ⟨rfl, rfl⟩

theorem IsPower.shift_lt (power : IsPower productBits count c) : c.shift < 128 := by
  obtain ⟨_, _, inside, _⟩ := power
  have high := inside.1
  dsimp only
  omega

/-- The mask keeps a number below the size of the table. -/
theorem IsPower.slotOfWord_lt (power : IsPower productBits count c) (word : BitVec 128) :
    c.slotOfWord word < c.tableSize := by
  have large := power.parts.2.2.2
  obtain ⟨_, _, _, _⟩ := power
  next bits shift multiplier _ _ _ _ =>
  have positive : 0 < Nat.pow 2 bits := Nat.two_pow_pos bits
  dsimp only at large ⊢
  have mask : (UInt64.ofNat (Nat.pow 2 bits - 1)).toNat = Nat.pow 2 bits - 1 := by
    rw [UInt64.toNat_ofNat', Nat.mod_eq_of_lt (by omega)]
  rw [HashCandidate.slotOfWord, if_neg Bool.false_ne_true, UInt64.toNat_and, mask]
  exact Nat.lt_of_le_of_lt Nat.and_le_right (by omega)

theorem IsMinimal.shift_lt (minimal : IsMinimal productBits count c) (narrow : productBits ≤ 128) :
    c.shift < 128 := by
  obtain ⟨inside, _⟩ := minimal
  have high := inside.1
  dsimp only
  omega

/-- The remainder is below the number of keys, if there are any. -/
theorem IsMinimal.slotOfWord_lt (minimal : IsMinimal productBits count c) (some_key : 0 < count)
    (word : BitVec 128) : c.slotOfWord word < c.tableSize := by
  obtain ⟨_, _⟩ := minimal
  exact Nat.mod_lt _ some_key

end CandidateSearch

namespace Sampling

/-- All candidates that a table of the sampling may have. -/
def candidates (s : Sampling) : List HashCandidate :=
  CandidateSearch.minimalCandidates s.productBits s.keys.length ++
    CandidateSearch.powerCandidates s.productBits s.keys.length

theorem mem_candidates_iff {s : Sampling} {c : HashCandidate} :
    c ∈ s.candidates ↔
      CandidateSearch.IsMinimal s.productBits s.keys.length c ∨
        CandidateSearch.IsPower s.productBits s.keys.length c := by
  rw [candidates, List.mem_append, CandidateSearch.mem_minimalCandidates_iff,
    CandidateSearch.mem_powerCandidates_iff]

theorem mem_of_firstSeparating? {s : Sampling} {candidates : List HashCandidate}
    {c : HashCandidate} (found : s.firstSeparating? candidates = some c) : c ∈ candidates := by
  rw [firstSeparating?] at found
  split at found
  · cases found
  · exact List.mem_of_find?_eq_some found

theorem mem_candidates_of_minimal {s : Sampling} {c : HashCandidate}
    (found : s.minimalCandidate? = some c) : c ∈ s.candidates :=
  List.mem_append_left _ (mem_of_firstSeparating? found)

theorem mem_candidates_of_power {s : Sampling} {c : HashCandidate}
    (found : s.candidate? = some c) : c ∈ s.candidates :=
  List.mem_append_right _ (mem_of_firstSeparating? found)

end Sampling

/-! ## Keys -/

theorem Sampling.keysDistinct_iff {s : Sampling} : s.keysDistinct = true ↔ s.keys.Nodup := by
  rw [keysDistinct, beq_iff_eq, length_eraseDups_eq_iff]

/-- Keys are equal where the sources agree at every position. -/
theorem RouteKey.ofSource_eq_iff {positions : List Nat} (few : positions.length ≤ keyLimit)
    (a b : Octets) :
    ofSource a positions = ofSource b positions ↔
      ∀ p ∈ positions, octetAt a p = octetAt b p := by
  rw [ofSource, ofSource, RouteKey.mk.injEq, List.take_of_length_le few]
  exact List.map_inj_left

end Signpost
