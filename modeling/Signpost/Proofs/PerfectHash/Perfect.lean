import Signpost.Proofs.PerfectHash.Lookup

/-!
# Tables are perfect

A table gives a line the number of an entry exactly if the two agree at all
sampled positions.  Each entry has one slot of its own, and no slot holds
anything else.  Entries are refused only for their number or for a form that
stands twice, and the size of a table is what its candidate says.
-/

namespace Signpost

namespace PerfectTable

/-! ## Slots -/

section FillSlots

variable {c : HashCandidate}

theorem size_fillSlots (c : HashCandidate) (index : Nat) (keys : List RouteKey)
    (slots : Array (Option Nat)) : (fillSlots c index keys slots).size = slots.size := by
  induction keys generalizing index slots with
  | nil => rfl
  | cons key rest ih => rw [fillSlots, ih, Array.size_setIfInBounds]

/-- A number in a slot stood there before, or is that of a key which hashes to the slot. -/
theorem getElem?_fillSlots {index : Nat} {keys : List RouteKey} {slots : Array (Option Nat)}
    {slot number : Nat}
    (there : (fillSlots c index keys slots)[slot]? = some (some number)) :
    slots[slot]? = some (some number) ∨
      ∃ k key, keys[k]? = some key ∧ number = index + k ∧ slot = c.slot key := by
  induction keys generalizing index slots with
  | nil => exact .inl there
  | cons key rest ih =>
    rw [fillSlots] at there
    rcases ih there with kept | ⟨k, other, mem, eq, hashed⟩
    · rw [Array.getElem?_setIfInBounds] at kept
      split at kept
      · next same =>
        split at kept
        · cases kept
          exact .inr ⟨0, key, rfl, rfl, same.symm⟩
        · cases kept
      · exact .inl kept
    · exact .inr ⟨k + 1, other, mem, by omega, hashed⟩

end FillSlots

section OfCandidate

variable {s : Sampling} {c : HashCandidate} {table : PerfectTable}

/-- What it is to find a key: its slot holds the number of that key. -/
theorem lookup?_eq_some_iff {t : PerfectTable} {key : RouteKey} {index : Nat} :
    t.lookup? key = some index ↔
      t.slots[t.candidate.slot key]? = some (some index) ∧ t.keys[index]? = some key := by
  simp only [lookup?, Option.bind_eq_bind, Option.bind_eq_some_iff]
  constructor
  · rintro ⟨_, held, _, rfl, stored, there, same⟩
    split at same
    · next eq =>
      cases same
      exact ⟨held, eq ▸ there⟩
    · cases same
  · rintro ⟨held, there⟩
    exact ⟨_, held, index, rfl, key, there, if_pos rfl⟩

theorem lookup?_iff_of_ofCandidate? (made : ofCandidate? s c = some table) {key : RouteKey}
    {index : Nat} : table.lookup? key = some index ↔ s.keys[index]? = some key := by
  constructor
  · intro found
    have stored := (lookup?_eq_some_iff.mp found).2
    rwa [(madeFrom_of_ofCandidate? made).keys, List.getElem?_toArray] at stored
  · exact (madeFrom_of_ofCandidate? made).finds

/-- A number in a slot is that of a key which hashes to the slot. -/
theorem exists_key_of_slot (made : ofCandidate? s c = some table) {slot index : Nat}
    (held : table.slots[slot]? = some (some index)) :
    ∃ key, s.keys[index]? = some key ∧ slot = c.slot key := by
  rw [(madeFrom_of_ofCandidate? made).slots] at held
  rcases getElem?_fillSlots held with before | ⟨k, key, there, eq, hashed⟩
  · rw [Array.getElem?_replicate] at before
    split at before <;> cases before
  · rw [Nat.zero_add] at eq
    subst eq
    exact ⟨key, there, hashed⟩

/-- Every key has a slot that holds its number, and no other slot does. -/
theorem exists_slot_of_key (made : ofCandidate? s c = some table) {index : Nat} {key : RouteKey}
    (there : s.keys[index]? = some key) :
    ∃ slot : Nat, table.slots[slot]? = some (some index) ∧
      ∀ other : Nat, table.slots[other]? = some (some index) → other = slot := by
  have parts := madeFrom_of_ofCandidate? made
  have found := parts.finds there
  refine ⟨_, (lookup?_eq_some_iff.mp found).1, fun other held => ?_⟩
  obtain ⟨key', there', hashed⟩ := exists_key_of_slot made held
  have same : key' = key := Option.some.inj (there'.symm.trans there)
  rw [hashed, same, parts.candidate]

theorem tableSize_of_ofCandidate? (made : ofCandidate? s c = some table) :
    table.tableSize = c.tableSize := by
  rw [tableSize, (madeFrom_of_ofCandidate? made).slots, size_fillSlots, Array.size_replicate]

end OfCandidate

/-! ## Tables of entries -/

/-- What a table is to the entries it was made from. -/
structure IsPerfect (t : PerfectTable) (entries : List HashEntry) : Prop where
  /-- Every entry is found under its own number. -/
  finds {i : Nat} {entry : HashEntry} :
    entries[i]? = some entry → t.lookupLine? entry.form = some i
  /-- A line is found as an entry exactly if it has the same octets at all positions. -/
  finds_iff {line : Octets} {i : Nat} :
    t.lookupLine? line = some i ↔
      ∃ entry, entries[i]? = some entry ∧
        ∀ p ∈ t.positions, octetAt line p = octetAt entry.form p
  /-- Every number stands in exactly one slot. -/
  own_slot {i : Nat} : i < entries.length →
    ∃ slot : Nat, t.slots[slot]? = some (some i) ∧
      ∀ other : Nat, t.slots[other]? = some (some i) → other = slot
  /-- All other slots are empty; a number fits an octet and is not the largest one. -/
  numbered {slot i : Nat} : t.slots[slot]? = some (some i) → i < entries.length ∧ i < 255
  minimal_size : t.candidate.minimal = true → t.tableSize = entries.length
  power_size : t.candidate.minimal = false →
    t.tableSize.isPowerOfTwo ∧ entries.length ≤ t.tableSize ∧ t.tableSize ≤ 512

section Build

variable {entries : List HashEntry} {width : KeyWidth} {minimal : Bool} {table : PerfectTable}

theorem getElem?_keys_ofEntries (entries : List HashEntry) (v : KeyWidth) (i : Nat) :
    (Sampling.ofEntries entries v).keys[i]? =
      entries[i]?.map fun entry =>
        RouteKey.ofSource entry.form (Sampling.ofEntries entries v).positions := by
  rw [Sampling.ofEntries, List.getElem?_map]

theorem length_keys_ofEntries (entries : List HashEntry) (v : KeyWidth) :
    (Sampling.ofEntries entries v).keys.length = entries.length := by
  rw [Sampling.ofEntries, List.length_map]

theorem length_le_of_build {found : Option PerfectTable}
    (built : build entries width minimal = .ok found) : entries.length ≤ maxEntries := by
  obtain ⟨_, passed, _⟩ := exists_of_bind_eq_ok built
  exact ((checkEntries_eq_ok_iff entries).mp passed).1

theorem build_eq_error_iff (e : EntryError) :
    build entries width minimal = .error e ↔ checkEntries entries = .error e := by
  rw [build]
  cases checkEntries entries with
  | ok _ => exact iff_of_false nofun nofun
  | error e' =>
    constructor <;>
    · intro eq
      cases eq
      rfl

theorem isPerfect_of_ofCandidate? {v : KeyWidth} {c : HashCandidate}
    (few : entries.length ≤ maxEntries)
    (tried : c ∈ (Sampling.ofEntries entries v).candidates)
    (made : ofCandidate? (Sampling.ofEntries entries v) c = some table) :
    table.IsPerfect entries := by
  have parts := madeFrom_of_ofCandidate? made
  have finds_iff : ∀ {line : Octets} {i : Nat}, table.lookupLine? line = some i ↔
      ∃ entry, entries[i]? = some entry ∧
        ∀ p ∈ table.positions, octetAt line p = octetAt entry.form p := by
    intro line i
    have sampled : (Sampling.ofEntries entries v).positions.length ≤ keyLimit :=
      Positions.length_select_le _ v
    rw [lookupLine?, keyOf, parts.positions, lookup?_iff_of_ofCandidate? made,
      getElem?_keys_ofEntries, Option.map_eq_some_iff]
    constructor
    · rintro ⟨entry, there, same⟩
      exact ⟨entry, there, (RouteKey.ofSource_eq_iff sampled _ _).mp same.symm⟩
    · rintro ⟨entry, there, agrees⟩
      exact ⟨entry, there, ((RouteKey.ofSource_eq_iff sampled _ _).mpr agrees).symm⟩
  have sizes : c.minimal = true ∧ c.tableSize = entries.length ∨
      c.minimal = false ∧ c.tableSize.isPowerOfTwo ∧ entries.length ≤ c.tableSize ∧
        c.tableSize ≤ 512 := by
    rw [Sampling.mem_candidates_iff, length_keys_ofEntries] at tried
    exact tried.imp CandidateSearch.IsMinimal.parts CandidateSearch.IsPower.parts
  have candidate := parts.candidate
  have size := tableSize_of_ofCandidate? made
  constructor
  case finds =>
    intro i entry there
    exact finds_iff.mpr ⟨entry, there, fun _ _ => rfl⟩
  case finds_iff => exact finds_iff
  case own_slot =>
    intro i below
    have key : (Sampling.ofEntries entries v).keys[i]? =
        some (RouteKey.ofSource entries[i].form (Sampling.ofEntries entries v).positions) := by
      rw [getElem?_keys_ofEntries, List.getElem?_eq_getElem below, Option.map_some]
    exact exists_slot_of_key made key
  case numbered =>
    intro slot i held
    obtain ⟨key, there, _⟩ := exists_key_of_slot made held
    have below := (List.getElem?_eq_some_iff.mp there).1
    rw [length_keys_ofEntries] at below
    exact ⟨below, Nat.lt_of_lt_of_le below few⟩
  case minimal_size =>
    rw [candidate, size]
    rintro isMinimal
    rcases sizes with ⟨_, exact⟩ | ⟨isPower, _⟩
    · exact exact
    · rw [isMinimal] at isPower
      cases isPower
  case power_size =>
    rw [candidate, size]
    rintro isPower
    rcases sizes with ⟨isMinimal, _⟩ | ⟨_, power⟩
    · rw [isPower] at isMinimal
      cases isMinimal
    · exact power

/-- Entries are refused for their number, or else for a form that stands twice, and a table of
entries is perfect. -/
theorem build_isPerfect (entries : List HashEntry) (width : KeyWidth) (minimal : Bool) :
    ((∃ count, build entries width minimal = .error (.tooMany count)) ↔ 255 < entries.length) ∧
      ((∃ name, build entries width minimal = .error (.duplicate name)) ↔
        entries.length ≤ 255 ∧ ¬(entries.map HashEntry.form).Nodup) ∧
      ∀ table, build entries width minimal = .ok (some table) → table.IsPerfect entries := by
  refine ⟨?_, ?_, fun table built => ?_⟩
  · simp only [build_eq_error_iff]
    exact checkEntries_eq_tooMany_iff entries
  · simp only [build_eq_error_iff]
    exact checkEntries_eq_duplicate_iff entries
  · obtain ⟨v, c, tried, made⟩ := exists_candidate_of_build built
    exact isPerfect_of_ofCandidate? (length_le_of_build built) tried made

end Build

/-- Lines that no two positions tell apart. -/
def closeLines : List HashEntry :=
  ["aaa", "aab", "aba", "abb", "baa"].map fun name => ⟨name, Octets.ofText ("GET /" ++ name)⟩

/-- The table of `closeLines`, made from wider keys than were asked for, with a slot per line. -/
theorem build_isPerfect_closeLines :
    ∃ table, build closeLines .two true = .ok (some table) ∧ table.IsPerfect closeLines ∧
      table.width = .four ∧ table.tableSize = 5 := by
  have sizes : ((build closeLines .two true).toOption.bind id).map
      (fun table => (table.width, table.tableSize)) = some (.four, 5) := by decide +kernel
  cases built : build closeLines .two true with
  | error e =>
    rw [built] at sizes
    cases sizes
  | ok found =>
    rw [built] at sizes
    cases found with
    | none => cases sizes
    | some table =>
      have same : (table.width, table.tableSize) = (.four, 5) := Option.some.inj sizes
      exact ⟨table, rfl, (build_isPerfect closeLines .two true).2.2 table built,
        congrArg Prod.fst same, congrArg Prod.snd same⟩

end PerfectTable

end Signpost
