import Signpost.Proofs.PerfectHash.Perfect

/-!
# A search for a hash leaves no candidate out

The candidates of a search stand in their list in the order in which they are to be tried: smaller
tables first, then higher shifts, then multipliers in their own order (`pairwise_powerCandidates`).
So the first one that is found to give every key a slot of its own is the first of all that do, and
where none is found there is none (`Sampling.searches_firstSeparating?`).  Such a candidate always
makes a table (`PerfectTable.exists_ofCandidate?`), and the widths of keys are tried narrowest
first (`PerfectTable.build_exhaustive`).
-/

namespace Signpost

section Ordered

variable {α β : Type} {before : α → α → Prop} {items : List α}

/-- In a list that is in order, what is found first is found where nothing is found before. -/
theorem findSome?_eq_some_iff_of_pairwise {f : α → Option β}
    (asymm : ∀ {a b}, before a b → ¬before b a) (ordered : items.Pairwise before) {found : β} :
    items.findSome? f = some found ↔
      ∃ a ∈ items, f a = some found ∧ ∀ b ∈ items, before b a → f b = none := by
  rw [List.findSome?_eq_some_iff]
  constructor
  · rintro ⟨front, a, back, rfl, here, passed⟩
    refine ⟨a, by simp, here, fun b mem first => ?_⟩
    have later := (List.pairwise_cons.mp (List.pairwise_append.mp ordered).2.1).1
    rcases List.mem_append.mp mem with inFront | inBack
    · exact passed b inFront
    rcases List.mem_cons.mp inBack with rfl | inBack
    · exact absurd first (asymm first)
    · exact absurd first (asymm (later b inBack))
  · rintro ⟨a, mem, here, first⟩
    obtain ⟨front, back, rfl⟩ := List.append_of_mem mem
    have earlier := (List.pairwise_append.mp ordered).2.2
    refine ⟨front, a, back, rfl, here, fun b inFront => ?_⟩
    exact first b (List.mem_append_left _ inFront) (earlier b inFront a List.mem_cons_self)

theorem find?_eq_some_iff_of_pairwise {p : α → Bool} (asymm : ∀ {a b}, before a b → ¬before b a)
    (ordered : items.Pairwise before) {a : α} :
    items.find? p = some a ↔ a ∈ items ∧ p a = true ∧ ∀ b ∈ items, before b a → p b = false := by
  rw [List.find?_eq_findSome?_guard, findSome?_eq_some_iff_of_pairwise asymm ordered]
  simp only [Option.guard_eq_some_iff, Option.guard_eq_none_iff]
  constructor
  · rintro ⟨_, mem, ⟨rfl, holds⟩, first⟩
    exact ⟨mem, holds, first⟩
  · rintro ⟨mem, holds, first⟩
    exact ⟨a, mem, ⟨rfl, holds⟩, first⟩

end Ordered

open CandidateSearch (multipliers maxTableBits shiftWindow shiftsFrom bitLength ceilLog2 tableBits
  powerCandidates minimalCandidates)

/-! ## Slots -/

namespace HashCandidate

theorem separatesFrom_iff (c : HashCandidate) (taken : List Nat) (words : List (BitVec 128)) :
    c.separatesFrom taken words = true ↔
      (∀ word ∈ words, c.slotOfWord word < c.tableSize ∧ c.slotOfWord word ∉ taken) ∧
        (words.map c.slotOfWord).Nodup := by
  induction words generalizing taken with
  | nil => simp [separatesFrom]
  | cons word rest ih =>
    rw [separatesFrom, Bool.and_eq_true, Bool.and_eq_true, ih, List.map_cons, List.nodup_cons,
      List.forall_mem_cons, decide_eq_true_eq, Bool.not_eq_true', List.contains_eq_mem,
      decide_eq_false_iff_not]
    constructor
    · rintro ⟨own, others, distinct⟩
      refine ⟨⟨own, fun w mem => ?_⟩, fun again => ?_, distinct⟩
      · exact ⟨(others w mem).1, fun old => (others w mem).2 (List.mem_cons_of_mem _ old)⟩
      · obtain ⟨w, mem, same⟩ := List.mem_map.mp again
        exact (others w mem).2 (same ▸ List.mem_cons_self)
    · rintro ⟨⟨own, others⟩, once, distinct⟩
      refine ⟨own, fun w mem => ⟨(others w mem).1, fun old => ?_⟩, distinct⟩
      rcases List.mem_cons.mp old with same | old
      · exact once (same ▸ List.mem_map_of_mem mem)
      · exact (others w mem).2 old

/-- Which candidate is tried before which. -/
inductive Before (c d : HashCandidate) : Prop
  | smaller : c.tableSize < d.tableSize → Before c d
  | higher : c.tableSize = d.tableSize → d.shift < c.shift → Before c d
  | earlier : c.tableSize = d.tableSize → c.shift = d.shift →
    multipliers.idxOf c.multiplier < multipliers.idxOf d.multiplier → Before c d

theorem Before.asymm {c d : HashCandidate} (first : c.Before d) : ¬d.Before c := by
  intro second
  cases first <;> cases second <;> omega

end HashCandidate

/-! ## The order of the candidates -/

namespace CandidateSearch

theorem pairwise_tableBits (count : Nat) : (tableBits count).Pairwise (· < ·) :=
  List.Pairwise.filter _ List.pairwise_lt_range

theorem pairwise_shiftsFrom (top : Nat) : (shiftsFrom top).Pairwise (· > ·) := by
  rw [shiftsFrom, List.pairwise_map]
  refine List.Pairwise.imp_of_mem ?_ List.pairwise_lt_range
  intro a b _ inside less
  rw [List.mem_range] at inside
  omega

theorem pairwise_multipliers :
    multipliers.Pairwise fun a b => multipliers.idxOf a < multipliers.idxOf b := by
  decide

/-- The candidates for tables of one size: by their shifts first, then by their multipliers. -/
theorem pairwise_flatMap_shifts (top tableSize : Nat) (mask : UInt64) (minimal : Bool) :
    ((shiftsFrom top).flatMap fun shift =>
      multipliers.map fun multiplier =>
        ({ multiplier, shift, mask, tableSize, minimal } : HashCandidate)).Pairwise
      HashCandidate.Before := by
  rw [List.pairwise_flatMap]
  constructor
  · intro shift _
    rw [List.pairwise_map]
    exact pairwise_multipliers.imp fun less => .earlier rfl rfl less
  · refine (pairwise_shiftsFrom top).imp fun greater c first d second => ?_
    obtain ⟨_, _, rfl⟩ := List.mem_map.mp first
    obtain ⟨_, _, rfl⟩ := List.mem_map.mp second
    exact .higher rfl greater

theorem pairwise_powerCandidates (productBits count : Nat) :
    (powerCandidates productBits count).Pairwise HashCandidate.Before := by
  rw [powerCandidates, List.pairwise_flatMap]
  refine ⟨fun bits _ => pairwise_flatMap_shifts _ _ _ _, ?_⟩
  refine (pairwise_tableBits count).imp fun {few many} less c first d second => ?_
  simp only [List.mem_flatMap, List.mem_map] at first second
  obtain ⟨_, _, _, _, rfl⟩ := first
  obtain ⟨_, _, _, _, rfl⟩ := second
  exact .smaller (Nat.pow_lt_pow_right (by decide) less)

theorem pairwise_minimalCandidates (productBits count : Nat) :
    (minimalCandidates productBits count).Pairwise HashCandidate.Before :=
  pairwise_flatMap_shifts _ _ _ _

end CandidateSearch

open CandidateSearch (IsPower IsMinimal)

/-! ## What a search finds -/

namespace Sampling

variable {s : Sampling} {c : HashCandidate}

/-- A candidate gives every key a slot of its own. -/
def Separated (s : Sampling) (c : HashCandidate) : Prop := (s.keys.map c.slot).Nodup

/-- A search finds the first candidate of all that separate the keys, and fails only where no
candidate does.  Without keys nothing is searched. -/
structure Searches (s : Sampling) (tried : HashCandidate → Prop)
    (found? : Option HashCandidate) : Prop where
  eq_none_iff : found? = none ↔ s.keys = [] ∨ ∀ c, tried c → ¬s.Separated c
  eq_some_iff : ∀ c, found? = some c ↔ s.keys ≠ [] ∧ tried c ∧ s.Separated c ∧
    ∀ d, tried d → d.Before c → ¬s.Separated d

/-- Keys that are the same cannot be separated. -/
theorem Separated.keysDistinct (separated : s.Separated c) : s.keysDistinct = true := by
  rw [keysDistinct_iff]
  exact List.Pairwise.of_map c.slot (fun _ _ other same => other (congrArg c.slot same)) separated

theorem separates_keys_iff (inside : ∀ word, c.slotOfWord word < c.tableSize) :
    c.separates (s.keys.map RouteKey.fold) = true ↔ s.Separated c := by
  rw [HashCandidate.separates, HashCandidate.separatesFrom_iff, List.map_map]
  exact and_iff_right fun word _ => ⟨inside word, List.not_mem_nil⟩

theorem searches_firstSeparating? {candidates : List HashCandidate} {tried : HashCandidate → Prop}
    (listed : ∀ c, c ∈ candidates ↔ tried c) (ordered : candidates.Pairwise HashCandidate.Before)
    (inside : s.keys ≠ [] → ∀ c, tried c → ∀ word, c.slotOfWord word < c.tableSize) :
    s.Searches tried (s.firstSeparating? candidates) := by
  by_cases empty : s.keys = []
  · have nothing : s.firstSeparating? candidates = none := by simp [firstSeparating?, empty]
    rw [nothing]
    exact ⟨iff_of_true rfl (.inl empty), fun c =>
      iff_of_false (Option.some_ne_none c).symm fun found => found.1 empty⟩
  cases distinct : s.keysDistinct with
  | false =>
    have nothing : s.firstSeparating? candidates = none := by simp [firstSeparating?, distinct]
    have never : ∀ c, ¬s.Separated c := by
      intro c separated
      rw [separated.keysDistinct] at distinct
      cases distinct
    rw [nothing]
    exact ⟨iff_of_true rfl (.inr fun c _ => never c), fun c =>
      iff_of_false (Option.some_ne_none c).symm fun found => never c found.2.2.1⟩
  | true =>
    have searched : s.firstSeparating? candidates =
        candidates.find? fun c => c.separates (s.keys.map RouteKey.fold) := by
      simp [firstSeparating?, empty, distinct]
    have separates : ∀ c, tried c →
        (c.separates (s.keys.map RouteKey.fold) = true ↔ s.Separated c) :=
      fun c there => separates_keys_iff (inside empty c there)
    rw [searched]
    constructor
    · rw [List.find?_eq_none, or_iff_right empty]
      simp only [listed]
      exact forall₂_congr fun c there => not_congr (separates c there)
    · intro c
      rw [find?_eq_some_iff_of_pairwise HashCandidate.Before.asymm ordered, and_iff_right empty]
      simp only [listed, ← Bool.not_eq_true]
      refine and_congr_right fun there => and_congr (separates c there) ?_
      exact forall₂_congr fun d tried => imp_congr_right fun _ => not_congr (separates d tried)

theorem searches_candidate? (s : Sampling) :
    s.Searches (IsPower s.productBits s.keys.length) s.candidate? :=
  searches_firstSeparating? (fun _ => CandidateSearch.mem_powerCandidates_iff)
    (CandidateSearch.pairwise_powerCandidates _ _) fun _ _ power => power.slotOfWord_lt

theorem searches_minimalCandidate? (s : Sampling) :
    s.Searches (IsMinimal s.productBits s.keys.length) s.minimalCandidate? :=
  searches_firstSeparating? (fun _ => CandidateSearch.mem_minimalCandidates_iff)
    (CandidateSearch.pairwise_minimalCandidates _ _)
    fun some_key _ minimal => minimal.slotOfWord_lt (List.length_pos_iff.mpr some_key)

/-- No difference that a search takes is cut off at zero, no shift is as long as a word, no key gets
a slot outside of the table, and none has the octet for its number that marks an empty slot. -/
structure InBounds (s : Sampling) : Prop where
  bits_le : ∀ bits ≤ maxTableBits, bits ≤ s.productBits
  slotBits_le : max (bitLength (s.keys.length - 1)) 1 ≤ s.productBits
  one_le : s.keys ≠ [] → 1 ≤ s.keys.length
  shift_lt : ∀ c ∈ s.candidates, c.shift < 128
  slot_lt : ∀ c ∈ s.candidates, ∀ key ∈ s.keys, c.slot key < c.tableSize ∧ c.tableSize ≤ 512
  number_lt : ∀ number < s.keys.length, number < 255

theorem productBits_le (s : Sampling) : s.productBits ≤ 128 := Nat.min_le_right _ _

theorem le_productBits (s : Sampling) : 80 ≤ s.productBits := by
  rw [productBits]
  cases s.width <;> decide

theorem inBounds (few : s.keys.length ≤ maxEntries) : s.InBounds := by
  have long := s.le_productBits
  have limit : maxEntries = 255 := rfl
  constructor
  case bits_le =>
    intro bits most
    have nine : maxTableBits = 9 := rfl
    omega
  case slotBits_le =>
    have short : bitLength (s.keys.length - 1) ≤ 8 := by
      have most : Nat.pow 2 8 = 256 := rfl
      rw [CandidateSearch.bitLength_le_iff, most]
      omega
    omega
  case one_le => exact List.length_pos_iff.mpr
  case shift_lt =>
    intro c mem
    rcases mem_candidates_iff.mp mem with minimal | power
    · exact minimal.shift_lt s.productBits_le
    · exact power.shift_lt
  case slot_lt =>
    intro c mem key there
    rcases mem_candidates_iff.mp mem with minimal | power
    · refine ⟨minimal.slotOfWord_lt (List.length_pos_of_mem there) key.fold, ?_⟩
      rw [minimal.parts.2]
      omega
    · exact ⟨power.slotOfWord_lt key.fold, power.parts.2.2.2⟩
  case number_lt => exact fun number inside => Nat.lt_of_lt_of_le inside few

end Sampling

/-! ## Tables -/

namespace PerfectTable

section FillSlots

variable {c : HashCandidate} {index : Nat} {keys : List RouteKey} {slots : Array (Option Nat)}

/-- A slot that no key hashes to is left alone. -/
theorem getElem?_fillSlots_of_not_mem {slot : Nat} (other : slot ∉ keys.map c.slot) :
    (fillSlots c index keys slots)[slot]? = slots[slot]? := by
  induction keys generalizing index slots with
  | nil => rfl
  | cons key rest ih =>
    rw [List.map_cons, List.mem_cons, not_or] at other
    rw [fillSlots, ih other.2, Array.getElem?_setIfInBounds_ne (Ne.symm other.1)]

/-- Where the slots of the keys differ, each holds the number of its key. -/
theorem getElem?_fillSlots_own (index : Nat) (separated : (keys.map c.slot).Nodup) {k : Nat}
    {key : RouteKey} (there : keys[k]? = some key) (inside : c.slot key < slots.size) :
    (fillSlots c index keys slots)[c.slot key]? = some (some (index + k)) := by
  induction keys generalizing index slots k with
  | nil => cases there
  | cons first rest ih =>
    rw [List.map_cons, List.nodup_cons] at separated
    rw [fillSlots]
    cases k with
    | zero =>
      cases there
      rw [getElem?_fillSlots_of_not_mem separated.1, Array.getElem?_setIfInBounds_self_of_lt inside]
      rfl
    | succ k =>
      rw [List.getElem?_cons_succ] at there
      rw [ih _ separated.2 there (by rwa [Array.size_setIfInBounds])]
      congr 2
      omega

end FillSlots

variable {s : Sampling} {c : HashCandidate}

/-- A candidate that separates the keys makes a table that finds every key. -/
theorem exists_ofCandidate? (separated : s.Separated c)
    (inside : ∀ key ∈ s.keys, c.slot key < c.tableSize) :
    ∃ table, ofCandidate? s c = some table := by
  rw [ofCandidate?, if_pos]
  · exact ⟨_, rfl⟩
  · rw [List.all_eq_true]
    rintro ⟨key, index⟩ mem
    have there := List.mk_mem_zipIdx_iff_getElem?.mp mem
    have room : c.slot key < (Array.replicate c.tableSize (none : Option Nat)).size := by
      rw [Array.size_replicate]
      exact inside key (List.mem_of_getElem? there)
    have own := getElem?_fillSlots_own 0 separated there room
    rw [Nat.zero_add] at own
    rw [beq_iff_eq, lookup?_eq_some_iff]
    exact ⟨own, by rw [List.getElem?_toArray, there]⟩

end PerfectTable

/-! ## Widths -/

theorem KeyWidth.mem_upward_iff (width v : KeyWidth) :
    v ∈ width.upward ↔ width.octets ≤ v.octets := by
  have listed : v ∈ KeyWidth.all := by cases v <;> decide
  rw [KeyWidth.upward, List.mem_filter, decide_eq_true_eq, and_iff_right listed]

theorem KeyWidth.pairwise_upward (width : KeyWidth) :
    width.upward.Pairwise fun u v => u.octets < v.octets :=
  List.Pairwise.filter _ (by decide)

/-- The candidate that a sampling is hashed by.  If a minimal one is wanted it is tried first. -/
def Sampling.chosen? (s : Sampling) (minimal : Bool) : Option HashCandidate :=
  if minimal then s.minimalCandidate? <|> s.candidate? else s.candidate?

namespace PerfectTable

variable {entries : List HashEntry}

/-- What a search finds makes a table. -/
theorem exists_of_searches {s : Sampling} (few : s.keys.length ≤ maxEntries)
    {tried : HashCandidate → Prop} {found? : Option HashCandidate}
    (searches : s.Searches tried found?) {c : HashCandidate} (mem : c ∈ s.candidates)
    (found : found? = some c) : ∃ table, ofCandidate? s c = some table := by
  obtain ⟨_, _, separated, _⟩ := (searches.eq_some_iff c).mp found
  exact exists_ofCandidate? separated fun key there =>
    ((Sampling.inBounds few).slot_lt c mem key there).1

theorem exists_of_candidate? {s : Sampling} (few : s.keys.length ≤ maxEntries) {c : HashCandidate}
    (found : s.candidate? = some c) : ∃ table, ofCandidate? s c = some table :=
  exists_of_searches few s.searches_candidate? (Sampling.mem_candidates_of_power found) found

theorem exists_of_minimalCandidate? {s : Sampling} (few : s.keys.length ≤ maxEntries)
    {c : HashCandidate} (found : s.minimalCandidate? = some c) :
    ∃ table, ofCandidate? s c = some table :=
  exists_of_searches few s.searches_minimalCandidate? (Sampling.mem_candidates_of_minimal found)
    found

/-- As a candidate that is found makes a table, the first search that finds one decides. -/
theorem atWidth?_eq (few : entries.length ≤ maxEntries) (minimal : Bool) (v : KeyWidth) :
    atWidth? entries minimal v =
      ((Sampling.ofEntries entries v).chosen? minimal).bind
        (ofCandidate? (Sampling.ofEntries entries v)) := by
  have few : (Sampling.ofEntries entries v).keys.length ≤ maxEntries := by
    rwa [length_keys_ofEntries]
  rw [atWidth?, Sampling.chosen?]
  split
  · cases found : (Sampling.ofEntries entries v).minimalCandidate? with
    | none =>
      rw [minimal?, found]
      rfl
    | some c =>
      obtain ⟨table, made⟩ := exists_of_minimalCandidate? few found
      rw [minimal?, found, Option.bind_some, made]
      exact made.symm
  · rfl

theorem exists_of_chosen? (few : entries.length ≤ maxEntries) {minimal : Bool} {v : KeyWidth}
    {c : HashCandidate} (chosen : (Sampling.ofEntries entries v).chosen? minimal = some c) :
    ∃ table, ofCandidate? (Sampling.ofEntries entries v) c = some table := by
  have few : (Sampling.ofEntries entries v).keys.length ≤ maxEntries := by
    rwa [length_keys_ofEntries]
  rw [Sampling.chosen?] at chosen
  split at chosen
  · cases found : (Sampling.ofEntries entries v).minimalCandidate? with
    | none =>
      rw [found] at chosen
      exact exists_of_candidate? few chosen
    | some d =>
      rw [found] at chosen
      cases chosen
      exact exists_of_minimalCandidate? few found
  · exact exists_of_candidate? few chosen

theorem atWidth?_eq_none_iff (few : entries.length ≤ maxEntries) {minimal : Bool} {v : KeyWidth} :
    atWidth? entries minimal v = none ↔
      (Sampling.ofEntries entries v).chosen? minimal = none := by
  rw [atWidth?_eq few]
  cases chosen : (Sampling.ofEntries entries v).chosen? minimal with
  | none => exact iff_of_true rfl rfl
  | some c =>
    obtain ⟨table, made⟩ := exists_of_chosen? few chosen
    rw [Option.bind_some, made]
    exact iff_of_false nofun nofun

/-- For entries that are accepted: either search goes through all its candidates in order, without
a fault, and what it finds makes a table; and the table that is built is that of the narrowest
width, from the one asked for on, at which a candidate is found. -/
theorem build_exhaustive (accepted : checkEntries entries = .ok ()) :
    (∀ v, ∃ s, s = Sampling.ofEntries entries v ∧
      s.Searches (IsPower s.productBits entries.length) s.candidate? ∧
      s.Searches (IsMinimal s.productBits entries.length) s.minimalCandidate? ∧
      s.InBounds ∧
      (∀ c, s.candidate? = some c → ∃ table, power? s = some table ∧ table.candidate = c) ∧
      ∀ c, s.minimalCandidate? = some c → ∃ table, minimal? s = some table ∧ table.candidate = c) ∧
    ∀ width minimal,
      (build entries width minimal = .ok none ↔
        ∀ v, width.octets ≤ v.octets → (Sampling.ofEntries entries v).chosen? minimal = none) ∧
      ∀ table, build entries width minimal = .ok (some table) ↔
        ∃ v c, width.octets ≤ v.octets ∧ (Sampling.ofEntries entries v).chosen? minimal = some c ∧
          ofCandidate? (Sampling.ofEntries entries v) c = some table ∧
          ∀ u, width.octets ≤ u.octets → u.octets < v.octets →
            (Sampling.ofEntries entries u).chosen? minimal = none := by
  have few := ((checkEntries_eq_ok_iff entries).mp accepted).1
  constructor
  · intro v
    have length := length_keys_ofEntries entries v
    have few : (Sampling.ofEntries entries v).keys.length ≤ maxEntries := by rwa [length]
    refine ⟨_, rfl, ?_, ?_, Sampling.inBounds few, fun c found => ?_, fun c found => ?_⟩
    · exact length ▸ Sampling.searches_candidate? _
    · exact length ▸ Sampling.searches_minimalCandidate? _
    · obtain ⟨table, made⟩ := exists_of_candidate? few found
      have parts := madeFrom_of_ofCandidate? made
      exact ⟨table, by rw [power?, found, Option.bind_some, made], parts.candidate⟩
    · obtain ⟨table, made⟩ := exists_of_minimalCandidate? few found
      have parts := madeFrom_of_ofCandidate? made
      exact ⟨table, by rw [minimal?, found, Option.bind_some, made], parts.candidate⟩
  intro width minimal
  have built : build entries width minimal =
      .ok (width.upward.findSome? (atWidth? entries minimal)) := by
    rw [build, accepted]
    rfl
  rw [built]
  constructor
  · rw [Except.ok.injEq, List.findSome?_eq_none_iff]
    simp only [KeyWidth.mem_upward_iff, atWidth?_eq_none_iff few]
  · intro table
    rw [Except.ok.injEq,
      findSome?_eq_some_iff_of_pairwise (fun less => Nat.lt_asymm less) width.pairwise_upward]
    simp only [KeyWidth.mem_upward_iff, atWidth?_eq_none_iff few]
    constructor
    · rintro ⟨v, wide, made, narrower⟩
      rw [atWidth?_eq few, Option.bind_eq_some_iff] at made
      obtain ⟨c, chosen, made⟩ := made
      exact ⟨v, c, wide, chosen, made, narrower⟩
    · rintro ⟨v, c, wide, chosen, made, narrower⟩
      refine ⟨v, wide, ?_, narrower⟩
      rw [atWidth?_eq few, chosen, Option.bind_some, made]

/-- `closeLines` cannot be told apart by keys of two octets, and four are enough. -/
theorem build_exhaustive_closeLines :
    checkEntries closeLines = .ok () ∧
      (Sampling.ofEntries closeLines .two).chosen? true = none ∧
      ∃ table, build closeLines .two true = .ok (some table) := by
  have few : closeLines.length ≤ maxEntries := by decide
  have accepted : checkEntries closeLines = .ok () :=
    (checkEntries_eq_ok_iff closeLines).mpr ⟨few, by decide⟩
  have two : (Sampling.ofEntries closeLines .two).chosen? true = none := by decide +kernel
  have four : ((Sampling.ofEntries closeLines .four).chosen? true).isSome := by decide +kernel
  obtain ⟨c, chosen⟩ := Option.isSome_iff_exists.mp four
  obtain ⟨table, made⟩ := exists_of_chosen? few chosen
  refine ⟨accepted, two, table, ?_⟩
  rw [((build_exhaustive accepted).2 .two true).2 table]
  refine ⟨.four, c, by decide, chosen, made, ?_⟩
  intro u wide narrow
  cases u with
  | two => exact two
  | four | eight | sixteen | thirtyTwo | sixtyFour => exact absurd narrow (by decide)

end PerfectTable

end Signpost
