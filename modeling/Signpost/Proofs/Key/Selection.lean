import Mathlib.Data.Finset.Card
import Mathlib.Data.List.Induction
import Signpost.Key.Positions

/-!
# Positions are chosen by rank

The offsets of a form are ranked by the number of distinct octets that the sources carry there, and
lower offsets come before higher ones of the same number (`Positions.Ahead`).  Each round of the
choice goes through all counts and ends with the first free offset of this ranking
(`Positions.best?_spec`); so what has been taken is always ranked, and ahead of all that is
free (`Positions.Chosen.step`).  Only the ranking itself starts like that: a choice is the ranking
of all offsets, cut off at the width (`Positions.select_eq_take`).
-/

namespace Signpost

/-! ## Lists without duplicates -/

section EraseDups

variable {α : Type} [BEq α] [LawfulBEq α] {items : List α}

theorem nodup_eraseDups (items : List α) : items.eraseDups.Nodup := by
  induction size : items.length using Nat.strongRecOn generalizing items with
  | ind n ih =>
    cases items with
    | nil => exact List.nodup_nil
    | cons a rest =>
      have fewer : (rest.filter fun b => !b == a).length < n := by
        rw [← size, List.length_cons]
        exact Nat.lt_succ_of_le (List.length_filter_le _ rest)
      rw [List.eraseDups_cons, List.nodup_cons, List.mem_eraseDups, List.mem_filter]
      exact ⟨fun again => by simp at again, ih _ fewer _ rfl⟩

/-- What differs from each other is all kept. -/
theorem eraseDups_of_nodup (distinct : items.Nodup) : items.eraseDups = items := by
  induction items with
  | nil => rfl
  | cons a rest ih =>
    rw [List.nodup_cons] at distinct
    have others : rest.filter (fun b => !b == a) = rest := by
      rw [List.filter_eq_self]
      intro b mem
      have other : b ≠ a := fun same => distinct.1 (same ▸ mem)
      simpa using other
    rw [List.eraseDups_cons, others, ih distinct.2]

theorem length_eraseDups_eq_iff : items.eraseDups.length = items.length ↔ items.Nodup := by
  constructor
  · intro same
    have kept : items.eraseDups.Subperm items :=
      (nodup_eraseDups items).subperm fun _ mem => List.mem_eraseDups.mp mem
    exact (kept.perm_of_length_le (Nat.le_of_eq same.symm)).nodup_iff.mp (nodup_eraseDups items)
  · intro distinct
    rw [eraseDups_of_nodup distinct]

end EraseDups

namespace Positions

/-! ## One round -/

section Best

variable {counts taken : List Nat}

/-- A free offset that has the greatest count, and is the first of those that have it. -/
structure IsBest (counts taken : List Nat) (offset count : Nat) : Prop where
  there : counts[offset]? = some count
  free : offset ∉ taken
  ahead : ∀ p n, counts[p]? = some n → p ∉ taken → p ≠ offset → n < count ∨ n = count ∧ offset < p

theorem best?_concat (counts taken : List Nat) (count : Nat) :
    best? (counts ++ [count]) taken =
      if counts.length ∈ taken then best? counts taken
      else some (better (best? counts taken) counts.length count) := by
  rw [best?, List.zipIdx_append, List.foldl_append, ← best?, Nat.zero_add]
  simp only [List.zipIdx_cons, List.zipIdx_nil, List.foldl_cons, List.foldl_nil, consider,
    List.contains_eq_mem, decide_eq_true_eq]

/-- A count at the end is that of the offset behind all others. -/
theorem of_getElem?_concat {count p n : Nat} (there : (counts ++ [count])[p]? = some n) :
    counts[p]? = some n ∨ p = counts.length ∧ n = count := by
  rcases Nat.lt_or_ge p counts.length with inside | beyond
  · rw [List.getElem?_append_left inside] at there
    exact .inl there
  · rw [List.getElem?_append_right beyond, List.getElem?_singleton] at there
    split at there
    · next last =>
      cases there
      exact .inr ⟨by omega, rfl⟩
    · cases there

section IsBest

variable {offset most count : Nat}

theorem IsBest.lt (best : IsBest counts taken offset most) : offset < counts.length :=
  (List.getElem?_eq_some_iff.mp best.there).1

/-- The best offset stays the best if the next one is taken or has no greater count. -/
theorem IsBest.concat (best : IsBest counts taken offset most)
    (beaten : counts.length ∈ taken ∨ count ≤ most) :
    IsBest (counts ++ [count]) taken offset most := by
  have before := best.lt
  refine ⟨?_, best.free, fun p n there free other => ?_⟩
  · rw [List.getElem?_append_left before, best.there]
  · rcases of_getElem?_concat there with there | ⟨rfl, rfl⟩
    · exact best.ahead p n there free other
    · have fewer := beaten.resolve_left free
      omega

/-- The next offset is the best if it is free and has a greater count than all free ones. -/
theorem isBest_last (free : counts.length ∉ taken)
    (ahead : ∀ p n, counts[p]? = some n → p ∉ taken → n < count) :
    IsBest (counts ++ [count]) taken counts.length count := by
  refine ⟨List.getElem?_concat_length, free, fun p n there free' other => ?_⟩
  rcases of_getElem?_concat there with there | ⟨rfl, rfl⟩
  · exact .inl (ahead p n there free')
  · exact absurd rfl other

theorem IsBest.le (best : IsBest counts taken offset most) {p n : Nat} (there : counts[p]? = some n)
    (free : p ∉ taken) : n ≤ most := by
  by_cases same : p = offset
  · rw [same, best.there, Option.some_inj] at there
    omega
  · have behind := best.ahead p n there free same
    omega

end IsBest

/-- A round ends without an offset only if all are taken. -/
theorem best?_spec (counts taken : List Nat) :
    match best? counts taken with
    | none => ∀ p < counts.length, p ∈ taken
    | some (offset, most) => IsBest counts taken offset most := by
  -- On the counts from the left: the last one is compared with the best of those before it.
  induction counts using List.reverseRecOn with
  | nil => exact nofun
  | append_singleton counts count ih =>
    rw [best?_concat]
    by_cases closed : counts.length ∈ taken
    · rw [if_pos closed]
      cases found : best? counts taken with
      | none =>
        rw [found] at ih
        intro p inside
        rw [List.length_append, List.length_singleton, Nat.lt_succ_iff_lt_or_eq] at inside
        rcases inside with before | rfl
        · exact ih p before
        · exact closed
      | some best =>
        rw [found] at ih
        exact ih.concat (.inl closed)
    · rw [if_neg closed]
      cases found : best? counts taken with
      | none =>
        rw [found] at ih
        refine isBest_last closed fun p n there free => ?_
        exact absurd (ih p (List.getElem?_eq_some_iff.mp there).1) free
      | some best =>
        rw [found] at ih
        simp only [better]
        split
        · next fewer => exact ih.concat (.inr fewer)
        · next more =>
          exact isBest_last closed fun p n there free =>
            Nat.lt_of_le_of_lt (ih.le there free) (Nat.not_le.mp more)

end Best

/-! ## The ranking -/

/-- The octets that sources carry at an offset; past the end of a source it is zero. -/
def carried (sources : List Octets) (offset : Nat) : Finset UInt8 :=
  (sources.map fun source => octetAt source offset).toFinset

theorem variety_eq_card (sources : List Octets) (offset : Nat) :
    variety sources offset = (carried sources offset).card := by
  have same : (sources.map fun source => octetAt source offset).eraseDups.toFinset =
      carried sources offset := by
    ext b
    rw [carried, List.mem_toFinset, List.mem_toFinset, List.mem_eraseDups]
  rw [variety, ← same, List.toFinset_card_of_nodup (nodup_eraseDups _)]

/-- More distinct octets are carried at an offset, or as many and it is the lower one. -/
def Ahead (sources : List Octets) (p q : Nat) : Prop :=
  (carried sources q).card < (carried sources p).card ∨
    (carried sources p).card = (carried sources q).card ∧ p < q

instance (sources : List Octets) (p q : Nat) : Decidable (Ahead sources p q) :=
  inferInstanceAs (Decidable (_ ∨ _))

variable {sources : List Octets}

theorem Ahead.asymm {p q : Nat} (first : Ahead sources p q) : ¬Ahead sources q p := by
  unfold Ahead at *
  omega

theorem Ahead.trans {p q r : Nat} (first : Ahead sources p q) (second : Ahead sources q r) :
    Ahead sources p r := by
  unfold Ahead at *
  omega

theorem Ahead.ne {p q : Nat} (first : Ahead sources p q) : p ≠ q := by
  rintro rfl
  exact first.asymm first

theorem ahead_or_ahead {p q : Nat} (other : p ≠ q) : Ahead sources p q ∨ Ahead sources q p := by
  unfold Ahead
  omega

/-- All offsets by rank. -/
def ranking (sources : List Octets) : List Nat :=
  (List.range keyLimit).mergeSort fun p q => decide (p = q ∨ Ahead sources p q)

theorem perm_ranking (sources : List Octets) : (ranking sources).Perm (List.range keyLimit) :=
  List.mergeSort_perm _ _

theorem nodup_ranking (sources : List Octets) : (ranking sources).Nodup :=
  (perm_ranking sources).nodup_iff.mpr List.nodup_range

theorem mem_ranking {p : Nat} : p ∈ ranking sources ↔ p < keyLimit := by
  rw [(perm_ranking sources).mem_iff, List.mem_range]

theorem length_ranking (sources : List Octets) : (ranking sources).length = keyLimit := by
  rw [(perm_ranking sources).length_eq, List.length_range]

theorem pairwise_ranking (sources : List Octets) : (ranking sources).Pairwise (Ahead sources) := by
  have sorted : (ranking sources).Pairwise
      fun p q => decide (p = q ∨ Ahead sources p q) = true := by
    apply List.pairwise_mergeSort
    case trans =>
      intro p q r first second
      rw [decide_eq_true_eq] at first second ⊢
      rcases first with rfl | first
      · exact second
      · rcases second with rfl | second
        · exact .inr first
        · exact .inr (first.trans second)
    case total =>
      intro p q
      rw [Bool.or_eq_true, decide_eq_true_eq, decide_eq_true_eq]
      by_cases same : p = q
      · exact .inl (.inl same)
      · exact (ahead_or_ahead same).imp .inr .inr
  refine (sorted.and (nodup_ranking sources)).imp fun both => ?_
  exact (decide_eq_true_eq.mp both.1).resolve_left both.2

/-! ## The choice -/

/-- What has been taken is ranked, and ahead of all that is free. -/
structure Chosen (sources : List Octets) (taken : List Nat) : Prop where
  inside : ∀ p ∈ taken, p < keyLimit
  ranked : taken.Pairwise (Ahead sources)
  leading : ∀ p ∈ taken, ∀ q < keyLimit, q ∉ taken → Ahead sources p q

/-- The counts of the offsets that are free. -/
structure Counted (sources : List Octets) (counts taken : List Nat) : Prop where
  length : counts.length = keyLimit
  free : ∀ p < keyLimit, p ∉ taken → counts[p]? = some (carried sources p).card

section Chosen

variable {counts taken : List Nat}

theorem Chosen.nodup (chosen : Chosen sources taken) : taken.Nodup := chosen.ranked.imp Ahead.ne

/-- Only the front of the ranking is ranked and ahead of all the rest. -/
theorem Chosen.eq_take (chosen : Chosen sources taken) :
    taken = (ranking sources).take taken.length := by
  have left : ∀ {q}, q ∈ (ranking sources).filter (· ∉ taken) ↔ q < keyLimit ∧ q ∉ taken := by
    intro q
    rw [List.mem_filter, mem_ranking, decide_eq_true_eq]
  have ranked : (taken ++ (ranking sources).filter (· ∉ taken)).Pairwise (Ahead sources) := by
    rw [List.pairwise_append]
    refine ⟨chosen.ranked, (pairwise_ranking sources).filter _, fun p mem q rest => ?_⟩
    exact chosen.leading p mem q (left.mp rest).1 (left.mp rest).2
  have perm : (taken ++ (ranking sources).filter (· ∉ taken)).Perm (ranking sources) := by
    rw [List.perm_ext_iff_of_nodup (ranked.imp Ahead.ne) (nodup_ranking sources)]
    intro q
    rw [List.mem_append, left, mem_ranking]
    constructor
    · rintro (mem | ⟨inside, _⟩)
      · exact chosen.inside q mem
      · exact inside
    · intro inside
      by_cases mem : q ∈ taken
      · exact .inl mem
      · exact .inr ⟨inside, mem⟩
  have whole := perm.eq_of_pairwise (fun p q _ _ first second => absurd second first.asymm) ranked
    (pairwise_ranking sources)
  rw [← whole, List.take_left]

/-- One round takes the offset that is ahead of all that are left. -/
theorem Chosen.step (chosen : Chosen sources taken) (counted : Counted sources counts taken)
    (room : taken.length < keyLimit) :
    ∃ offset most, best? counts taken = some (offset, most) ∧ Chosen sources (taken ++ [offset]) ∧
      Counted sources (counts.set offset 0) (taken ++ [offset]) := by
  have spec := best?_spec counts taken
  cases found : best? counts taken with
  | none =>
    rw [found] at spec
    have all : List.range keyLimit ⊆ taken := by
      intro p mem
      exact spec p (by rw [counted.length]; exact List.mem_range.mp mem)
    have full := List.nodup_range.length_le_of_subset all
    rw [List.length_range] at full
    omega
  | some best =>
    obtain ⟨offset, most⟩ := best
    rw [found] at spec
    have below : offset < keyLimit := counted.length ▸ spec.lt
    have weighed : most = (carried sources offset).card := by
      have own := counted.free offset below spec.free
      rwa [spec.there, Option.some_inj] at own
    refine ⟨offset, most, rfl, ⟨?_, ?_, ?_⟩, ⟨?_, ?_⟩⟩
    · rw [List.forall_mem_append, List.forall_mem_singleton]
      exact ⟨chosen.inside, below⟩
    · rw [List.pairwise_append]
      refine ⟨chosen.ranked, List.pairwise_singleton _ _, fun p mem q last => ?_⟩
      rw [List.mem_singleton.mp last]
      exact chosen.leading p mem offset below spec.free
    · intro p mem q inside free
      rw [List.mem_append, List.mem_singleton, not_or] at free
      rcases List.mem_append.mp mem with mem | last
      · exact chosen.leading p mem q inside free.1
      · rw [List.mem_singleton.mp last]
        have behind := spec.ahead q _ (counted.free q inside free.1) free.1 free.2
        rw [weighed] at behind
        exact behind.imp_right fun same => ⟨same.1.symm, same.2⟩
    · rw [List.length_set, counted.length]
    · intro p inside free
      rw [List.mem_append, List.mem_singleton, not_or] at free
      rw [List.getElem?_set_ne (Ne.symm free.2)]
      exact counted.free p inside free.1

theorem Chosen.run (chosen : Chosen sources taken) (counted : Counted sources counts taken)
    {rounds : Nat} (room : taken.length + rounds ≤ keyLimit) :
    Chosen sources (choose rounds counts taken) ∧
      (choose rounds counts taken).length = taken.length + rounds := by
  induction rounds generalizing counts taken with
  | zero => exact ⟨chosen, rfl⟩
  | succ rounds ih =>
    obtain ⟨offset, most, found, chosen', counted'⟩ := chosen.step counted (by omega)
    have length : (taken ++ [offset]).length = taken.length + 1 := List.length_append
    have later := ih chosen' counted' (by omega)
    rw [choose, found]
    dsimp only
    exact ⟨later.1, by omega⟩

end Chosen

theorem chosen_nil (sources : List Octets) : Chosen sources [] := ⟨nofun, .nil, nofun⟩

theorem counted_variety (sources : List Octets) :
    Counted sources ((List.range keyLimit).map (variety sources)) [] := by
  refine ⟨by rw [List.length_map, List.length_range], fun p inside _ => ?_⟩
  rw [List.getElem?_map, List.getElem?_range inside, Option.map_some, variety_eq_card]

theorem octets_le_keyLimit (width : KeyWidth) : width.octets ≤ keyLimit := by
  cases width <;> decide

section Select

variable (sources : List Octets) (width : KeyWidth)

theorem chosen_select :
    Chosen sources (select sources width) ∧ (select sources width).length = width.octets := by
  have room : ([] : List Nat).length + width.octets ≤ keyLimit := by
    rw [List.length_nil, Nat.zero_add]
    exact octets_le_keyLimit width
  have run := (chosen_nil sources).run (counted_variety sources) room
  rwa [List.length_nil, Nat.zero_add] at run

theorem length_select : (select sources width).length = width.octets :=
  (chosen_select sources width).2

theorem length_select_le : (select sources width).length ≤ keyLimit := by
  rw [length_select]
  exact octets_le_keyLimit width

/-- The positions of a key are the first of the ranking. -/
theorem select_eq_take : select sources width = (ranking sources).take width.octets := by
  rw [← length_select sources width]
  exact (chosen_select sources width).1.eq_take

end Select

theorem select_prefix (sources : List Octets) {v w : KeyWidth} (wider : v.octets ≤ w.octets) :
    select sources v <+: select sources w := by
  rw [select_eq_take, select_eq_take]
  exact List.take_prefix_take_left wider

/-- Keys of the greatest width sample every offset. -/
theorem mem_select_sixtyFour {p : Nat} : p ∈ select sources .sixtyFour ↔ p < keyLimit := by
  have all : (ranking sources).length ≤ KeyWidth.sixtyFour.octets :=
    Nat.le_of_eq (length_ranking sources)
  rw [select_eq_take, List.take_of_length_le all, mem_ranking]

end Positions

end Signpost
