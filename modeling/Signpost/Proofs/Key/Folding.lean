import Mathlib.Data.List.Induction
import Mathlib.Data.Nat.Digits.Defs
import Mathlib.Data.Nat.ModEq
import Mathlib.Data.Nat.Prime.Basic
import Signpost.PerfectHash.Candidate

/-!
# What the fold of a key keeps

The fold of a key is the exclusive or of its lanes, each turned by its own amount.  A lane is read
as the big-endian value of its octets (`RouteKey.bigEndian_eq_ofDigits`), turning a word loses
nothing (`Word.rotateLeft_inj`), and lanes that two keys have in common cancel out
(`RouteKey.foldLanes_ne`).  So keys that differ in one lane only have different folds, and a key of
one lane is its fold.  Products with an odd word differ where the words do (`Word.mul_odd_inj`):
what a hash loses of a key is lost in the fold or by the shift, not by the multiplication.
-/

namespace Signpost

/-! ## Words -/

namespace Word

variable {w : Nat} {x y : BitVec w}

/-- Where a bit stands in the turned word. -/
theorem getLsbD_eq_rotateLeft (x : BitVec w) (turn : Nat) {i : Nat} (inside : i < w) :
    x.getLsbD i = (x.rotateLeft turn).getLsbD
      (if i + turn % w < w then i + turn % w else i + turn % w - w) := by
  have less : turn % w < w := Nat.mod_lt turn (Nat.zero_lt_of_lt inside)
  rw [BitVec.getLsbD_rotateLeft]
  split
  · next fits =>
    have behind : ¬i + turn % w < turn % w := by omega
    simp [behind, fits]
  · next wraps =>
    have front : i + turn % w - w < turn % w := by omega
    have own : w - turn % w + (i + turn % w - w) = i := by omega
    simp [front, own]

theorem rotateLeft_inj {turn : Nat} : x.rotateLeft turn = y.rotateLeft turn ↔ x = y := by
  constructor
  · intro same
    apply BitVec.eq_of_getLsbD_eq
    intro i inside
    rw [getLsbD_eq_rotateLeft x turn inside, getLsbD_eq_rotateLeft y turn inside, same]
  · exact congrArg (BitVec.rotateLeft · turn)

/-- An odd word has no factor in common with the modulus. -/
theorem mul_odd_inj {m : BitVec w} (odd : m.toNat % 2 = 1) : x * m = y * m ↔ x = y := by
  constructor
  · intro same
    have coprime : Nat.gcd (2 ^ w) m.toNat = 1 :=
      Nat.Coprime.pow_left w (Nat.coprime_two_left.mpr (Nat.odd_iff.mpr odd))
    have products : Nat.ModEq (2 ^ w) (x.toNat * m.toNat) (y.toNat * m.toNat) := by
      have values := congrArg BitVec.toNat same
      rwa [BitVec.toNat_mul, BitVec.toNat_mul] at values
    have values := Nat.ModEq.cancel_right_of_coprime coprime products
    exact BitVec.eq_of_toNat_eq (Nat.ModEq.eq_of_lt_of_lt values x.isLt y.isLt)
  · exact congrArg (· * m)

end Word

namespace RouteKey

/-! ## Lanes -/

theorem bigEndian_eq_ofDigits (lane : Octets) :
    bigEndian lane = Nat.ofDigits 256 (lane.map UInt8.toNat).reverse := by
  induction lane using List.reverseRecOn with
  | nil => rfl
  | append_singleton front b ih =>
    have step : bigEndian (front ++ [b]) = bigEndian front * 256 + b.toNat := List.foldl_append
    rw [step, ih, List.map_append, List.reverse_append]
    simp only [List.map_cons, List.map_nil, List.reverse_singleton, List.singleton_append,
      Nat.ofDigits_cons]
    rw [Nat.mul_comm, Nat.add_comm]

theorem digits_lt (lane : Octets) : ∀ d ∈ (lane.map UInt8.toNat).reverse, d < 256 := by
  intro d mem
  rw [List.mem_reverse, List.mem_map] at mem
  obtain ⟨b, _, rfl⟩ := mem
  exact b.toNat_lt

/-- The value of a lane fits its word. -/
theorem toNat_ofNat_bigEndian {lane : Octets} (short : lane.length ≤ 16) :
    (BitVec.ofNat 128 (bigEndian lane)).toNat = bigEndian lane := by
  have below := Nat.ofDigits_lt_base_pow_length (by decide) (digits_lt lane)
  rw [← bigEndian_eq_ofDigits, List.length_reverse, List.length_map] at below
  have most : 256 ^ lane.length ≤ 256 ^ 16 := Nat.pow_le_pow_right (by decide) short
  rw [BitVec.toNat_ofNat, Nat.mod_eq_of_lt (by omega)]

theorem bigEndian_inj {a b : Octets} (length : a.length = b.length)
    (same : bigEndian a = bigEndian b) : a = b := by
  rw [bigEndian_eq_ofDigits, bigEndian_eq_ofDigits] at same
  have digits := Nat.ofDigits_inj_of_len_eq (by decide) (by simpa using length) (digits_lt a)
    (digits_lt b) same
  exact (List.map_inj_right fun _ _ => UInt8.toNat_inj.mp).mp (List.reverse_inj.mp digits)

theorem lanes_nil : lanes [] = [] := by
  rw [lanes]
  rfl

/-- The first lane, which may hold no octet, is turned and put to the others. -/
theorem foldLanes_lanes (turn : Nat) (sample : Octets) :
    foldLanes turn (lanes sample) =
      (BitVec.ofNat 128 (bigEndian (sample.take 16))).rotateLeft turn ^^^
        foldLanes (turn + laneTurn) (lanes (sample.drop 16)) := by
  by_cases empty : sample = []
  · have turned : (0 : BitVec 128).rotateLeft turn = 0 := by
      apply BitVec.eq_of_getLsbD_eq
      simp [BitVec.getLsbD_rotateLeft]
    rw [empty, List.take_nil, List.drop_nil, lanes_nil]
    exact (congrArg (· ^^^ (0 : BitVec 128)) turned).symm
  · rw [lanes, if_neg (by simpa using empty), foldLanes]

/-- A key of one lane is folded into the value of that lane. -/
theorem toNat_fold_of_short {key : RouteKey} (short : key.sample.length ≤ 16) :
    key.fold.toNat = bigEndian key.sample := by
  have unturned : ∀ x : BitVec 128, x.rotateLeft 0 ^^^ 0 = x := by
    intro x
    apply BitVec.eq_of_getLsbD_eq
    intro i inside
    simp [inside]
  rw [fold, foldLanes_lanes, List.take_of_length_le short, List.drop_eq_nil_of_le short, lanes_nil,
    foldLanes, unturned, toNat_ofNat_bigEndian short]

/-! ## Keys that differ in one lane -/

/-- Two samples are the same outside of one lane. -/
def AgreeOutside (lane : Nat) (a b : Octets) : Prop := ∀ i, i / 16 ≠ lane → a[i]? = b[i]?

section AgreeOutside

variable {lane : Nat} {a b : Octets}

theorem AgreeOutside.take_eq (agree : AgreeOutside (lane + 1) a b) : a.take 16 = b.take 16 := by
  apply List.ext_getElem?
  intro i
  rw [List.getElem?_take, List.getElem?_take]
  split
  · exact agree i (by omega)
  · rfl

theorem AgreeOutside.drop (agree : AgreeOutside (lane + 1) a b) :
    AgreeOutside lane (a.drop 16) (b.drop 16) := by
  intro i other
  rw [List.getElem?_drop, List.getElem?_drop]
  exact agree (16 + i) (by omega)

theorem AgreeOutside.drop_eq (agree : AgreeOutside 0 a b) : a.drop 16 = b.drop 16 := by
  apply List.ext_getElem?
  intro i
  rw [List.getElem?_drop, List.getElem?_drop]
  exact agree (16 + i) (by omega)

/-- The lanes in common cancel out, and the words of the other lane differ. -/
theorem foldLanes_ne (agree : AgreeOutside lane a b) (length : a.length = b.length) (differ : a ≠ b)
    (turn : Nat) : foldLanes turn (lanes a) ≠ foldLanes turn (lanes b) := by
  -- On the number of lanes in front of the one that differs, which are common to both.
  induction lane generalizing a b turn with
  | zero =>
    rw [foldLanes_lanes turn a, foldLanes_lanes turn b, agree.drop_eq, ne_eq, BitVec.xor_left_inj,
      Word.rotateLeft_inj]
    intro same
    have values := congrArg BitVec.toNat same
    rw [toNat_ofNat_bigEndian (List.length_take_le 16 a),
      toNat_ofNat_bigEndian (List.length_take_le 16 b)] at values
    have fronts := bigEndian_inj (by rw [List.length_take, List.length_take, length]) values
    apply differ
    rw [← List.take_append_drop 16 a, fronts, agree.drop_eq, List.take_append_drop]
  | succ lane ih =>
    have differ' : a.drop 16 ≠ b.drop 16 := by
      intro same
      apply differ
      rw [← List.take_append_drop 16 a, agree.take_eq, same, List.take_append_drop]
    rw [foldLanes_lanes turn a, foldLanes_lanes turn b, agree.take_eq, ne_eq, BitVec.xor_right_inj]
    exact ih agree.drop (by rw [List.length_drop, List.length_drop, length]) differ' _

end AgreeOutside

theorem eq_of_sample_eq {a b : RouteKey} (same : a.sample = b.sample) : a = b := by
  cases a
  cases b
  cases same
  rfl

/-- Folding loses nothing within a lane.  Of up to 16 octets the fold is the big-endian value, so
keys of one such length have different folds; keys of one length that differ in one lane only have
different folds; and no odd word, the multiplier of a candidate among them, makes different folds
alike. -/
theorem fold_keeps_lanes :
    (∀ (source : Octets) (positions : List Nat), positions.length ≤ 16 →
      (ofSource source positions).fold.toNat =
        Nat.ofDigits 256 (positions.map fun p => (octetAt source p).toNat).reverse) ∧
    (∀ a b : RouteKey, a.sample.length = b.sample.length → a.sample.length ≤ 16 →
      a.fold = b.fold → a = b) ∧
    (∀ a b : RouteKey, a.sample.length = b.sample.length → a ≠ b →
      ∀ lane, AgreeOutside lane a.sample b.sample → a.fold ≠ b.fold) ∧
    (∀ m : BitVec 128, m.toNat % 2 = 1 → ∀ a b : RouteKey, a.fold ≠ b.fold →
      a.fold * m ≠ b.fold * m) ∧
    ∀ c : HashCandidate, c.multiplier.toNat % 2 = 1 → ∀ a b : RouteKey, a.fold ≠ b.fold →
      c.product a.fold ≠ c.product b.fold := by
  refine ⟨?_, ?_, ?_, ?_, ?_⟩
  · intro source positions few
    have sampled : (ofSource source positions).sample = positions.map (octetAt source) :=
      congrArg (List.map (octetAt source)) (List.take_of_length_le (Nat.le_trans few (by decide)))
    rw [toNat_fold_of_short (by rw [sampled, List.length_map]; exact few), sampled,
      bigEndian_eq_ofDigits, List.map_map]
    rfl
  · intro a b length short same
    have values := congrArg BitVec.toNat same
    rw [toNat_fold_of_short short, toNat_fold_of_short (length ▸ short)] at values
    exact eq_of_sample_eq (bigEndian_inj length values)
  · intro a b length differ lane agree
    exact foldLanes_ne agree length (mt eq_of_sample_eq differ) 0
  · intro m odd a b differ
    exact mt (Word.mul_odd_inj odd).mp differ
  · intro c odd a b differ
    have widened : (c.multiplier.toBitVec.setWidth 128).toNat % 2 = 1 := by
      have fits : c.multiplier.toNat < 2 ^ 128 := Nat.lt_trans c.multiplier.toNat_lt (by decide)
      rw [BitVec.toNat_setWidth, UInt64.toNat_toBitVec, Nat.mod_eq_of_lt fits]
      exact odd
    exact mt (Word.mul_odd_inj widened).mp differ

/-- The key of the first 32 octets. -/
def frontKey (line : String) : RouteKey := ofSource (Octets.ofText line) (List.range 32)

/-- Lines that differ in the second lane of their keys. -/
theorem fold_keeps_lanes_frontKey :
    let a := frontKey "GET /aaaaaaaaaaaaaaaaaaaaaaaaaaaaaaa"
    let b := frontKey "GET /aaaaaaaaaaaaaaabaaaaaaaaaaaaaaa"
    let c : HashCandidate := ⟨0x9E3779B97F4A7C15, 64, 7, 8, false⟩
    ((ofSource (Octets.ofText "GET /") [0, 4, 40]).fold.toNat = 0x472F00 ∧
      (a.sample.length = b.sample.length ∧ a ≠ b ∧ AgreeOutside 1 a.sample b.sample)) ∧
      c.multiplier.toNat % 2 = 1 ∧ a.fold ≠ b.fold ∧ a.fold * 3 ≠ b.fold * 3 ∧
      c.product a.fold ≠ c.product b.fold ∧
      (ofSource [1, 2] [0, 1] ≠ ofSource [2, 1] [0, 1] ∧
        (ofSource [1, 2] [0, 1]).fold ≠ (ofSource [2, 1] [0, 1]).fold) := by
  intro a b c
  obtain ⟨exact_value, narrow, wide, multiplied, hashed⟩ := fold_keeps_lanes
  have value : (ofSource (Octets.ofText "GET /") [0, 4, 40]).fold.toNat = 0x472F00 :=
    (exact_value _ _ (by decide)).trans (by decide)
  have length : a.sample.length = b.sample.length := by decide
  have differ : a ≠ b := by decide
  have agree : AgreeOutside 1 a.sample b.sample := by
    have inside : ∀ i < 32, i / 16 ≠ 1 → a.sample[i]? = b.sample[i]? := by decide
    intro i other
    rcases Nat.lt_or_ge i 32 with within | beyond
    · exact inside i within other
    · rw [List.getElem?_eq_none beyond, List.getElem?_eq_none beyond]
  have odd : c.multiplier.toNat % 2 = 1 := by decide
  have folds := wide a b length differ 1 agree
  have short : ofSource [1, 2] [0, 1] ≠ ofSource [2, 1] [0, 1] := by decide
  exact ⟨⟨value, length, differ, agree⟩, odd, folds,
    multiplied 3 (by decide) a b folds, hashed c odd a b folds, short,
    mt (narrow _ _ rfl (by decide)) short⟩

end RouteKey

end Signpost
