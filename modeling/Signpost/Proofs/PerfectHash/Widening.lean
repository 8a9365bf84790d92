import Signpost.Proofs.PerfectHash.Perfect

/-!
# Wider keys tell more lines apart

The positions of a key start with those of a narrower one, so lines with different keys keep them
different when the keys are widened.  The widest keys sample every offset of a form: they are
different exactly if the forms are.
-/

namespace Signpost

/-- The form of a line that keys are sampled from, zeros standing past its end. -/
def canonicalForm (line : Octets) : Octets := (line ++ List.replicate keyLimit 0).take keyLimit

theorem getElem?_canonicalForm (line : Octets) (p : Nat) :
    (canonicalForm line)[p]? = if p < keyLimit then some (octetAt line p) else none := by
  rw [canonicalForm, List.getElem?_take]
  split
  · next inside =>
    rw [octetAt]
    rcases Nat.lt_or_ge p line.length with own | past
    · rw [List.getElem?_append_left own, List.getElem?_eq_getElem own, Option.getD_some]
    · rw [List.getElem?_append_right past, List.getElem?_eq_none past, Option.getD_none,
        List.getElem?_replicate, if_pos (by omega)]
  · rfl

/-- Forms are the same where the lines agree at every offset. -/
theorem canonicalForm_eq_iff {a b : Octets} :
    canonicalForm a = canonicalForm b ↔ ∀ p < keyLimit, octetAt a p = octetAt b p := by
  constructor
  · intro same p inside
    have octets := congrArg (fun form : Octets => form[p]?) same
    simpa only [getElem?_canonicalForm, if_pos inside, Option.some_inj] using octets
  · intro agree
    apply List.ext_getElem?
    intro p
    rw [getElem?_canonicalForm, getElem?_canonicalForm]
    split
    · next inside => rw [agree p inside]
    · rfl

namespace Sampling

open Positions (select ranking Ahead)

/-- Keys are different where no two lines agree at all positions. -/
theorem keysDistinct_ofEntries_iff {entries : List HashEntry} {width : KeyWidth} :
    (ofEntries entries width).keysDistinct = true ↔
      entries.Pairwise fun e f => ¬∀ p ∈ select (entries.map HashEntry.form) width,
        octetAt e.form p = octetAt f.form p := by
  rw [keysDistinct_iff, List.Nodup, ofEntries, List.pairwise_map]
  simp only [ne_eq, RouteKey.ofSource_eq_iff (Positions.length_select_le _ width)]

/-- The positions of keys are chosen by rank: as many as the width says, those with the most
distinct octets first and the lower ones first among equals, and none left out that is ahead of one
of them.  So the choice for a wider key goes on from that for a narrower one, lines that have
different keys have different wider keys, and at the greatest width keys are different exactly if
all forms are. -/
theorem positions_ranked :
    (∀ (sources : List Octets) (width : KeyWidth),
      select sources width = (ranking sources).take width.octets ∧
      (select sources width).length = width.octets ∧ (select sources width).Nodup ∧
      (∀ p ∈ select sources width, p < 64) ∧ (select sources width).Pairwise (Ahead sources) ∧
      ∀ p ∈ select sources width, ∀ q < 64, q ∉ select sources width → Ahead sources p q) ∧
    (∀ (sources : List Octets) (v w : KeyWidth), v.octets ≤ w.octets →
      select sources v <+: select sources w) ∧
    ∀ entries : List HashEntry,
      (∀ v w : KeyWidth, v.octets ≤ w.octets → (ofEntries entries v).keysDistinct = true →
        (ofEntries entries w).keysDistinct = true) ∧
      ((ofEntries entries .sixtyFour).keysDistinct = true ↔
        (entries.map fun entry => canonicalForm entry.form).Nodup) := by
  refine ⟨fun sources width => ?_, fun sources v w => Positions.select_prefix sources,
    fun entries => ⟨fun v w wider => ?_, ?_⟩⟩
  · obtain ⟨chosen, length⟩ := Positions.chosen_select sources width
    exact ⟨Positions.select_eq_take sources width, length, chosen.nodup, chosen.inside,
      chosen.ranked, chosen.leading⟩
  · rw [keysDistinct_ofEntries_iff, keysDistinct_ofEntries_iff]
    have fewer := (Positions.select_prefix (entries.map HashEntry.form) wider).subset
    exact List.Pairwise.imp fun apart agree => apart fun p mem => agree p (fewer mem)
  · rw [keysDistinct_ofEntries_iff, List.Nodup, List.pairwise_map]
    simp only [Positions.mem_select_sixtyFour, ne_eq, canonicalForm_eq_iff]

open PerfectTable (closeLines)

/-- The last three octets tell `closeLines` apart, but no two of them do. -/
theorem positions_ranked_closeLines :
    let sources := closeLines.map HashEntry.form
    KeyWidth.two.octets ≤ KeyWidth.four.octets ∧ select sources .two <+: select sources .four ∧
      (ofEntries closeLines .two).keysDistinct = false ∧
      (ofEntries closeLines .four).keysDistinct = true ∧
      (ofEntries closeLines .sixtyFour).keysDistinct = true ∧
      (5 ∈ select sources .two ∧ 0 ∉ select sources .two ∧ Ahead sources 5 0) ∧
      (closeLines.map fun entry => canonicalForm entry.form).Nodup := by
  intro sources
  obtain ⟨ranked, widened, told⟩ := positions_ranked
  have wider : KeyWidth.two.octets ≤ KeyWidth.four.octets := by decide
  have taken : 5 ∈ select sources .two := by decide +kernel
  have left : 0 ∉ select sources .two := by decide +kernel
  have four : (ofEntries closeLines .four).keysDistinct = true := by decide +kernel
  have widest := (told closeLines).1 .four .sixtyFour (by decide) four
  obtain ⟨_, _, _, _, _, leading⟩ := ranked sources .two
  exact ⟨wider, widened sources .two .four wider, by decide +kernel, four, widest,
    ⟨taken, left, leading 5 taken 0 (by decide) left⟩, (told closeLines).2.mp widest⟩

end Sampling

end Signpost
