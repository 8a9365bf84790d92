import Signpost.Text.Split

/-!
# The first occurrence of a mark

`cutMark?` cuts a sequence at a mark.  The two pieces and the mark make up the
sequence again (`eq_append_of_cutMark?`), and no shorter prefix of the sequence
ends in the mark (`le_of_suffix_take`).  So the cut stands at the first place
where the mark is complete, and where there is none no prefix ends in the mark
(`not_suffix_take`).
-/

namespace Signpost

variable {α : Type} [BEq α] [LawfulBEq α]

theorem eq_append_of_cutMark? {mark xs front back : List α}
    (found : cutMark? mark xs = some (front, back)) : xs = front ++ mark ++ back := by
  induction xs generalizing front with
  | nil =>
    simp only [cutMark?, List.isEmpty_iff] at found
    split at found
    · next empty =>
      cases found
      rw [empty]
      rfl
    · cases found
  | cons a rest ih =>
    rw [cutMark?] at found
    split at found
    · next starts =>
      cases found
      have starts := List.isPrefixOf_iff_prefix.mp starts
      rw [List.nil_append]
      exact (List.prefix_iff_eq_append.mp starts).symm
    · cases cut : cutMark? mark rest with
      | none =>
        rw [cut] at found
        cases found
      | some pieces =>
        rw [cut] at found
        cases found
        rw [ih cut, List.cons_append, List.cons_append]

/-- A mark whose first element does not occur before it is found where it stands. -/
theorem cutMark?_append_mark {a : α} {front : List α} (free : a ∉ front) (more back : List α) :
    cutMark? (a :: more) (front ++ (a :: more ++ back)) = some (front, back) := by
  induction front with
  | nil =>
    have starts : (a :: more).isPrefixOf (a :: (more ++ back)) = true :=
      List.isPrefixOf_iff_prefix.mpr (List.prefix_append (a :: more) back)
    rw [List.nil_append, List.cons_append, cutMark?, if_pos starts, ← List.cons_append,
      List.drop_left]
  | cons b rest ih =>
    rw [List.mem_cons, not_or] at free
    have later : ¬(a :: more).isPrefixOf (b :: (rest ++ (a :: more ++ back))) = true := by
      rw [List.isPrefixOf_iff_prefix, List.cons_prefix_cons]
      exact fun starts => free.1 starts.1
    rw [List.cons_append, cutMark?, if_neg later, ih free.2]
    rfl

/-- Where the mark does not start, a prefix that ends in it still does without the first element. -/
theorem exists_suffix_take_of_not_prefix {mark rest : List α} {a : α} {n : Nat}
    (notHere : ¬mark.isPrefixOf (a :: rest) = true) (ends : mark <:+ (a :: rest).take n) :
    ∃ k, n = k + 1 ∧ mark <:+ rest.take k := by
  cases n with
  | zero =>
    rw [List.take_zero, List.suffix_nil] at ends
    subst ends
    exact absurd List.isPrefixOf_nil_left notHere
  | succ k =>
    rw [List.take_succ_cons, List.suffix_cons_iff] at ends
    rcases ends with whole | later
    · -- the prefix is the mark itself, which would then stand at the very front
      have front : mark <+: a :: rest := by
        rw [whole, ← List.take_succ_cons]
        exact List.take_prefix _ _
      exact absurd (List.isPrefixOf_iff_prefix.mpr front) notHere
    · exact ⟨k, rfl, later⟩

/-- A prefix that ends in the mark reaches as far as the first one. -/
theorem le_of_suffix_take {mark xs front back : List α}
    (found : cutMark? mark xs = some (front, back)) {n : Nat}
    (ends : mark <:+ xs.take n) : front.length + mark.length ≤ n := by
  induction xs generalizing front n with
  | nil =>
    simp only [cutMark?, List.isEmpty_iff] at found
    split at found
    · next empty =>
      cases found
      subst empty
      exact Nat.zero_le n
    · cases found
  | cons a rest ih =>
    rw [cutMark?] at found
    split at found
    · cases found
      have short := ends.length_le
      rw [List.length_take] at short
      simp only [List.length_nil, Nat.zero_add]
      omega
    · next notHere =>
      cases cut : cutMark? mark rest with
      | none =>
        rw [cut] at found
        cases found
      | some pieces =>
        rw [cut] at found
        cases found
        obtain ⟨k, rfl, later⟩ := exists_suffix_take_of_not_prefix notHere ends
        have reach := ih cut later
        simp only [List.length_cons]
        omega

theorem not_suffix_take {mark xs : List α} (missing : cutMark? mark xs = none) (n : Nat) :
    ¬ mark <:+ xs.take n := by
  induction xs generalizing n with
  | nil =>
    intro ends
    rw [List.take_nil, List.suffix_nil] at ends
    subst ends
    cases missing
  | cons a rest ih =>
    intro ends
    rw [cutMark?] at missing
    split at missing
    · cases missing
    · next notHere =>
      obtain ⟨k, _, later⟩ := exists_suffix_take_of_not_prefix notHere ends
      exact ih (Option.map_eq_none_iff.mp missing) k later

/-! ## Every occurrence of a mark -/

/-- The pieces between the occurrences of a mark, each taken at its leftmost place. -/
def piecesAt {α : Type} [BEq α] [LawfulBEq α] (a : α) (more xs : List α) : List (List α) :=
  match _ : cutMark? (a :: more) xs with
  | none => [xs]
  | some (front, back) => front :: piecesAt a more back
termination_by xs.length
decreasing_by
  have whole := eq_append_of_cutMark? ‹cutMark? (a :: more) xs = some (front, back)›
  rw [whole]
  simp only [List.length_append, List.length_cons]
  omega

variable {a : α} {piece : List α}

theorem cutMark?_eq_none_of_not_mem (free : a ∉ piece) (more : List α) :
    cutMark? (a :: more) piece = none := by
  cases found : cutMark? (a :: more) piece with
  | none => rfl
  | some parts =>
    rw [eq_append_of_cutMark? found] at free
    exact absurd (by simp) free

theorem piecesAt_of_not_mem (free : a ∉ piece) (more : List α) :
    piecesAt a more piece = [piece] := by
  have missing := cutMark?_eq_none_of_not_mem free more
  rw [piecesAt]
  split
  · rfl
  · next found =>
    rw [missing] at found
    cases found

theorem piecesAt_append_mark (free : a ∉ piece) (more rest : List α) :
    piecesAt a more (piece ++ (a :: more ++ rest)) = piece :: piecesAt a more rest := by
  have first := cutMark?_append_mark free more rest
  rw [piecesAt]
  split
  · next missing =>
    rw [first] at missing
    cases missing
  · next found =>
    rw [first] at found
    cases found
    rfl

/-- Pieces in which the mark does not even start come apart again where they were joined. -/
theorem piecesAt_joined {parts : List (List α)} (some_part : parts ≠ [])
    (free : ∀ p ∈ parts, a ∉ p) (more : List α) :
    piecesAt a more (joined (a :: more) parts) = parts := by
  induction parts with
  | nil => exact absurd rfl some_part
  | cons first rest ih =>
    rw [List.forall_mem_cons] at free
    cases rest with
    | nil => exact piecesAt_of_not_mem free.1 more
    | cons next others =>
      rw [joined, List.append_assoc, piecesAt_append_mark free.1,
        ih (List.cons_ne_nil next others) free.2]
      exact List.cons_ne_nil next others

end Signpost
