import Signpost.Text.Split

/-!
# Trimming

Dropping padding at both ends of a list leaves what stands between the padding:
it neither starts nor ends with any, and it is what is left exactly if it does
not (`trimmed_append`, `exists_trimmed`).
-/

namespace Signpost

section Trim

variable {α : Type} {p : α → Bool} {before value after : List α}

/-- What is left when padding is dropped at both ends. -/
def trimmed (p : α → Bool) (xs : List α) : List α :=
  ((xs.dropWhile p).reverse.dropWhile p).reverse

/-- No padding at either end. -/
def Bare (p : α → Bool) (xs : List α) : Prop :=
  (∀ x ∈ xs.head?, p x = false) ∧ ∀ x ∈ xs.getLast?, p x = false

theorem Bare.of_all {xs : List α} (all : ∀ x ∈ xs, p x = false) : Bare p xs :=
  ⟨fun x first => all x (List.mem_of_head? first), fun x last => all x (List.mem_of_getLast? last)⟩

/-- What stands in between is not at either end. -/
theorem Bare.between {front back : List α} (bare : Bare p front) (bare' : Bare p back)
    (first : front ≠ []) (last : back ≠ []) (middle : List α) :
    Bare p (front ++ middle ++ back) := by
  have starts : (front ++ middle ++ back).head? = front.head? := by
    rw [List.append_assoc, List.head?_append, List.head?_eq_some_head first, Option.some_or]
  have ends : (front ++ middle ++ back).getLast? = back.getLast? := by
    rw [List.getLast?_append, List.getLast?_eq_some_getLast last, Option.some_or]
  rw [Bare, starts, ends]
  exact ⟨bare.1, bare'.2⟩

theorem Bare.joined {parts : List (List α)} (sep : List α)
    (bare : ∀ part ∈ parts, part ≠ [] ∧ Bare p part) : Bare p (Signpost.joined sep parts) := by
  have full : ∀ part more, part ≠ [] → Signpost.joined sep (part :: more) ≠ [] := by
    intro part more full
    cases more with
    | nil => exact full
    | cons => exact List.append_ne_nil_of_left_ne_nil (List.append_ne_nil_of_left_ne_nil full _) _
  induction parts with
  | nil => exact ⟨nofun, nofun⟩
  | cons part rest ih =>
    rw [List.forall_mem_cons] at bare
    cases rest with
    | nil => exact bare.1.2
    | cons next more =>
      have last := full next more (bare.2 next List.mem_cons_self).1
      exact bare.1.2.between (ih bare.2) bare.1.1 last sep

theorem dropWhile_append {rest : List α} (padding : ∀ x ∈ before, p x)
    (bare : ∀ x ∈ rest.head?, p x = false) : (before ++ rest).dropWhile p = rest := by
  rw [List.dropWhile_append_of_pos padding]
  cases rest with
  | nil => rfl
  | cons x more => exact List.dropWhile_cons_of_neg (by rw [bare x rfl]; exact Bool.false_ne_true)

theorem trimmed_append (padding : ∀ x ∈ before ++ after, p x) (bare : Bare p value) :
    trimmed p (before ++ value ++ after) = value := by
  cases value with
  | nil =>
    -- nothing is left where there is only padding
    rw [List.append_nil, trimmed, ← List.append_nil (before ++ after),
      dropWhile_append padding (by simp)]
    rfl
  | cons x more =>
    rw [List.forall_mem_append] at padding
    have front : (x :: more ++ after).head? = (x :: more).head? := rfl
    have back : (x :: more).reverse.head? = (x :: more).getLast? := List.head?_reverse
    have padding' : ∀ x ∈ after.reverse, p x := by
      simpa only [List.mem_reverse] using padding.2
    rw [trimmed, List.append_assoc, dropWhile_append padding.1 (front ▸ bare.1),
      List.reverse_append, dropWhile_append padding' (back ▸ bare.2), List.reverse_reverse]

theorem trimmed_of_bare (bare : Bare p value) : trimmed p value = value := by
  have whole := @trimmed_append α p [] value [] nofun bare
  rwa [List.nil_append, List.append_nil] at whole

theorem exists_trimmed (p : α → Bool) (xs : List α) :
    ∃ before after, xs = before ++ trimmed p xs ++ after ∧ (∀ x ∈ before ++ after, p x) ∧
      Bare p (trimmed p xs) := by
  have bare : ∀ (xs : List α), ∀ x ∈ (xs.dropWhile p).head?, p x = false := by
    intro xs x first
    have left := List.head?_dropWhile_not p xs
    rw [first] at left
    exact left
  generalize front : xs.dropWhile p = rest
  have first : xs = xs.takeWhile p ++ rest := by
    rw [← front, List.takeWhile_append_dropWhile]
  have last : rest = trimmed p xs ++ (rest.reverse.takeWhile p).reverse := by
    rw [trimmed, front, ← List.reverse_append, List.takeWhile_append_dropWhile,
      List.reverse_reverse]
  refine ⟨xs.takeWhile p, (rest.reverse.takeWhile p).reverse, ?_, ?_, ?_, ?_⟩
  · rw [List.append_assoc, ← last]
    exact first
  · simp only [List.mem_append, List.mem_reverse]
    rintro x (mem | mem)
    · exact List.all_eq_true.mp List.all_takeWhile x mem
    · exact List.all_eq_true.mp List.all_takeWhile x mem
  · intro x here
    have kept : x ∈ rest.head? := by
      rw [last, List.head?_append, here]
      rfl
    rw [← front] at kept
    exact bare xs x kept
  · intro x here
    rw [trimmed, List.getLast?_reverse] at here
    exact bare _ x here

end Trim

end Signpost
