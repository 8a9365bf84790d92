import Mathlib.Data.List.Flatten
import Signpost.Text.Split

/-!
# Pieces between separators

A separator in the input ends a piece.  So what was put together from pieces
comes apart again where it was joined, and a map that keeps the separator apart
from everything else can be applied before or after splitting.
-/

namespace Signpost

variable {α : Type} [BEq α] [LawfulBEq α] {sep : α}

theorem pieces_append_sep {piece : List α} (free : sep ∉ piece) (rest : List α) :
    pieces sep (piece ++ sep :: rest) = piece :: pieces sep rest := by
  induction piece with
  | nil => exact pieces_cons_sep sep rest
  | cons a more ih =>
    rw [List.mem_cons, not_or] at free
    exact pieces_cons_of_ne (Ne.symm free.1) (ih free.2)

theorem pieces_of_not_mem {piece : List α} (free : sep ∉ piece) : pieces sep piece = [piece] := by
  induction piece with
  | nil => rfl
  | cons a more ih =>
    rw [List.mem_cons, not_or] at free
    exact pieces_cons_of_ne (Ne.symm free.1) (ih free.2)

theorem infix_of_mem_pieces {xs p : List α} (mem : p ∈ pieces sep xs) : p <:+: xs := by
  -- the first piece stands at the very front, and the others behind it
  have apart : ∀ xs : List α, ∃ first rest, pieces sep xs = first :: rest ∧ first <+: xs ∧
      ∀ p ∈ rest, p <:+: xs := by
    intro xs
    induction xs with
    | nil => exact ⟨[], [], rfl, List.prefix_rfl, nofun⟩
    | cons a more ih =>
      obtain ⟨first, rest, eq, front, behind⟩ := ih
      by_cases same : a = sep
      · refine ⟨[], first :: rest, by rw [same, pieces_cons_sep, eq], List.nil_prefix, ?_⟩
        rw [List.forall_mem_cons]
        exact ⟨List.infix_cons front.isInfix, fun p mem => List.infix_cons (behind p mem)⟩
      · refine ⟨a :: first, rest, pieces_cons_of_ne same eq, ?_,
          fun p mem => List.infix_cons (behind p mem)⟩
        exact (List.prefix_cons_inj a).mpr front
  obtain ⟨first, rest, eq, front, behind⟩ := apart xs
  rw [eq, List.mem_cons] at mem
  rcases mem with rfl | mem
  · exact front.isInfix
  · exact behind p mem

theorem fullPieces_cons_sep (sep : α) (xs : List α) :
    fullPieces sep (sep :: xs) = fullPieces sep xs := by
  rw [fullPieces, pieces_cons_sep]
  rfl

/-- A piece before a separator, or before the end, comes off. -/
theorem fullPieces_append {piece rest : List α} (full : piece ≠ []) (free : sep ∉ piece)
    (ends : rest = [] ∨ rest.head? = some sep) :
    fullPieces sep (piece ++ rest) = piece :: fullPieces sep rest := by
  have kept : (!piece.isEmpty) = true := by simpa using full
  rcases ends with rfl | starts
  · rw [List.append_nil, fullPieces, pieces_of_not_mem free, List.filter_cons, if_pos kept]
    rfl
  · obtain ⟨more, rfl⟩ := List.head?_eq_some_iff.mp starts
    rw [fullPieces, pieces_append_sep free, List.filter_cons, if_pos kept, fullPieces_cons_sep]
    rfl

/-- Pieces that are each put behind a separator come apart again. -/
theorem fullPieces_flatMap_append {whole : List (List α)} {rest : List α}
    (full : ∀ p ∈ whole, p ≠ [] ∧ sep ∉ p) (ends : rest = [] ∨ rest.head? = some sep) :
    fullPieces sep (whole.flatMap (sep :: ·) ++ rest) = whole ++ fullPieces sep rest := by
  induction whole with
  | nil => rfl
  | cons p more ih =>
    obtain ⟨nonempty, free⟩ := full p List.mem_cons_self
    have next := ih fun q mem => full q (List.mem_cons_of_mem p mem)
    have stops : more.flatMap (sep :: ·) ++ rest = [] ∨
        (more.flatMap (sep :: ·) ++ rest).head? = some sep := by
      cases more with
      | nil => exact ends
      | cons q others => exact Or.inr rfl
    rw [List.flatMap_cons, List.append_assoc, List.cons_append, fullPieces_cons_sep,
      fullPieces_append nonempty free stops, next, List.cons_append]

/-- What holds no separator goes into the first piece. -/
theorem pieces_append_of_not_mem {front xs first : List α} {rest : List (List α)}
    (free : sep ∉ front) (eq : pieces sep xs = first :: rest) :
    pieces sep (front ++ xs) = (front ++ first) :: rest := by
  induction front with
  | nil => exact eq
  | cons a more ih =>
    rw [List.mem_cons, not_or] at free
    exact pieces_cons_of_ne (Ne.symm free.1) (ih free.2)

/-- What is written with a separator of its own, and for nothing else, may be split before or after
it is written. -/
theorem fullPieces_flatMap {β : Type} [BEq β] [LawfulBEq β] {mark : β} {f : α → List β}
    (own : f sep = [mark]) (only : ∀ a, mark ∈ f a → a = sep) (full : ∀ a, f a ≠ [])
    (xs : List α) :
    fullPieces mark (xs.flatMap f) = (fullPieces sep xs).map (·.flatMap f) := by
  have split : ∀ xs : List α, pieces mark (xs.flatMap f) = (pieces sep xs).map (·.flatMap f) := by
    intro xs
    induction xs with
    | nil => rfl
    | cons a rest ih =>
      obtain ⟨first, more, eq⟩ := exists_pieces_eq_cons sep rest
      rw [List.flatMap_cons]
      by_cases same : a = sep
      · rw [same, own, List.singleton_append, pieces_cons_sep, pieces_cons_sep, ih]
        rfl
      · rw [eq, List.map_cons] at ih
        rw [pieces_append_of_not_mem (mt (only a) same) ih, pieces_cons_of_ne same eq,
          List.map_cons, List.flatMap_cons]
  rw [fullPieces, fullPieces, split, List.filter_map]
  congr 1
  apply List.filter_congr
  intro p _
  cases p with
  | nil => rfl
  | cons a more => simp [full a]

/-- A map that takes only the separator to the separator may be applied first. -/
theorem fullPieces_map {f : α → α} (only : ∀ a, f a = sep ↔ a = sep) (xs : List α) :
    fullPieces sep (xs.map f) = (fullPieces sep xs).map (List.map f) := by
  have own : [f sep] = [sep] := by rw [(only sep).mpr rfl]
  have written : fullPieces sep (xs.flatMap fun a => [f a]) =
      (fullPieces sep xs).map (·.flatMap fun a => [f a]) :=
    fullPieces_flatMap (f := fun a => [f a]) own
      (fun a mem => (only a).mp (List.mem_singleton.mp mem).symm)
      (fun a => List.cons_ne_nil (f a) []) xs
  simpa only [← List.map_eq_flatMap] using written

/-- The pieces with a separator before each are the whole with one before it. -/
theorem flatMap_pieces (sep : α) (xs : List α) :
    (pieces sep xs).flatMap (sep :: ·) = sep :: xs := by
  induction xs with
  | nil => rfl
  | cons a rest ih =>
    by_cases same : a = sep
    · rw [same, pieces_cons_sep, List.flatMap_cons, ih]
      rfl
    · obtain ⟨first, more, eq⟩ := exists_pieces_eq_cons sep rest
      rw [eq, List.flatMap_cons, List.cons_append, List.cons_inj_right] at ih
      rw [pieces_cons_of_ne same eq, List.flatMap_cons, List.cons_append, List.cons_append, ih]

omit [LawfulBEq α] in
theorem pieces_ne_nil (sep : α) (xs : List α) : pieces sep xs ≠ [] := by
  obtain ⟨first, rest, eq⟩ := exists_pieces_eq_cons sep xs
  rw [eq]
  exact List.cons_ne_nil first rest

omit [BEq α] [LawfulBEq α] in
/-- Pieces with a mark between them are those with one before each but the first. -/
theorem joined_cons_eq_append (mark first : List α) (rest : List (List α)) :
    joined mark (first :: rest) = first ++ rest.flatMap (mark ++ ·) := by
  induction rest generalizing first with
  | nil => exact (List.append_nil first).symm
  | cons next more ih =>
    have step : joined mark (first :: next :: more) =
        first ++ mark ++ joined mark (next :: more) := rfl
    rw [step, ih, List.flatMap_cons, List.append_assoc, List.append_assoc]

omit [BEq α] [LawfulBEq α] in
theorem joined_cons_flatMap (sep : α) (first : List α) (rest : List (List α)) :
    joined [sep] (first :: rest) = first ++ rest.flatMap (sep :: ·) :=
  joined_cons_eq_append [sep] first rest

omit [BEq α] [LawfulBEq α] in
theorem mem_of_mem_joined {mark : List α} {parts : List (List α)} {a : α}
    (mem : a ∈ joined mark parts) : a ∈ mark ∨ ∃ p ∈ parts, a ∈ p := by
  cases parts with
  | nil => cases mem
  | cons first rest =>
    rw [joined_cons_eq_append, List.mem_append, List.mem_flatMap] at mem
    rcases mem with mem | ⟨p, there, mem⟩
    · exact .inr ⟨first, List.mem_cons_self, mem⟩
    · exact (List.mem_append.mp mem).imp_right fun mem => ⟨p, List.mem_cons_of_mem first there, mem⟩

omit [BEq α] [LawfulBEq α] in
theorem joined_eq_intercalate (mark : List α) (parts : List (List α)) :
    joined mark parts = mark.intercalate parts := by
  induction parts with
  | nil => rfl
  | cons first rest ih =>
    cases rest with
    | nil => exact List.intercalate_singleton.symm
    | cons next more =>
      rw [List.intercalate_cons_cons, ← ih]
      rfl

omit [BEq α] [LawfulBEq α] in
theorem flatMap_joined {β : Type} (f : α → List β) (mark : List α) (parts : List (List α)) :
    (joined mark parts).flatMap f = joined (mark.flatMap f) (parts.map (·.flatMap f)) := by
  cases parts with
  | nil => rfl
  | cons first rest =>
    rw [List.map_cons, joined_cons_eq_append, joined_cons_eq_append, List.flatMap_append,
      List.flatMap_assoc, List.flatMap_map]
    simp only [List.flatMap_append]

/-- The pieces with a separator between them are the whole. -/
theorem joined_pieces (sep : α) (xs : List α) : joined [sep] (pieces sep xs) = xs := by
  have whole := flatMap_pieces sep xs
  obtain ⟨first, rest, eq⟩ := exists_pieces_eq_cons sep xs
  rw [eq, List.flatMap_cons, List.cons_append, List.cons_inj_right] at whole
  rw [eq, joined_cons_flatMap, whole]

theorem pieces_append_flatMap {first : List α} {rest : List (List α)} (free : sep ∉ first)
    (others : ∀ p ∈ rest, sep ∉ p) :
    pieces sep (first ++ rest.flatMap (sep :: ·)) = first :: rest := by
  induction rest generalizing first with
  | nil => rw [List.flatMap_nil, List.append_nil, pieces_of_not_mem free]
  | cons next more ih =>
    rw [List.forall_mem_cons] at others
    rw [List.flatMap_cons, List.cons_append, pieces_append_sep free, ih others.1 others.2]

theorem sublist_flatMap_fullPieces (sep : α) (xs : List α) :
    ((fullPieces sep xs).flatMap (sep :: ·)).Sublist (sep :: xs) := by
  rw [← flatMap_pieces]
  exact List.filter_sublist.flatMap _

/-- Without the empty pieces the whole is kept exactly if there are none. -/
theorem flatMap_fullPieces_eq_iff {xs : List α} :
    (fullPieces sep xs).flatMap (sep :: ·) = sep :: xs ↔ [] ∉ pieces sep xs := by
  constructor
  · intro eq
    have full : ∀ p ∈ fullPieces sep xs, p ≠ [] ∧ sep ∉ p := fun p mem => mem_fullPieces mem
    cases found : fullPieces sep xs with
    | nil =>
      rw [found] at eq
      cases eq
    | cons first rest =>
      rw [found] at eq full
      rw [List.flatMap_cons, List.cons_append, List.cons_inj_right] at eq
      rw [← eq, pieces_append_flatMap (full first List.mem_cons_self).2
        (fun p mem => (full p (List.mem_cons_of_mem first mem)).2)]
      exact fun mem => (full [] mem).1 rfl
  · intro none
    have kept : fullPieces sep xs = pieces sep xs := by
      rw [fullPieces, List.filter_eq_self]
      intro p mem
      have full : p ≠ [] := fun empty => none (empty ▸ mem)
      simpa using full
    rw [kept, flatMap_pieces]

/-! ## The first separator -/

theorem cut?_append_sep {front : List α} (free : sep ∉ front) (back : List α) :
    cut? sep (front ++ sep :: back) = some (front, back) := by
  induction front with
  | nil => rw [List.nil_append, cut?, if_pos (beq_self_eq_true sep)]
  | cons a rest ih =>
    rw [List.mem_cons, not_or] at free
    rw [List.cons_append, cut?, if_neg (by simpa using Ne.symm free.1), ih free.2]
    rfl

theorem eq_append_of_cut? {xs front back : List α} (found : cut? sep xs = some (front, back)) :
    xs = front ++ sep :: back := by
  induction xs generalizing front with
  | nil => cases found
  | cons a rest ih =>
    rw [cut?] at found
    split at found
    · next same =>
      cases found
      rw [eq_of_beq same]
      rfl
    · obtain ⟨⟨first, last⟩, cut, eq⟩ := Option.map_eq_some_iff.mp found
      cases eq
      rw [ih cut]
      rfl

theorem not_mem_of_cut? {xs front back : List α} (found : cut? sep xs = some (front, back)) :
    sep ∉ front := by
  induction xs generalizing front with
  | nil => cases found
  | cons a rest ih =>
    rw [cut?] at found
    split at found
    · cases found
      exact List.not_mem_nil
    · next other =>
      obtain ⟨⟨first, last⟩, cut, eq⟩ := Option.map_eq_some_iff.mp found
      cases eq
      rw [List.mem_cons, not_or]
      exact ⟨fun same => other (beq_iff_eq.mpr same.symm), ih cut⟩

theorem cut?_eq_none_iff {xs : List α} : cut? sep xs = none ↔ sep ∉ xs := by
  induction xs with
  | nil => exact iff_of_true rfl List.not_mem_nil
  | cons a rest ih =>
    rw [cut?, List.mem_cons, not_or]
    split
    · next same => exact iff_of_false nofun fun free => free.1 (eq_of_beq same).symm
    · next other =>
      rw [Option.map_eq_none_iff, ih]
      exact (and_iff_right fun same => other (beq_iff_eq.mpr same.symm)).symm

theorem upTo_of_not_mem {xs : List α} (free : sep ∉ xs) : upTo sep xs = xs := by
  induction xs with
  | nil => rfl
  | cons a rest ih =>
    rw [List.mem_cons, not_or] at free
    rw [upTo, List.takeWhile_cons_of_pos (by simpa using Ne.symm free.1)]
    exact congrArg (a :: ·) (ih free.2)

theorem upTo_append_sep {front : List α} (free : sep ∉ front) (back : List α) :
    upTo sep (front ++ sep :: back) = front := by
  induction front with
  | nil => rw [List.nil_append, upTo, List.takeWhile_cons_of_neg (by simp)]
  | cons a rest ih =>
    rw [List.mem_cons, not_or] at free
    rw [List.cons_append, upTo, List.takeWhile_cons_of_pos (by simpa using Ne.symm free.1)]
    exact congrArg (a :: ·) (ih free.2)

/-- What stands before the first separator and after it is determined by the whole. -/
theorem append_sep_inj {front front' back back' : List α} (free : sep ∉ front)
    (free' : sep ∉ front') (eq : front ++ sep :: back = front' ++ sep :: back') :
    front = front' ∧ back = back' := by
  have cut := cut?_append_sep free back
  rw [eq, cut?_append_sep free' back', Option.some_inj, Prod.mk.injEq] at cut
  exact ⟨cut.1.symm, cut.2.symm⟩

end Signpost
