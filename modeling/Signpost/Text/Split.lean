/-!
# Splitting at marks

A sequence is cut at a separator into all of its pieces, or in two at the
first place where a separator or a longer mark stands.  The same functions
serve octets and characters.
-/

namespace Signpost

variable {α : Type} [BEq α]

/-- The pieces between separators, empty ones included; never an empty list. -/
def pieces (sep : α) : List α → List (List α)
  | [] => [[]]
  | a :: rest =>
    if a == sep then [] :: pieces sep rest
    else
      match pieces sep rest with
      | [] => [[a]]
      | p :: ps => (a :: p) :: ps

/-- The pieces between separators that hold something. -/
def fullPieces (sep : α) (xs : List α) : List (List α) :=
  (pieces sep xs).filter fun p => !p.isEmpty

section Pieces

variable [LawfulBEq α] {sep : α}

theorem pieces_cons_sep (sep : α) (xs : List α) : pieces sep (sep :: xs) = [] :: pieces sep xs := by
  rw [pieces, if_pos (beq_self_eq_true sep)]

omit [LawfulBEq α] in
theorem exists_pieces_eq_cons (sep : α) (xs : List α) :
    ∃ first rest, pieces sep xs = first :: rest := by
  induction xs with
  | nil => exact ⟨_, _, rfl⟩
  | cons a rest ih =>
    obtain ⟨first, more, eq⟩ := ih
    rw [pieces]
    split
    · exact ⟨_, _, rfl⟩
    · rw [eq]
      exact ⟨_, _, rfl⟩

theorem pieces_cons_of_ne {a : α} (other : a ≠ sep) {xs first : List α} {rest : List (List α)}
    (eq : pieces sep xs = first :: rest) : pieces sep (a :: xs) = (a :: first) :: rest := by
  rw [pieces, if_neg (by simpa using other), eq]

theorem not_mem_of_mem_pieces {xs p : List α} (mem : p ∈ pieces sep xs) : sep ∉ p := by
  induction xs generalizing p with
  | nil =>
    rw [pieces, List.mem_singleton] at mem
    rw [mem]
    exact List.not_mem_nil
  | cons a rest ih =>
    by_cases same : a = sep
    · rw [same, pieces_cons_sep, List.mem_cons] at mem
      rcases mem with rfl | mem
      · exact List.not_mem_nil
      · exact ih mem
    · obtain ⟨first, more, eq⟩ := exists_pieces_eq_cons sep rest
      rw [pieces_cons_of_ne same eq, List.mem_cons] at mem
      rw [eq] at ih
      rcases mem with rfl | mem
      · rw [List.mem_cons, not_or]
        exact ⟨Ne.symm same, ih List.mem_cons_self⟩
      · exact ih (List.mem_cons_of_mem first mem)

theorem mem_fullPieces {xs p : List α} (mem : p ∈ fullPieces sep xs) : p ≠ [] ∧ sep ∉ p := by
  rw [fullPieces, List.mem_filter] at mem
  exact ⟨by simpa using mem.2, not_mem_of_mem_pieces mem.1⟩

end Pieces

/-- What stands before and after the first separator. -/
def cut? (sep : α) : List α → Option (List α × List α)
  | [] => none
  | a :: rest =>
    if a == sep then some ([], rest)
    else (cut? sep rest).map fun (front, back) => (a :: front, back)

/-- What stands before the first separator; everything if there is none. -/
def upTo (sep : α) (xs : List α) : List α := xs.takeWhile fun a => !(a == sep)

/-- What stands before and after the first occurrence of a mark. -/
def cutMark? (mark : List α) : List α → Option (List α × List α)
  | [] => if mark.isEmpty then some ([], []) else none
  | a :: rest =>
    if mark.isPrefixOf (a :: rest) then some ([], (a :: rest).drop mark.length)
    else (cutMark? mark rest).map fun (front, back) => (a :: front, back)

/-- Pieces put together with a separator between them. -/
def joined (sep : List α) : List (List α) → List α
  | [] => []
  | [p] => p
  | p :: ps => p ++ sep ++ joined sep ps

end Signpost
