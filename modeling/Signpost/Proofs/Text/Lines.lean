import Signpost.Octets
import Signpost.Text.Split

/-!
# Lines

A head is cut into lines at its line ends, each taken at its leftmost place.
The lines put together are the head again (`joined_lines`), none of them holds a
line end (`unbroken_of_mem_lines`), and there are no other lines like that
(`lines_joined`).
-/

namespace Signpost

section Joined

variable {α : Type} {sep first : List α} {rest : List (List α)}

theorem joined_cons (more : rest ≠ []) :
    joined sep (first :: rest) = first ++ (sep ++ joined sep rest) := by
  cases rest with
  | nil => exact absurd rfl more
  | cons next others => exact List.append_assoc first sep _

theorem joined_append {front back : List (List α)} (some_part : front ≠ []) (more : back ≠ []) :
    joined sep (front ++ back) = joined sep front ++ (sep ++ joined sep back) := by
  induction front with
  | nil => exact absurd rfl some_part
  | cons first rest ih =>
    cases rest with
    | nil => exact joined_cons more
    | cons next others =>
      have later := ih (List.cons_ne_nil next others)
      rw [List.cons_append, joined_cons (List.append_ne_nil_of_right_ne_nil _ more), later,
        joined_cons (List.cons_ne_nil next others)]
      simp only [List.append_assoc]

theorem drop_joined_cons (sep first : List α) (rest : List (List α)) :
    (joined sep (first :: rest)).drop (first.length + sep.length) = joined sep rest := by
  cases rest with
  | nil => exact List.drop_eq_nil_of_le (Nat.le_add_right _ _)
  | cons next others =>
    rw [joined_cons (List.cons_ne_nil next others), ← List.append_assoc, ← List.length_append,
      List.drop_left]

theorem joined_cons_cons (sep : List α) (a : α) (first : List α) (rest : List (List α)) :
    joined sep ((a :: first) :: rest) = a :: joined sep (first :: rest) := by
  cases rest with
  | nil => rfl
  | cons next others =>
    rw [joined_cons (List.cons_ne_nil next others), joined_cons (List.cons_ne_nil next others)]
    rfl

theorem length_joined_le_of_prefix (sep : List α) {parts more : List (List α)}
    (starts : parts <+: more) : (joined sep parts).length ≤ (joined sep more).length := by
  induction parts generalizing more with
  | nil => exact Nat.zero_le _
  | cons part rest ih =>
    obtain ⟨others, rfl⟩ := starts
    rw [List.cons_append]
    cases rest with
    | nil =>
      cases others with
      | nil => exact Nat.le_refl _
      | cons next others =>
        rw [List.nil_append, joined_cons (List.cons_ne_nil next others), List.length_append]
        exact Nat.le_add_right _ _
    | cons next rest =>
      have shorter := ih (List.prefix_append (next :: rest) others)
      rw [joined_cons (List.cons_ne_nil next rest), List.cons_append,
        joined_cons (List.cons_ne_nil next _)]
      simp only [List.length_append]
      exact Nat.add_le_add_left (Nat.add_le_add_left shorter _) _

theorem infix_joined_of_mem {part : List α} {parts : List (List α)} (mem : part ∈ parts) :
    part <:+: joined sep parts := by
  induction parts with
  | nil => cases mem
  | cons first rest ih =>
    cases rest with
    | nil =>
      rw [List.mem_singleton] at mem
      rw [mem]
      exact List.infix_rfl
    | cons next others =>
      rw [joined_cons (List.cons_ne_nil next others)]
      rcases List.mem_cons.mp mem with rfl | mem
      · exact (List.prefix_append _ _).isInfix
      · have later := (ih mem).trans (List.suffix_append sep _).isInfix
        exact later.trans (List.suffix_append first _).isInfix

end Joined

namespace Octets

/-- Lines before a blank line start with the first of them and a line end. -/
theorem exists_joined_headEnd (line : Octets) (rest : List Octets) (body : Octets) :
    ∃ more, joined crlf (line :: rest) ++ headEnd ++ body = line ++ (crlf ++ more) := by
  have ends : headEnd = crlf ++ crlf := rfl
  rw [ends]
  cases rest with
  | nil => exact ⟨crlf ++ body, by simp only [joined, List.append_assoc]⟩
  | cons next more =>
    rw [joined_cons (List.cons_ne_nil next more)]
    exact ⟨_, by simp only [List.append_assoc]; rfl⟩

/-- No line end stands within. -/
def Unbroken (bytes : Octets) : Prop := ¬crlf <:+: bytes

theorem unbroken_nil : Unbroken [] := by
  rw [Unbroken, List.infix_nil]
  exact nofun

theorem unbroken_cons_iff {b : UInt8} {bytes : Octets} :
    Unbroken (b :: bytes) ↔ ¬(b = 0x0D ∧ bytes.head? = some 0x0A) ∧ Unbroken bytes := by
  have starts : crlf <+: b :: bytes ↔ b = 0x0D ∧ bytes.head? = some 0x0A := by
    cases bytes with
    | nil => simp [crlf]
    | cons next rest => simp [crlf, List.cons_prefix_cons, eq_comm]
  rw [Unbroken, List.infix_cons_iff, starts, not_or]
  rfl

theorem Unbroken.of_inside {part bytes : Octets} (unbroken : Unbroken bytes)
    (inside : part <:+: bytes) : Unbroken part :=
  fun broken => unbroken (broken.trans inside)

/-- Octets without a carriage return hold no line end. -/
theorem unbroken_of_not_mem {bytes : Octets} (free : 0x0D ∉ bytes) : Unbroken bytes :=
  fun broken => free (broken.mem List.mem_cons_self)

/-- What does not end in a carriage return may be put before an unbroken line. -/
theorem unbroken_append {front back : Octets} (free : 0x0D ∉ front) (unbroken : Unbroken back) :
    Unbroken (front ++ back) := by
  induction front with
  | nil => exact unbroken
  | cons b rest ih =>
    rw [List.mem_cons, not_or] at free
    rw [List.cons_append, unbroken_cons_iff]
    exact ⟨fun starts => free.1 starts.1.symm, ih free.2⟩

/-! ## Cutting -/

theorem lines_crlf_append (rest : Octets) : lines (crlf ++ rest) = [] :: lines rest := by
  rw [crlf, List.cons_append, List.cons_append, List.nil_append, lines]

/-- An octet that does not start a line end belongs to the first line. -/
theorem lines_cons {b : UInt8} {rest first : Octets} {more : List Octets}
    (inside : ¬(b = 0x0D ∧ rest.head? = some 0x0A)) (cut : lines rest = first :: more) :
    lines (b :: rest) = (b :: first) :: more := by
  have noEnd : ∀ others, b = 0x0D → rest = 0x0A :: others → False := by
    rintro others isReturn rfl
    exact inside ⟨isReturn, rfl⟩
  rw [lines.eq_3 b rest noEnd, cut]

theorem exists_lines_eq_cons (bytes : Octets) : ∃ own rest, lines bytes = own :: rest := by
  fun_cases lines bytes with
  | case1 => exact ⟨_, _, rfl⟩
  | case2 rest => exact ⟨_, _, rfl⟩
  | case3 b rest notEnd missing => exact ⟨_, _, rfl⟩
  | case4 b rest notEnd line more found => exact ⟨_, _, rfl⟩

/-- A line end cuts, whatever stands before it. -/
theorem lines_append_crlf (front back : Octets) :
    lines (front ++ (crlf ++ back)) = lines front ++ lines back := by
  induction size : front.length using Nat.strongRecOn generalizing front with
  | ind length ih =>
    cases front with
    | nil => exact lines_crlf_append back
    | cons b rest =>
      rw [List.length_cons] at size
      by_cases cuts : b = 0x0D ∧ rest.head? = some 0x0A
      · obtain ⟨rfl, starts⟩ := cuts
        obtain ⟨others, rfl⟩ := List.head?_eq_some_iff.mp starts
        have shorter := ih others.length (by rw [← size, List.length_cons]; omega) others rfl
        have ends : ∀ tail, (0x0D :: 0x0A :: tail : Octets) = crlf ++ tail := fun _ => rfl
        rw [List.cons_append, List.cons_append, ends, lines_crlf_append, shorter, ends,
          lines_crlf_append, List.cons_append]
      · obtain ⟨first, more, cut⟩ := exists_lines_eq_cons rest
        have shorter := ih rest.length (by omega) rest rfl
        rw [cut, List.cons_append] at shorter
        have cuts' : ¬(b = 0x0D ∧ (rest ++ (crlf ++ back)).head? = some 0x0A) := by
          rintro ⟨isReturn, starts⟩
          -- only the return of the line end itself can follow the last octet of the front
          cases rest with
          | nil => cases starts
          | cons next others => exact cuts ⟨isReturn, starts⟩
        rw [List.cons_append, lines_cons cuts' shorter, lines_cons cuts cut, List.cons_append]

theorem lines_of_unbroken {line : Octets} (unbroken : Unbroken line) : lines line = [line] := by
  induction line with
  | nil => rfl
  | cons b rest ih =>
    rw [unbroken_cons_iff] at unbroken
    exact lines_cons unbroken.1 (ih unbroken.2)

/-- Lines that hold no line end come apart again where they were joined. -/
theorem lines_joined {parts : List Octets} (some_line : parts ≠ [])
    (unbroken : ∀ line ∈ parts, Unbroken line) : lines (joined crlf parts) = parts := by
  induction parts with
  | nil => exact absurd rfl some_line
  | cons line rest ih =>
    rw [List.forall_mem_cons] at unbroken
    cases rest with
    | nil => exact lines_of_unbroken unbroken.1
    | cons next more =>
      rw [joined_cons (List.cons_ne_nil next more), lines_append_crlf, lines_of_unbroken unbroken.1,
        ih (List.cons_ne_nil next more) unbroken.2, List.singleton_append]

/-- The lines with line ends between them are the whole. -/
theorem joined_lines (bytes : Octets) : joined crlf (lines bytes) = bytes := by
  fun_induction lines bytes with
  | case1 => rfl
  | case2 rest ih =>
    obtain ⟨first, more, cut⟩ := exists_lines_eq_cons rest
    rw [joined_cons (by rw [cut]; exact nofun), ih]
    rfl
  | case3 b rest _ missing =>
    obtain ⟨first, more, cut⟩ := exists_lines_eq_cons rest
    rw [cut] at missing
    cases missing
  | case4 b rest _ line more cut ih => rw [joined_cons_cons, ← cut, ih]

theorem unbroken_of_mem_lines {bytes line : Octets} (mem : line ∈ lines bytes) :
    Unbroken line := by
  fun_induction lines bytes generalizing line with
  | case1 =>
    rw [List.mem_singleton] at mem
    rw [mem]
    exact unbroken_nil
  | case2 rest ih =>
    rcases List.mem_cons.mp mem with rfl | mem
    · exact unbroken_nil
    · exact ih mem
  | case3 b rest _ missing =>
    obtain ⟨first, more, cut⟩ := exists_lines_eq_cons rest
    rw [cut] at missing
    cases missing
  | case4 b rest notEnd first more cut ih =>
    rw [cut] at ih
    rcases List.mem_cons.mp mem with rfl | mem
    · refine unbroken_cons_iff.mpr ⟨?_, ih List.mem_cons_self⟩
      rintro ⟨isReturn, starts⟩
      -- the first line after the octet starts as the octets after it do
      obtain ⟨others, rfl⟩ := List.head?_eq_some_iff.mp starts
      have whole := joined_lines rest
      rw [cut, joined_cons_cons] at whole
      exact notEnd _ isReturn whole.symm
    · exact ih (List.mem_cons_of_mem _ mem)

end Octets

end Signpost
