import Signpost.Proofs.Text.Lines
import Signpost.Proofs.Text.Marks
import Signpost.Request.Parse

/-!
# Where a head ends

The head of a request is the shortest prefix that ends in a blank line.
`Octets.headLength?` says so; reading cuts a request at just that length
(`parse_eq_of_headLength?`), and what it makes of the head does not depend on
the octets that follow (`parseHead_body`).  So octets that arrive later never
change what is known of a head that is complete.  A head put together from lines
ends where they end (`headLength?_joined`).
-/

namespace Signpost

namespace Octets

/-- The length of the shortest prefix that ends in a blank line. -/
def headLength? (bytes : Octets) : Option Nat :=
  (List.range (bytes.length + 1)).find? fun n => headEnd.isSuffixOf (bytes.take n)

theorem headLength?_eq_some_iff {bytes : Octets} {n : Nat} :
    headLength? bytes = some n ↔
      n ≤ bytes.length ∧ headEnd <:+ bytes.take n ∧ ∀ m < n, ¬ headEnd <:+ bytes.take m := by
  rw [headLength?, List.find?_range_eq_some]
  constructor
  · rintro ⟨ends, bound, first⟩
    refine ⟨Nat.lt_succ_iff.mp (List.mem_range.mp bound), List.isSuffixOf_iff_suffix.mp ends, ?_⟩
    intro m before earlier
    have fails := first m before
    rw [List.isSuffixOf_iff_suffix.mpr earlier] at fails
    cases fails
  · rintro ⟨bound, ends, first⟩
    refine ⟨List.isSuffixOf_iff_suffix.mpr ends, List.mem_range.mpr (Nat.lt_succ_iff.mpr bound), ?_⟩
    intro m before
    rw [Bool.not_eq_true', ← Bool.not_eq_true, List.isSuffixOf_iff_suffix]
    exact first m before

theorem headLength?_eq_none_iff {bytes : Octets} :
    headLength? bytes = none ↔ ∀ n, ¬ headEnd <:+ bytes.take n := by
  rw [headLength?, List.find?_eq_none]
  constructor
  · intro missing n ends
    -- a prefix longer than the whole is the whole
    have whole : bytes.take n = bytes.take (min n bytes.length) := by
      rw [List.take_eq_take_iff]
      omega
    rw [whole] at ends
    exact missing (min n bytes.length) (List.mem_range.mpr (by omega))
      (List.isSuffixOf_iff_suffix.mpr ends)
  · intro missing n _ ends
    exact missing n (List.isSuffixOf_iff_suffix.mp ends)

theorem headLength?_eq_none_iff_not_infix {bytes : Octets} :
    headLength? bytes = none ↔ ¬headEnd <:+: bytes := by
  rw [headLength?_eq_none_iff]
  constructor
  · rintro missing ⟨front, back, rfl⟩
    apply missing (front ++ headEnd).length
    rw [List.take_left]
    exact List.suffix_append front headEnd
  · intro missing n ends
    exact missing (ends.isInfix.trans (List.take_prefix n bytes).isInfix)

/-- Octets behind a complete head do not move its end. -/
theorem headLength?_append {bytes rest : Octets} {n : Nat} (found : headLength? bytes = some n) :
    headLength? (bytes ++ rest) = some n := by
  obtain ⟨bound, ends, first⟩ := headLength?_eq_some_iff.mp found
  refine headLength?_eq_some_iff.mpr ⟨?_, ?_, fun m before => ?_⟩
  · rw [List.length_append]
    omega
  · rwa [List.take_append_of_le_length bound]
  · rw [List.take_append_of_le_length (by omega)]
    exact first m before

theorem headLength?_take {bytes : Octets} {n k : Nat} (found : headLength? bytes = some n)
    (reach : n ≤ k) : headLength? (bytes.take k) = some n := by
  obtain ⟨bound, ends, first⟩ := headLength?_eq_some_iff.mp found
  refine headLength?_eq_some_iff.mpr ⟨?_, ?_, fun m before => ?_⟩
  · rw [List.length_take]
    omega
  · rwa [List.take_take, Nat.min_eq_left reach]
  · rw [List.take_take, Nat.min_eq_left (by omega)]
    exact first m before

/-- A prefix that ends before the head does holds no head. -/
theorem headLength?_take_of_lt {bytes : Octets} {n k : Nat} (found : headLength? bytes = some n)
    (short : k < n) : headLength? (bytes.take k) = none := by
  obtain ⟨_, _, first⟩ := headLength?_eq_some_iff.mp found
  refine headLength?_eq_none_iff.mpr fun m ends => ?_
  rw [List.take_take] at ends
  exact first (min m k) (by omega) ends

/-- While no head is complete the head of all octets ends among those to come. -/
theorem lt_of_headLength?_append {bytes rest : Octets} {n : Nat}
    (missing : headLength? bytes = none) (found : headLength? (bytes ++ rest) = some n) :
    bytes.length < n := by
  obtain ⟨_, ends, _⟩ := headLength?_eq_some_iff.mp found
  rcases Nat.lt_or_ge bytes.length n with beyond | within
  · exact beyond
  · rw [List.take_append_of_le_length within] at ends
    exact absurd ends (headLength?_eq_none_iff.mp missing n)

/-- The cut of a request stands at the end of its head. -/
theorem headLength?_eq_cutMark? (bytes : Octets) :
    headLength? bytes =
      (cutMark? headEnd bytes).map fun pieces => pieces.1.length + headEnd.length := by
  cases cut : cutMark? headEnd bytes with
  | none => exact headLength?_eq_none_iff.mpr (not_suffix_take cut)
  | some pieces =>
    obtain ⟨front, back⟩ := pieces
    have whole := eq_append_of_cutMark? cut
    refine headLength?_eq_some_iff.mpr ⟨?_, ?_, fun m before earlier => ?_⟩ <;>
      dsimp only at *
    · rw [whole, List.length_append, List.length_append]
      omega
    · rw [whole, ← List.length_append, List.take_left]
      exact List.suffix_append _ _
    · have reach := le_of_suffix_take cut earlier
      omega

theorem cutMark?_of_headLength? {bytes : Octets} {n : Nat} (found : headLength? bytes = some n) :
    cutMark? headEnd bytes = some (bytes.take (n - headEnd.length), bytes.drop n) ∧
      headEnd.length ≤ n := by
  rw [headLength?_eq_cutMark?] at found
  obtain ⟨⟨front, back⟩, cut, length⟩ := Option.map_eq_some_iff.mp found
  dsimp only at length
  subst length
  have whole := eq_append_of_cutMark? cut
  refine ⟨?_, by omega⟩
  have frontEq : bytes.take (front.length + headEnd.length - headEnd.length) = front := by
    rw [Nat.add_sub_cancel, whole, List.append_assoc, List.take_left]
  have backEq : bytes.drop (front.length + headEnd.length) = back := by
    rw [whole, ← List.length_append, List.drop_left]
  rw [cut, frontEq, backEq]

/-! ## Heads put together from lines -/

theorem lines_append_headEnd (front back : Octets) :
    lines (front ++ headEnd ++ back) = lines front ++ [] :: lines back := by
  have ends : front ++ headEnd ++ back = front ++ (crlf ++ (crlf ++ back)) := by
    rw [List.append_assoc]
    rfl
  rw [ends, lines_append_crlf, lines_crlf_append]

/-- The first blank line behind unbroken lines, none of them empty, is the one put there. -/
theorem length_joined_le {parts : List Octets} (some_line : parts ≠ [])
    (unbroken : ∀ line ∈ parts, Unbroken line) (full : [] ∉ parts) {front back body : Octets}
    (same : joined crlf parts ++ headEnd ++ body = front ++ headEnd ++ back) :
    (joined crlf parts).length ≤ front.length := by
  have cuts := congrArg lines same
  rw [lines_append_headEnd, lines_append_headEnd, lines_joined some_line unbroken] at cuts
  have first : parts <+: lines front := by
    rcases List.append_eq_append_iff.mp cuts with ⟨more, eq, _⟩ | ⟨more, eq, rest⟩
    · exact ⟨more, eq.symm⟩
    · cases more with
      | nil =>
        rw [List.append_nil] at eq
        exact eq ▸ List.prefix_rfl
      | cons line others =>
        -- the empty line behind the front would be one of the parts
        rw [List.cons_append, List.cons.injEq] at rest
        obtain ⟨rfl, _⟩ := rest
        exact absurd (eq ▸ List.mem_append_right _ List.mem_cons_self) full
  have shorter := length_joined_le_of_prefix crlf first
  rwa [joined_lines] at shorter

theorem headLength?_joined {parts : List Octets} (some_line : parts ≠ [])
    (unbroken : ∀ line ∈ parts, Unbroken line) (full : [] ∉ parts) (body : Octets) :
    headLength? (joined crlf parts ++ headEnd ++ body) =
      some ((joined crlf parts).length + headEnd.length) := by
  refine headLength?_eq_some_iff.mpr ⟨?_, ?_, fun m before ends => ?_⟩
  · simp only [List.length_append]
    omega
  · rw [← List.length_append, List.take_left]
    exact List.suffix_append _ _
  · obtain ⟨front, eq⟩ := ends
    have whole := List.take_append_drop m (joined crlf parts ++ headEnd ++ body)
    rw [← eq] at whole
    have reach := length_joined_le some_line unbroken full whole.symm
    have within := congrArg List.length eq
    rw [List.length_append, List.length_take] at within
    omega

end Octets

namespace Request

theorem parse_eq_none_of_headLength? {bytes : Octets} (missing : bytes.headLength? = none) :
    parse bytes = .ok none := by
  rw [Octets.headLength?_eq_cutMark?, Option.map_eq_none_iff] at missing
  rw [parse, missing]

theorem parse_eq_of_headLength? {bytes : Octets} {n : Nat} (found : bytes.headLength? = some n) :
    parse bytes =
      (parseHead (bytes.take (n - Octets.headEnd.length)) (bytes.drop n)).map some := by
  rw [parse, (Octets.cutMark?_of_headLength? found).1]

/-- The body is only passed on. -/
theorem parseHead_body (head body : Octets) :
    parseHead head body = (parseHead head []).map fun request => { request with body } := by
  obtain ⟨own, headerLines, split⟩ := Octets.exists_lines_eq_cons head
  simp only [parseHead, split, bind, Except.bind]
  cases parseLine own with
  | error e => rfl
  | ok line =>
    dsimp only
    cases checkTarget line.target with
    | error e => rfl
    | ok _ =>
      dsimp only
      split
      · rfl
      · cases parseHeaders maxHeaders headerLines with
        | error e => rfl
        | ok headers => rfl

/-- Octets behind a complete head go to the end of the body and change nothing else. -/
theorem parse_append {bytes : Octets} {n : Nat} (found : bytes.headLength? = some n)
    (rest : Octets) :
    parse (bytes ++ rest) =
      (parse bytes).map
        (Option.map fun request => { request with body := request.body ++ rest }) := by
  have bound := (Octets.headLength?_eq_some_iff.mp found).1
  have sameHead : (bytes ++ rest).take (n - Octets.headEnd.length) =
      bytes.take (n - Octets.headEnd.length) := List.take_append_of_le_length (by omega)
  rw [parse_eq_of_headLength? (Octets.headLength?_append found), parse_eq_of_headLength? found,
    sameHead, List.drop_append_of_le_length bound, parseHead_body _ (bytes.drop n ++ rest),
    parseHead_body _ (bytes.drop n)]
  cases parseHead (bytes.take (n - Octets.headEnd.length)) [] with
  | error e => rfl
  | ok request => rfl

/-- The octets up to the end of a head are never read as an incomplete one. -/
theorem exists_parse_take {bytes : Octets} {n : Nat} (found : bytes.headLength? = some n) :
    ∃ read : Except RequestError Request, parse (bytes.take n) = read.map some :=
  ⟨_, parse_eq_of_headLength? (Octets.headLength?_take found (Nat.le_refl n))⟩

/-- A prefix that holds the head is read like the head alone, up to the body. -/
theorem parse_take {bytes : Octets} {n k : Nat} (found : bytes.headLength? = some n)
    (reach : n ≤ k) :
    parse (bytes.take k) =
      (parse (bytes.take n)).map
        (Option.map fun request => { request with body := (bytes.take k).drop n }) := by
  have sameHead : (bytes.take k).take (n - Octets.headEnd.length) =
      (bytes.take n).take (n - Octets.headEnd.length) := by
    rw [List.take_take, List.take_take, Nat.min_eq_left (by omega), Nat.min_eq_left (by omega)]
  rw [parse_eq_of_headLength? (Octets.headLength?_take found reach),
    parse_eq_of_headLength? (Octets.headLength?_take found (Nat.le_refl n)), sameHead,
    parseHead_body _ ((bytes.take k).drop n), parseHead_body _ ((bytes.take n).drop n)]
  cases parseHead ((bytes.take n).take (n - Octets.headEnd.length)) [] with
  | error e => rfl
  | ok request => rfl

end Request

end Signpost
