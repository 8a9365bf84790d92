import Signpost.Proofs.PerfectHash.Lookup

/-!
# A tier with a table holds what was put

`PerfectTier.Coherent` is the invariant of a tier with a table: every line has
one position and a value there, and a filled cell holds the table of the lines
as they are now.  `PerfectTier.Holds` says that the tier answers like a plain
one.  Putting a value, choosing the kind of table and asking for the table keep
both, in any order.
-/

namespace Signpost

namespace Tier

variable {α : Type}

theorem length_put (t : Tier α) (line : Octets) (value : α) :
    (t.put line value).length = if (t.get? line).isSome then t.length else t.length + 1 := by
  by_cases old : line ∈ t.map Prod.fst
  · have there : (t.get? line).isSome = true := by
      rw [← Option.ne_none_iff_isSome]
      exact fun absent => get?_eq_none_iff.mp absent old
    have same := congrArg List.length (map_fst_put_of_mem value old)
    rw [List.length_map, List.length_map] at same
    rw [same, if_pos there]
  · rw [get?_eq_none_iff.mpr old, put_of_not_mem value old, List.length_append]
    rfl

/-- Putting entries whose lines are all new adds them at the end. -/
theorem foldl_put {t entries : Tier α} (distinct : Distinct (t ++ entries)) :
    entries.foldl (fun t entry => t.put entry.1 entry.2) t = t ++ entries := by
  induction entries generalizing t with
  | nil => simp
  | cons entry rest ih =>
    obtain ⟨line, value⟩ := entry
    have new : line ∉ t.map Prod.fst := by
      rw [Distinct, List.map_append, List.nodup_append] at distinct
      exact fun mem => distinct.2.2 line mem line (by simp) rfl
    have shifted : t ++ (line, value) :: rest = t ++ [(line, value)] ++ rest := by simp
    rw [shifted] at distinct ⊢
    rw [List.foldl_cons, put_of_not_mem value new]
    exact ih distinct

end Tier

/-- A line stands in a list with one more where it stood, or last. -/
theorem getElem?_concat_eq_some_iff {lines : List Octets} {line other : Octets} {position : Nat} :
    (lines ++ [line])[position]? = some other ↔
      lines[position]? = some other ∨ position = lines.length ∧ line = other := by
  rcases Nat.lt_trichotomy position lines.length with inside | rfl | outside
  · rw [List.getElem?_append_left inside]
    have earlier : ¬(position = lines.length ∧ line = other) :=
      fun last => Nat.ne_of_lt inside last.1
    rw [or_iff_left earlier]
  · have nothing : lines[lines.length]? = none := List.getElem?_eq_none (Nat.le_refl _)
    rw [List.getElem?_concat_length, nothing, Option.some_inj]
    simp
  · have nothing : lines[position]? = none := List.getElem?_eq_none (Nat.le_of_lt outside)
    have longer : (lines ++ [line])[position]? = none := by
      rw [List.getElem?_eq_none_iff, List.length_append, List.length_singleton]
      omega
    rw [nothing, longer]
    simp [Nat.ne_of_gt outside]

namespace PerfectTier

variable {α : Type}

section Put

variable {t : PerfectTier α} {line : Octets}

theorem put_of_some {position : Nat} (known : t.positions.get? line = some position) (value : α) :
    t.put line value =
      (t.values[position]?, { t with values := t.values.set position value }) := by
  rw [put, known]

theorem put_of_none (new : t.positions.get? line = none) (value : α) :
    t.put line value =
      (none, { t with
        lines := t.lines ++ [line]
        values := t.values ++ [value]
        positions := t.positions.put line t.lines.length
        cell := none }) := by
  rw [put, new]

end Put

/-- The position map knows every line at its place, each place has a value, and the table that is
kept is the one that would be generated now. -/
structure Coherent (t : PerfectTier α) : Prop where
  values_length : t.values.length = t.lines.length
  get?_positions : ∀ line position,
    t.positions.get? line = some position ↔ t.lines[position]? = some line
  cell_eq : ∀ table?, t.cell = some table? → table? = t.generate

namespace Coherent

variable {t : PerfectTier α}

theorem table?_eq (coherent : t.Coherent) : t.table? = t.generate := by
  unfold table?
  cases kept : t.cell with
  | none => rfl
  | some table? => exact coherent.cell_eq table? kept

/-- The table, with the line confirmed, finds what the position map finds. -/
theorem position?_eq (coherent : t.Coherent) (line : Octets) :
    t.position? line = t.positions.get? line := by
  unfold position?
  cases there : t.table? with
  | none => rfl
  | some table =>
    rw [coherent.table?_eq] at there
    cases known : t.positions.get? line with
    | some position =>
      have stands := (coherent.get?_positions line position).mp known
      have found := lookupLine?_of_tableFor? there stands
      simp only [found, if_pos stands]
    | none =>
      -- The table may answer with the place of another line; the comparison rejects it.
      cases hit : table.lookupLine? line with
      | none => simp only [hit]
      | some position =>
        have other : t.lines[position]? ≠ some line := by
          intro stands
          rw [(coherent.get?_positions line position).mpr stands] at known
          cases known
        simp only [hit, if_neg other]

theorem get?_eq (coherent : t.Coherent) (line : Octets) :
    t.get? line = (t.positions.get? line).bind (t.values[·]?) := by
  unfold get?
  rw [coherent.position?_eq]
  cases t.positions.get? line with
  | none => rfl
  | some position => rfl

theorem filled (coherent : t.Coherent) : t.filled.Coherent where
  values_length := coherent.values_length
  get?_positions := coherent.get?_positions
  cell_eq := by
    intro table? kept
    cases kept
    exact coherent.table?_eq

theorem setMinimal (coherent : t.Coherent) (minimal : Bool) : (t.setMinimal minimal).Coherent := by
  unfold PerfectTier.setMinimal
  split
  · exact coherent
  · exact ⟨coherent.values_length, coherent.get?_positions, fun _ kept => nomatch kept⟩

/-- Another value under a line that is known leaves the lines as they are. -/
theorem set_values (coherent : t.Coherent) (position : Nat) (value : α) :
    Coherent { t with values := t.values.set position value } where
  values_length := by
    rw [List.length_set]
    exact coherent.values_length
  get?_positions := coherent.get?_positions
  cell_eq := coherent.cell_eq

/-- A new line comes last, and no table is kept. -/
theorem append_line (coherent : t.Coherent) {line : Octets}
    (new : t.positions.get? line = none) (value : α) :
    Coherent { t with
      lines := t.lines ++ [line]
      values := t.values ++ [value]
      positions := t.positions.put line t.lines.length
      cell := none } where
  values_length := by
    have length := coherent.values_length
    simp only [List.length_append, List.length_singleton]
    omega
  get?_positions := by
    intro other position
    dsimp only
    rw [Tier.get?_put, getElem?_concat_eq_some_iff, ← coherent.get?_positions]
    by_cases same : other = line
    · rw [if_pos same, same, new, Option.some_inj, eq_comm]
      simp
    · rw [if_neg same]
      simp [Ne.symm same]
  cell_eq := nofun

theorem put (coherent : t.Coherent) (line : Octets) (value : α) :
    (t.put line value).2.Coherent := by
  cases known : t.positions.get? line with
  | some position =>
    rw [put_of_some known]
    exact coherent.set_values position value
  | none =>
    rw [put_of_none known]
    exact coherent.append_line known value

/-- A line that has a position has a value. -/
theorem position_lt (coherent : t.Coherent) {line : Octets} {position : Nat}
    (known : t.positions.get? line = some position) : position < t.values.length := by
  have stands := (coherent.get?_positions line position).mp known
  rw [coherent.values_length]
  exact (List.getElem?_eq_some_iff.mp stands).1

theorem position_inj (coherent : t.Coherent) {line other : Octets} {position : Nat}
    (known : t.positions.get? line = some position)
    (elsewhere : t.positions.get? other = some position) : line = other := by
  have stands := (coherent.get?_positions line position).mp known
  rw [(coherent.get?_positions other position).mp elsewhere] at stands
  exact (Option.some_inj.mp stands).symm

theorem get?_put (coherent : t.Coherent) (line other : Octets) (value : α) :
    (t.put line value).2.get? other = if other = line then some value else t.get? other := by
  rw [(coherent.put line value).get?_eq, coherent.get?_eq]
  cases known : t.positions.get? line with
  | some position =>
    rw [put_of_some known]
    by_cases same : other = line
    · simp [same, known, coherent.position_lt known]
    · rw [if_neg same]
      cases elsewhere : t.positions.get? other with
      | none => rfl
      | some q =>
        have apart : position ≠ q := by
          rintro rfl
          exact same (coherent.position_inj elsewhere known)
        simp [List.getElem?_set_ne apart]
  | none =>
    rw [put_of_none known, Tier.get?_put]
    by_cases same : other = line
    · simp [same, ← coherent.values_length]
    · rw [if_neg same, if_neg same]
      cases elsewhere : t.positions.get? other with
      | none => rfl
      | some q => simp [List.getElem?_append_left (coherent.position_lt elsewhere)]

end Coherent

theorem coherent_empty (width : KeyWidth) : ({ width } : PerfectTier α).Coherent where
  values_length := rfl
  get?_positions := by simp [Tier.get?]
  cell_eq := by simp

/-- The tier answers like a plain one. -/
structure Holds (t : PerfectTier α) (entries : Tier α) : Prop where
  coherent : t.Coherent
  get?_eq : ∀ line, t.get? line = entries.get? line
  length_eq : t.lines.length = entries.length

theorem holds_empty (width : KeyWidth) : ({ width } : PerfectTier α).Holds [] where
  coherent := coherent_empty width
  get?_eq := by
    intro line
    rw [(coherent_empty width).get?_eq]
    rfl
  length_eq := rfl

namespace Holds

variable {t : PerfectTier α} {entries : Tier α}

theorem filled (holds : t.Holds entries) : t.filled.Holds entries where
  coherent := holds.coherent.filled
  get?_eq := by
    intro line
    rw [← holds.get?_eq, holds.coherent.get?_eq, holds.coherent.filled.get?_eq]
    rfl
  length_eq := holds.length_eq

theorem setMinimal (holds : t.Holds entries) (minimal : Bool) :
    (t.setMinimal minimal).Holds entries where
  coherent := holds.coherent.setMinimal minimal
  get?_eq := by
    intro line
    rw [← holds.get?_eq, holds.coherent.get?_eq, (holds.coherent.setMinimal minimal).get?_eq]
    unfold PerfectTier.setMinimal
    split <;> rfl
  length_eq := by
    rw [← holds.length_eq]
    unfold PerfectTier.setMinimal
    split <;> rfl

theorem put (holds : t.Holds entries) (line : Octets) (value : α) :
    (t.put line value).2.Holds (entries.put line value) where
  coherent := holds.coherent.put line value
  get?_eq := by
    intro other
    rw [holds.coherent.get?_put, Tier.get?_put, holds.get?_eq]
  length_eq := by
    rw [Tier.length_put, ← holds.get?_eq, holds.coherent.get?_eq, ← holds.length_eq]
    cases known : t.positions.get? line with
    | none =>
      rw [put_of_none known]
      simp
    | some position =>
      rw [put_of_some known]
      simp [holds.coherent.position_lt known]

/-- The value that is replaced is told. -/
theorem put_fst (holds : t.Holds entries) (line : Octets) (value : α) :
    (t.put line value).1 = entries.get? line := by
  rw [← holds.get?_eq, holds.coherent.get?_eq]
  cases known : t.positions.get? line with
  | none =>
    rw [put_of_none known]
    rfl
  | some position =>
    rw [put_of_some known]
    rfl

theorem putAll (holds : t.Holds entries) (more : Tier α) :
    (t.putAll more).Holds (more.foldl (fun t entry => t.put entry.1 entry.2) entries) := by
  induction more generalizing t entries with
  | nil => exact holds
  | cons entry rest ih => exact ih (holds.put entry.1 entry.2)

end Holds

end PerfectTier

end Signpost
