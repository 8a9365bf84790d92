import Signpost.Octets
import Signpost.Path.Match

/-!
# Maps from start lines

A tier maps start lines to values.  It is a list of entries in the order in
which their lines were first put in, each line once.
-/

namespace Signpost

abbrev Tier (α : Type) := List (Octets × α)

namespace Tier

variable {α : Type}

/-- The value under a line. -/
def get? (t : Tier α) (line : Octets) : Option α :=
  (t.find? fun (key, _) => key == line).map Prod.snd

/-- Put a value under a line, in the place of the one that was there. -/
def put : Tier α → Octets → α → Tier α
  | [], line, value => [(line, value)]
  | (key, old) :: rest, line, value =>
    if key == line then (line, value) :: rest else (key, old) :: put rest line value

/-- No line stands twice. -/
def Distinct (t : Tier α) : Prop := (t.map Prod.fst).Nodup

theorem distinct_nil : Distinct ([] : Tier α) := List.nodup_nil

theorem get?_eq_none_iff {t : Tier α} {line : Octets} :
    t.get? line = none ↔ line ∉ t.map Prod.fst := by
  rw [get?, Option.map_eq_none_iff, List.find?_eq_none, List.mem_map]
  constructor
  · rintro absent ⟨entry, mem, eq⟩
    exact absent entry mem (by simp [eq])
  · intro absent entry mem eq
    exact absent ⟨entry, mem, by simpa using eq⟩

theorem put_of_not_mem {t : Tier α} {line : Octets} (value : α) (new : line ∉ t.map Prod.fst) :
    t.put line value = t ++ [(line, value)] := by
  induction t with
  | nil => rfl
  | cons entry rest ih =>
    obtain ⟨key, old⟩ := entry
    rw [List.map_cons, List.mem_cons, not_or] at new
    rw [put, if_neg (by simpa using Ne.symm new.1), ih new.2, List.cons_append]

theorem map_fst_put_of_mem {t : Tier α} {line : Octets} (value : α)
    (old : line ∈ t.map Prod.fst) : (t.put line value).map Prod.fst = t.map Prod.fst := by
  induction t with
  | nil => cases old
  | cons entry rest ih =>
    obtain ⟨key, previous⟩ := entry
    rw [put]
    by_cases same : key = line
    · simp [same]
    · rw [List.map_cons, List.mem_cons] at old
      rcases old with eq | old
      · exact absurd eq.symm same
      · simp [same, ih old]

theorem Distinct.put {t : Tier α} (distinct : t.Distinct) (line : Octets) (value : α) :
    (t.put line value).Distinct := by
  by_cases old : line ∈ t.map Prod.fst
  · rw [Distinct, map_fst_put_of_mem value old]
    exact distinct
  · rw [Distinct, put_of_not_mem value old, List.map_append, List.nodup_append]
    refine ⟨distinct, by simp, ?_⟩
    intro key mem other last same
    rw [List.map_singleton, List.mem_singleton] at last
    subst last
    exact old (same ▸ mem)

theorem Distinct.get?_eq_some_iff {t : Tier α} (distinct : t.Distinct) {line : Octets}
    {value : α} : t.get? line = some value ↔ (line, value) ∈ t := by
  induction t with
  | nil => simp [get?]
  | cons entry rest ih =>
    obtain ⟨key, first⟩ := entry
    rw [Distinct, List.map_cons, List.nodup_cons] at distinct
    have below := ih distinct.2
    rw [get?] at below ⊢
    by_cases same : key = line
    · subst same
      have absent : (key, value) ∉ rest := fun mem =>
        distinct.1 (List.mem_map.mpr ⟨_, mem, rfl⟩)
      simp [absent, eq_comm]
    · simp [same, Ne.symm same, below]

/-- The order of the entries does not matter. -/
theorem Distinct.get?_eq_of_perm {t u : Tier α} (distinct : t.Distinct) (perm : t.Perm u)
    (line : Octets) : t.get? line = u.get? line := by
  have other : u.Distinct := (perm.map Prod.fst).nodup_iff.mp distinct
  apply Option.ext
  intro value
  rw [distinct.get?_eq_some_iff, other.get?_eq_some_iff]
  exact perm.mem_iff

theorem get?_put (t : Tier α) (line other : Octets) (value : α) :
    (t.put line value).get? other = if other = line then some value else t.get? other := by
  induction t with
  | nil =>
    by_cases h : other = line
    · simp [put, get?, h]
    · simp [put, get?, h, Ne.symm h]
  | cons entry rest ih =>
    obtain ⟨key, old⟩ := entry
    simp only [get?] at ih
    rw [put]
    by_cases same : key = line
    · subst same
      by_cases h : other = key
      · simp [get?, h]
      · simp [get?, h, Ne.symm h]
    · by_cases h : key = other
      · subst h
        simp [get?, same]
      · simp [get?, same, h, ih]

/-- A value takes the place of the one under its line, or comes last. -/
theorem put_eq_findIdx? (t : Tier α) (line : Octets) (value : α) :
    t.put line value =
      match t.findIdx? fun entry => entry.1 == line with
      | none => t ++ [(line, value)]
      | some i => t.set i (line, value) := by
  induction t with
  | nil => rfl
  | cons entry rest ih =>
    obtain ⟨key, old⟩ := entry
    rw [put, List.findIdx?_cons]
    split
    · rfl
    · rw [ih]
      cases rest.findIdx? fun entry => entry.1 == line with
      | none => rfl
      | some i => rfl

theorem isSome_get? (t : Tier α) (line : Octets) :
    (t.get? line).isSome = (t.findIdx? fun entry => entry.1 == line).isSome := by
  rw [get?, Option.isSome_map, List.isSome_find?, List.findIdx?_isSome]

theorem mem_of_mem_put {t : Tier α} {line : Octets} {value : α} {entry : Octets × α}
    (mem : entry ∈ t.put line value) : entry ∈ t ∨ entry = (line, value) := by
  rw [put_eq_findIdx?] at mem
  split at mem
  · rw [List.mem_append, List.mem_singleton] at mem
    exact mem
  · exact List.mem_or_eq_of_mem_set mem

end Tier

end Signpost
