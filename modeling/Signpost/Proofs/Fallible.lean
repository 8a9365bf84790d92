/-!
# Computations that may fail

A computation that has succeeded has succeeded in each of its parts, and the
parts give what the whole is made from.  For a fold this is an induction: what
describes the elements gone through describes them all in the end.
-/

namespace Signpost

section Parts

variable {α β ε ε' : Type} {x : Except ε α}

theorem exists_of_bind_eq_ok {f : α → Except ε β} {b : β} (done : x >>= f = .ok b) :
    ∃ a, x = .ok a ∧ f a = .ok b := by
  cases x with
  | error e => cases done
  | ok a => exact ⟨a, rfl, done⟩

theorem exists_of_map_eq_ok {f : α → β} {b : β} (done : x.map f = .ok b) :
    ∃ a, x = .ok a ∧ f a = b := by
  cases x with
  | error e => cases done
  | ok a =>
    cases done
    exact ⟨a, rfl, rfl⟩

theorem eq_ok_of_mapError_eq_ok {f : ε → ε'} {a : α} (done : x.mapError f = .ok a) :
    x = .ok a := by
  cases x with
  | error e => cases done
  | ok a =>
    cases done
    rfl

theorem toOption_eq_some_iff {a : α} : x.toOption = some a ↔ x = .ok a := by
  cases x with
  | error e => exact iff_of_false nofun nofun
  | ok b => rw [Except.toOption, Option.some_inj, Except.ok.injEq]

end Parts

/-- A check of all elements passes if each of them passes. -/
theorem forM_eq_ok_iff {α ε : Type} {check : α → Except ε Unit} {items : List α} :
    items.forM check = .ok () ↔ ∀ a ∈ items, check a = .ok () := by
  induction items with
  | nil => exact iff_of_true rfl nofun
  | cons a rest ih =>
    rw [List.forM_eq_forM] at ih ⊢
    rw [List.forM_cons, List.forall_mem_cons, ← ih]
    cases check a with
    | error e => exact iff_of_false nofun fun both => nomatch both.1
    | ok _ => exact (and_iff_right rfl).symm

/-- What a fold has gone through stays described as it goes on. -/
theorem foldlM_append {α β ε : Type} {f : β → α → Except ε β} {P : List α → β → Prop}
    (step : ∀ {done b a b'}, P done b → f b a = .ok b' → P (done ++ [a]) b') :
    ∀ (done items : List α) {b b' : β}, P done b → items.foldlM f b = .ok b' →
      P (done ++ items) b'
  | done, [], b, b', held, folded => by
    cases folded
    rw [List.append_nil]
    exact held
  | done, a :: rest, b, b', held, folded => by
    rw [List.foldlM_cons] at folded
    obtain ⟨next, first, folded⟩ := exists_of_bind_eq_ok folded
    have all := foldlM_append step (done ++ [a]) rest (step held first) folded
    rwa [List.append_assoc] at all

/-- A fold over one element more goes on from where the fold over the others ended. -/
theorem last_of_foldlM_concat {α β ε : Type} {f : β → α → Except ε β} {items : List α} {a : α}
    {b b' b'' : β} (folded : items.foldlM f b = .ok b')
    (all : (items ++ [a]).foldlM f b = .ok b'') : f b' a = .ok b'' := by
  rw [List.foldlM_append, folded] at all
  obtain ⟨last, added, done⟩ := exists_of_bind_eq_ok ((List.foldlM_cons ..).symm.trans all)
  cases done
  exact added

end Signpost
