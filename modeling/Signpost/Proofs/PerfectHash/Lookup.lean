import Signpost.Proofs.Fallible
import Signpost.Proofs.PerfectHash.Search
import Signpost.Store.PerfectStore

/-!
# A table finds its own lines

Before a table is used it is asked for every key it was made from.  So whatever
the search for a hash does, a table that is there gives each of its lines the
number of that line.  On other lines it may still answer: with the number of a
line that agrees at all sampled positions.
-/

namespace Signpost

namespace PerfectTable

variable {s : Sampling} {c : HashCandidate} {table : PerfectTable}

/-- What a table is made of under a candidate, and that it finds every key again. -/
structure MadeFrom (s : Sampling) (c : HashCandidate) (t : PerfectTable) : Prop where
  candidate : t.candidate = c
  slots : t.slots = fillSlots c 0 s.keys (Array.replicate c.tableSize none)
  keys : t.keys = s.keys.toArray
  positions : t.positions = s.positions
  finds {index : Nat} {key : RouteKey} : s.keys[index]? = some key → t.lookup? key = some index

theorem madeFrom_of_ofCandidate? (made : ofCandidate? s c = some table) : MadeFrom s c table := by
  rw [ofCandidate?] at made
  split at made
  · next checked =>
    cases made
    refine ⟨rfl, rfl, rfl, rfl, fun {index key} there => ?_⟩
    rw [List.all_eq_true] at checked
    have found := checked (key, index) (List.mk_mem_zipIdx_iff_getElem?.mpr there)
    exact eq_of_beq found
  · cases made

/-- Every table comes from a candidate for the sampling of its lines. -/
theorem exists_candidate_of_build {entries : List HashEntry} {width : KeyWidth} {minimal : Bool}
    (built : build entries width minimal = .ok (some table)) :
    ∃ v, ∃ c ∈ (Sampling.ofEntries entries v).candidates,
      ofCandidate? (Sampling.ofEntries entries v) c = some table := by
  obtain ⟨_, _, searched⟩ := exists_of_bind_eq_ok built
  have found : width.upward.findSome? (atWidth? entries minimal) = some table :=
    Except.ok.inj searched
  obtain ⟨v, _, made⟩ := List.exists_of_findSome?_eq_some found
  have powered : power? (Sampling.ofEntries entries v) = some table →
      ∃ c ∈ (Sampling.ofEntries entries v).candidates,
        ofCandidate? (Sampling.ofEntries entries v) c = some table := by
    intro made
    obtain ⟨c, chosen, made⟩ := Option.bind_eq_some_iff.mp made
    exact ⟨c, Sampling.mem_candidates_of_power chosen, made⟩
  refine ⟨v, ?_⟩
  rw [atWidth?] at made
  split at made
  · rw [Option.orElse_eq_orElse, Option.orElse_eq_or, Option.or_eq_some_iff] at made
    rcases made with made | ⟨_, made⟩
    · obtain ⟨c, chosen, made⟩ := Option.bind_eq_some_iff.mp made
      exact ⟨c, Sampling.mem_candidates_of_minimal chosen, made⟩
    · exact powered made
  · exact powered made

end PerfectTable

section TableFor

variable {width : KeyWidth} {minimal : Bool} {lines : List Octets} {table : PerfectTable}

theorem exists_candidate_of_tableFor? (made : tableFor? width minimal lines = some table) :
    ∃ v c, PerfectTable.ofCandidate? (Sampling.ofEntries (hashEntries lines) v) c =
      some table := by
  rw [tableFor?] at made
  split at made
  · cases made
  · split at made
    · next built =>
      subst made
      obtain ⟨v, c, _, made⟩ := PerfectTable.exists_candidate_of_build built
      exact ⟨v, c, made⟩
    · cases made

/-- Every line has its own number. -/
theorem lookupLine?_of_tableFor? (made : tableFor? width minimal lines = some table) {index : Nat}
    {line : Octets} (there : lines[index]? = some line) :
    table.lookupLine? line = some index := by
  obtain ⟨v, c, made⟩ := exists_candidate_of_tableFor? made
  have parts := PerfectTable.madeFrom_of_ofCandidate? made
  rw [PerfectTable.lookupLine?, PerfectTable.keyOf, parts.positions]
  apply parts.finds
  simp [Sampling.ofEntries, hashEntries, there]

end TableFor

end Signpost
