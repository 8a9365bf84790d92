import Signpost.Proofs.Router.Identity
import Signpost.Proofs.Store.Override

/-!
# Matching as the inverse of instantiation

A path stands for the segments that come of it when its parameters are replaced
by segments and its catch-all by a list of them (`RoutePath.IsInstance`).  The
three walks over a path, an exact match, an open match and the capture, were
written each by itself; they agree because each of them inverts instantiation:
a match finds that there are values, and the capture tells which
(`RoutePath.matches_iff_instance`).

All of this rests on the shape of a path that was read from a text, in which
nothing stands behind a catch-all (`RoutePath.Orderly`).
-/

namespace Signpost

namespace RoutePath

/-- A path in which a catch-all stands nowhere but at the end. -/
inductive Orderly : List PathComponent → Prop
  | nil : Orderly []
  | catchAll : Orderly [.catchAll]
  | cons {c : PathComponent} {rest : List PathComponent} :
    c ≠ .catchAll → Orderly rest → Orderly (c :: rest)

/-- Segments in the form in which a path compares them: by their keys in the places of literals,
and as they are everywhere else. -/
def compared (mode : CaseMode) : List PathComponent → List Octets → List Octets
  | .literal _ :: cs, s :: ss => mode.key s :: compared mode cs ss
  | .parameter _ :: cs, s :: ss => s :: compared mode cs ss
  | _, segments => segments

/-- Segments come of a path when each of its parameters is replaced by a value and a catch-all by
the tail, up to what the case mode leaves out of literals. -/
structure IsInstance (mode : CaseMode) (components : List PathComponent)
    (values tail segments : List Octets) : Prop where
  count : values.length = components.countP PathComponent.isParameter
  tail_eq : hasCatchAll components = false → tail = []
  segments_eq :
    compared mode components segments =
      compared mode components (instantiate components values tail)

variable {mode : CaseMode} {path : String} {components rest : List PathComponent}
  {values tail segments : List Octets}

/-! ## The shape of a path -/

theorem orderly_of_check (checked : check path components = .ok ()) : Orderly components := by
  induction components with
  | nil => exact .nil
  | cons c rest ih =>
    obtain ⟨below, last⟩ := check_tail checked
    by_cases catches : c = .catchAll
    · rw [catches, last catches]
      exact .catchAll
    · exact .cons catches (ih below)

theorem orderly_of_parse (read : parse path = .ok components) : Orderly components :=
  orderly_of_check (eq_ok_of_parse read).2

theorem hasCatchAll_cons {c : PathComponent} (bounded : c ≠ .catchAll) :
    hasCatchAll (c :: rest) = hasCatchAll rest := by
  cases rest with
  | nil =>
    cases c with
    | catchAll => exact absurd rfl bounded
    | literal text => rfl
    | parameter name => rfl
  | cons d ds => rfl

/-- Without a catch-all both matches are the same. -/
theorem Orderly.matchesOpen_eq (orderly : Orderly components)
    (bounded : hasCatchAll components = false) (segments : List Octets) :
    matchesOpen mode components segments = matchesExact mode components segments := by
  induction orderly generalizing segments with
  | nil => cases segments <;> rfl
  | catchAll => cases bounded
  | @cons c rest other _ ih =>
    rw [hasCatchAll_cons other] at bounded
    cases segments with
    | nil =>
      rw [matchesOpen_nil other]
      cases c <;> rfl
    | cons s ss => rw [matchesOpen_cons other, matchesExact, ih bounded]

/-! ## Instances, component by component -/

theorem compared_sensitive (components : List PathComponent) (segments : List Octets) :
    compared .sensitive components segments = segments := by
  fun_induction compared .sensitive components segments with
  | case1 text cs s ss ih => rw [ih, CaseMode.key]
  | case2 name cs s ss ih => rw [ih]
  | case3 => rfl

theorem isInstance_nil : IsInstance mode [] values tail segments ↔
    values = [] ∧ tail = [] ∧ segments = [] := by
  constructor
  · intro own
    exact ⟨List.length_eq_zero_iff.mp own.count, own.tail_eq rfl, own.segments_eq⟩
  · rintro ⟨rfl, rfl, rfl⟩
    exact ⟨rfl, fun _ => rfl, rfl⟩

theorem isInstance_catchAll : IsInstance mode [.catchAll] values tail segments ↔
    values = [] ∧ segments = tail := by
  constructor
  · intro own
    exact ⟨List.length_eq_zero_iff.mp own.count, own.segments_eq⟩
  · rintro ⟨rfl, rfl⟩
    exact ⟨rfl, nofun, rfl⟩

/-- A literal stands for one segment, of its own key. -/
theorem isInstance_literal {text : String} :
    IsInstance mode (.literal text :: rest) values tail segments ↔
      ∃ s ss, segments = s :: ss ∧ mode.same (Octets.ofText text) s = true ∧
        IsInstance mode rest values tail ss := by
  constructor
  · rintro ⟨count, tail_eq, segments_eq⟩
    rw [hasCatchAll_cons (c := .literal text) nofun] at tail_eq
    rw [instantiate] at segments_eq
    cases segments with
    | nil => cases segments_eq
    | cons s ss =>
      obtain ⟨key, more⟩ := List.cons_eq_cons.mp segments_eq
      exact ⟨s, ss, rfl, beq_iff_eq.mpr key.symm, count, tail_eq, more⟩
  · rintro ⟨s, ss, rfl, same, count, tail_eq, segments_eq⟩
    refine ⟨count, ?_, ?_⟩
    · rwa [hasCatchAll_cons (c := .literal text) nofun]
    · rw [instantiate, compared, compared, segments_eq, beq_iff_eq.mp same]

/-- A parameter stands for one segment, which is its value. -/
theorem isInstance_parameter {name : String} :
    IsInstance mode (.parameter name :: rest) values tail segments ↔
      ∃ value more ss, values = value :: more ∧ segments = value :: ss ∧
        IsInstance mode rest more tail ss := by
  constructor
  · rintro ⟨count, tail_eq, segments_eq⟩
    rw [hasCatchAll_cons (c := .parameter name) nofun] at tail_eq
    rw [List.countP_cons_of_pos rfl] at count
    cases values with
    | nil => cases count
    | cons value more =>
      rw [instantiate] at segments_eq
      cases segments with
      | nil => cases segments_eq
      | cons s ss =>
        obtain ⟨rfl, below⟩ := List.cons_eq_cons.mp segments_eq
        exact ⟨s, more, ss, rfl, rfl, Nat.succ.inj count, tail_eq, below⟩
  · rintro ⟨value, more, ss, rfl, rfl, count, tail_eq, segments_eq⟩
    refine ⟨?_, ?_, ?_⟩
    · rw [List.countP_cons_of_pos rfl, List.length_cons, count]
    · rwa [hasCatchAll_cons (c := .parameter name) nofun]
    · rw [instantiate, compared, compared, segments_eq]

/-- A component that is no catch-all stands for a segment. -/
theorem not_isInstance_nil {c : PathComponent} (bounded : c ≠ .catchAll) :
    ¬IsInstance mode (c :: rest) values tail [] := by
  intro own
  cases c with
  | catchAll => exact bounded rfl
  | literal text =>
    obtain ⟨_, _, eq, _⟩ := isInstance_literal.mp own
    cases eq
  | parameter name =>
    obtain ⟨_, _, _, _, eq, _⟩ := isInstance_parameter.mp own
    cases eq

/-! ## Matching and capture -/

/-- An open match finds that there are values. -/
theorem Orderly.matchesOpen_iff (orderly : Orderly components) :
    matchesOpen mode components segments = true ↔
      ∃ values tail, IsInstance mode components values tail segments := by
  induction orderly generalizing segments with
  | nil =>
    cases segments with
    | nil => exact iff_of_true rfl ⟨[], [], isInstance_nil.mpr ⟨rfl, rfl, rfl⟩⟩
    | cons s ss =>
      refine iff_of_false nofun ?_
      rintro ⟨values, tail, own⟩
      cases (isInstance_nil.mp own).2.2
  | catchAll => exact iff_of_true rfl ⟨[], segments, isInstance_catchAll.mpr ⟨rfl, rfl⟩⟩
  | @cons c rest bounded _ ih =>
    cases segments with
    | nil =>
      rw [matchesOpen_nil bounded]
      refine iff_of_false nofun ?_
      rintro ⟨values, tail, own⟩
      exact not_isInstance_nil bounded own
    | cons s ss =>
      rw [matchesOpen_cons bounded, Bool.and_eq_true, ih]
      cases c with
      | catchAll => exact absurd rfl bounded
      | literal text =>
        simp only [isInstance_literal]
        constructor
        · rintro ⟨same, values, tail, own⟩
          exact ⟨values, tail, s, ss, rfl, same, own⟩
        · rintro ⟨values, tail, _, _, eq, same, own⟩
          cases eq
          exact ⟨same, values, tail, own⟩
      | parameter name =>
        simp only [isInstance_parameter]
        constructor
        · rintro ⟨_, values, tail, own⟩
          exact ⟨s :: values, tail, s, values, ss, rfl, rfl, own⟩
        · rintro ⟨_, tail, _, values, _, rfl, eq, own⟩
          cases eq
          exact ⟨rfl, values, tail, own⟩

/-- Without a catch-all there is no tail. -/
theorem exists_isInstance_iff (bounded : hasCatchAll components = false) :
    (∃ values tail, IsInstance mode components values tail segments) ↔
      ∃ values, IsInstance mode components values [] segments := by
  constructor
  · rintro ⟨values, tail, own⟩
    have none := own.tail_eq bounded
    exact ⟨values, none ▸ own⟩
  · rintro ⟨values, own⟩
    exact ⟨values, [], own⟩

/-- The capture gives the values back. -/
theorem Orderly.capture_eq (orderly : Orderly components)
    (own : IsInstance mode components values tail segments) :
    capture components segments = values ++ tail := by
  induction orderly generalizing values segments with
  | nil =>
    obtain ⟨rfl, rfl, rfl⟩ := isInstance_nil.mp own
    rfl
  | catchAll =>
    obtain ⟨rfl, rfl⟩ := isInstance_catchAll.mp own
    rfl
  | @cons c rest bounded _ ih =>
    cases c with
    | catchAll => exact absurd rfl bounded
    | literal text =>
      obtain ⟨s, ss, rfl, _, below⟩ := isInstance_literal.mp own
      exact ih below
    | parameter name =>
      obtain ⟨value, more, ss, rfl, rfl, below⟩ := isInstance_parameter.mp own
      exact congrArg (value :: ·) (ih below)

/-- Two lots of values are one, because their numbers are told by the path and both make up what is
captured. -/
theorem Orderly.values_unique (orderly : Orderly components) {values' tail' : List Octets}
    (own : IsInstance mode components values tail segments)
    (other : IsInstance mode components values' tail' segments) :
    values' = values ∧ tail' = tail := by
  have captured := (orderly.capture_eq other).symm.trans (orderly.capture_eq own)
  exact List.append_inj captured (other.count.trans own.count.symm)

/-- A path that was read matches exactly the segments that come of it, and captures what they come
of it by.  Where the letter case counts these are the very segments of an instantiation. -/
theorem matches_iff_instance (read : parse path = .ok components) (segments : List Octets) :
    (∀ mode,
      (hasCatchAll components = false →
        (matchesExact mode components segments = true ↔
          ∃ values, IsInstance mode components values [] segments) ∧
        (matchesOpen mode components segments = true ↔
          ∃ values, IsInstance mode components values [] segments)) ∧
      (hasCatchAll components = true →
        (matchesOpen mode components segments = true ↔
          ∃ values tail, IsInstance mode components values tail segments)) ∧
      ∀ values tail, IsInstance mode components values tail segments →
        capture components segments = values ++ tail ∧
        ∀ values' tail', IsInstance mode components values' tail' segments →
          values' = values ∧ tail' = tail) ∧
    ∀ values tail, IsInstance .sensitive components values tail segments ↔
      values.length = components.countP PathComponent.isParameter ∧
      (hasCatchAll components = false → tail = []) ∧
      segments = instantiate components values tail := by
  have orderly := orderly_of_parse read
  refine ⟨fun mode => ⟨?_, fun _ => orderly.matchesOpen_iff, ?_⟩, ?_⟩
  · intro bounded
    rw [← orderly.matchesOpen_eq bounded, orderly.matchesOpen_iff, exists_isInstance_iff bounded]
    exact ⟨Iff.rfl, Iff.rfl⟩
  · intro values tail own
    exact ⟨orderly.capture_eq own, fun _ _ other => orderly.values_unique own other⟩
  · intro values tail
    have same := fun segments => compared_sensitive components segments
    constructor
    · rintro ⟨count, tail_eq, segments_eq⟩
      rw [same, same] at segments_eq
      exact ⟨count, tail_eq, segments_eq⟩
    · rintro ⟨count, tail_eq, rfl⟩
      exact ⟨count, tail_eq, rfl⟩

/-- A literal, a parameter and a catch-all, each of them behind the one before. -/
def filesPath : List PathComponent := [.literal "users", .parameter "id", .catchAll]

/-- The literal in other letters, and two segments for the catch-all. -/
def filesSegments : List Octets := ["USERS", "7", "a", "B"].map Octets.ofText

theorem matches_iff_instance_filesPath :
    parse "/users/:id/*" = .ok filesPath ∧ hasCatchAll filesPath = true ∧
      matchesOpen .insensitive filesPath filesSegments = true ∧
      capture filesPath filesSegments = ["7", "a", "B"].map Octets.ofText ∧
      (∀ values tail, IsInstance .insensitive filesPath values tail filesSegments →
        values = ["7"].map Octets.ofText ∧ tail = ["a", "B"].map Octets.ofText) ∧
      ¬∃ values tail, IsInstance .sensitive filesPath values tail filesSegments := by
  have read : parse "/users/:id/*" = .ok filesPath := rfl
  have catches : hasCatchAll filesPath = true := rfl
  have own : IsInstance .insensitive filesPath (["7"].map Octets.ofText)
      (["a", "B"].map Octets.ofText) filesSegments := ⟨rfl, nofun, by decide⟩
  have all := (matches_iff_instance read filesSegments).1
  obtain ⟨captured, only⟩ := (all .insensitive).2.2 _ _ own
  refine ⟨read, catches, ((all .insensitive).2.1 catches).mpr ⟨_, _, own⟩, captured, only, ?_⟩
  rw [← (all .sensitive).2.1 catches]
  decide

end RoutePath

end Signpost
