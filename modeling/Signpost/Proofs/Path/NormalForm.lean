import Signpost.Proofs.Path.Instances

/-!
# The normal form of a declared path

Reading a path takes its segments one by one and refuses the first of them that is
out of place (`check_eq_error_iff`).  Whether there is one depends on the segments
alone, and a component is written as a segment that is read as it
(`PathComponent.IsWritten`).  So the text of a path that was read is read as the same
path: among all the texts of a path, with slashes too many or two asterisks for one,
it is the one that comes back (`parse_normalForm`).
-/

namespace Signpost

namespace PathComponent

theorem ofSegment_eq_catchAll_iff {segment : List Char} :
    ofSegment segment = .catchAll ↔ segment.head? = some '*' := by
  unfold ofSegment
  split
  · exact iff_of_false nofun nofun
  · exact iff_of_true rfl rfl
  · next unstarred =>
    refine iff_of_false nofun fun starred => ?_
    obtain ⟨more, eq⟩ := List.head?_eq_some_iff.mp starred
    exact unstarred more eq

theorem ofSegment_eq_nameless_iff {segment : List Char} :
    ofSegment segment = .parameter "" ↔ segment = [':'] := by
  unfold ofSegment
  split
  · next name =>
    rw [parameter.injEq, ← String.toList_eq_nil_iff, String.toList_ofList, List.cons_eq_cons]
    exact (and_iff_right rfl).symm
  · exact iff_of_false nofun nofun
  · next uncoloned _ =>
    refine iff_of_false nofun fun colon => uncoloned [] colon

/-- What is written for the component is a segment, and is read as the component. -/
structure IsWritten (c : PathComponent) : Prop where
  segment : RoutePath.IsSegment c.render
  reads : ofSegment c.render.toList = c

theorem isWritten_ofSegment {segment : List Char} (full : segment ≠ []) (free : '/' ∉ segment) :
    (ofSegment segment).IsWritten := by
  unfold ofSegment
  split
  · next name =>
    have text : (render (.parameter (String.ofList name))).toList = ':' :: name := by
      rw [render, String.toList_append]
      exact congrArg (':' :: ·) String.toList_ofList
    refine ⟨⟨?_, ?_⟩, ?_⟩
    · rw [Ne, ← String.toList_eq_nil_iff, text]
      exact List.cons_ne_nil ':' name
    · rw [text]
      exact free
    · rw [text]
      rfl
  · exact ⟨⟨by decide, by decide⟩, rfl⟩
  · next uncoloned unstarred =>
    have text : (render (.literal (String.ofList segment))).toList = segment := String.toList_ofList
    refine ⟨⟨?_, ?_⟩, ?_⟩
    · rw [Ne, ← String.toList_eq_nil_iff, text]
      exact full
    · rw [text]
      exact free
    · rw [text]
      unfold ofSegment
      split
      · next name => exact absurd rfl (uncoloned name)
      · next more => exact absurd rfl (unstarred more)
      · rfl

end PathComponent

namespace RoutePath

variable {path segment : String} {behind : List String} {components : List PathComponent}
  {e : PathError}

/-! ## Segments out of place -/

/-- What is out of place about a segment, by the segments behind it. -/
def fault? (path segment : String) (behind : List String) : Option PathError :=
  if segment.toList.head? = some '*' ∧ behind ≠ [] then some (.catchAllNotLast path)
  else if segment = ":" then some (.emptyParameterName path)
  else none

/-- The segment is in place wherever it stands. -/
structure FitsAnywhere (segment : String) : Prop where
  unstarred : segment.toList.head? ≠ some '*'
  named : segment ≠ ":"

theorem fault?_eq_none_iff : fault? path segment behind = none ↔
    (segment.toList.head? = some '*' → behind = []) ∧ segment ≠ ":" := by
  unfold fault?
  split
  · next out => exact iff_of_false nofun fun fits => out.2 (fits.1 out.1)
  · next last =>
    have ends : segment.toList.head? = some '*' → behind = [] :=
      fun starred => Decidable.byContradiction fun more => last ⟨starred, more⟩
    split
    · next colon => exact iff_of_false nofun fun fits => fits.2 colon
    · next named => exact iff_of_true rfl ⟨ends, named⟩

/-- With segments behind it, a segment has to fit anywhere. -/
theorem fault?_eq_none_iff_fitsAnywhere (some_behind : behind ≠ []) :
    fault? path segment behind = none ↔ FitsAnywhere segment := by
  rw [fault?_eq_none_iff]
  constructor
  · rintro ⟨last, named⟩
    exact ⟨fun starred => some_behind (last starred), named⟩
  · rintro ⟨unstarred, named⟩
    exact ⟨fun starred => absurd starred unstarred, named⟩

theorem check_cons (path : String) (c : PathComponent) (rest : List PathComponent) :
    check path (c :: rest) =
      if c = .catchAll ∧ rest ≠ [] then .error (.catchAllNotLast path)
      else if c = .parameter "" then .error (.emptyParameterName path)
      else check path rest := by
  cases c with
  | literal text => rfl
  | catchAll => cases rest <;> rfl
  | parameter name =>
    rw [if_neg fun out => nomatch out.1]
    split
    · next nameless =>
      rw [nameless]
      rfl
    · next named =>
      rw [check]
      · exact nofun
      · exact named

/-- The components that segments are read as. -/
def ofSegments (segments : List String) : List PathComponent :=
  segments.map fun segment => PathComponent.ofSegment segment.toList

/-- A path is checked segment by segment. -/
theorem check_ofSegments_cons (path segment : String) (behind : List String) :
    check path (ofSegments (segment :: behind)) =
      match fault? path segment behind with
      | some e => .error e
      | none => check path (ofSegments behind) := by
  have starred : PathComponent.ofSegment segment.toList = .catchAll ∧ ofSegments behind ≠ [] ↔
      segment.toList.head? = some '*' ∧ behind ≠ [] :=
    and_congr PathComponent.ofSegment_eq_catchAll_iff (not_congr List.map_eq_nil_iff)
  have colon : PathComponent.ofSegment segment.toList = .parameter "" ↔ segment = ":" := by
    rw [PathComponent.ofSegment_eq_nameless_iff, ← String.toList_inj]
    rfl
  rw [ofSegments, List.map_cons, ← ofSegments, check_cons, fault?]
  simp only [starred, colon]
  split
  · rfl
  · split <;> rfl

/-- A path is in order if only its last segment starts with an asterisk, and none is a colon and
nothing else. -/
theorem check_eq_ok_iff {segments : List String} :
    check path (ofSegments segments) = .ok () ↔
      (∀ s ∈ segments.dropLast, s.toList.head? ≠ some '*') ∧ ":" ∉ segments := by
  -- the last segment is the one with nothing behind it, so that is what each step looks at
  induction segments with
  | nil => exact iff_of_true rfl ⟨nofun, nofun⟩
  | cons segment behind ih =>
    have fits := @fault?_eq_none_iff path segment behind
    rw [check_ofSegments_cons, List.mem_cons, not_or]
    cases out : fault? path segment behind with
    | some e =>
      refine iff_of_false nofun ?_
      rintro ⟨unstarred, named, _⟩
      rw [fits.mpr ⟨fun starred => ?_, Ne.symm named⟩] at out
      · cases out
      · cases behind with
        | nil => rfl
        | cons next more => exact absurd starred (unstarred segment List.mem_cons_self)
    | none =>
      obtain ⟨last, named⟩ := fits.mp out
      dsimp only
      rw [ih, ← and_assoc, and_right_comm, and_iff_left (Ne.symm named)]
      refine and_congr_left' ?_
      cases behind with
      | nil => exact iff_of_true nofun nofun
      | cons next more =>
        rw [List.dropLast_cons_cons, List.forall_mem_cons]
        exact (and_iff_right fun starred => nomatch last starred).symm

/-- The first segment from the left that is out of place is the one that is reported. -/
theorem check_eq_error_iff {segments : List String} :
    check path (ofSegments segments) = .error e ↔
      ∃ before segment behind, segments = before ++ segment :: behind ∧
        (∀ s ∈ before, FitsAnywhere s) ∧ fault? path segment behind = some e := by
  induction segments with
  | nil =>
    refine iff_of_false nofun ?_
    rintro ⟨before, segment, behind, eq, _⟩
    exact List.append_ne_nil_of_right_ne_nil before (List.cons_ne_nil segment behind) eq.symm
  | cons segment rest ih =>
    rw [check_ofSegments_cons]
    cases out : fault? path segment rest with
    | some e' =>
      dsimp only
      rw [Except.error.injEq]
      constructor
      · rintro rfl
        exact ⟨[], segment, rest, rfl, nofun, out⟩
      · rintro ⟨before, s, behind, eq, fits, fault⟩
        cases before with
        | nil =>
          cases eq
          exact Option.some.inj (out.symm.trans fault)
        | cons first more =>
          cases eq
          -- the first segment fits, so it is not the one out of place
          have some_behind : more ++ s :: behind ≠ [] := by simp
          have inPlace := fits segment List.mem_cons_self
          cases out.symm.trans ((fault?_eq_none_iff_fitsAnywhere some_behind).mpr inPlace)
    | none =>
      dsimp only
      rw [ih]
      constructor
      · rintro ⟨before, s, behind, rfl, fits, fault⟩
        have some_behind : before ++ s :: behind ≠ [] := by simp
        refine ⟨segment :: before, s, behind, rfl, ?_, fault⟩
        rw [List.forall_mem_cons]
        exact ⟨(fault?_eq_none_iff_fitsAnywhere some_behind).mp out, fits⟩
      · rintro ⟨before, s, behind, eq, fits, fault⟩
        cases before with
        | nil =>
          cases eq
          rw [out] at fault
          cases fault
        | cons first more =>
          cases eq
          exact ⟨more, s, behind, rfl, fun t mem => fits t (List.mem_cons_of_mem _ mem), fault⟩

/-! ## Reading what is written -/

theorem parse_eq (path : String) :
    parse path =
      (check path (ofSegments (segments path))).map fun _ => ofSegments (segments path) := by
  have read : ofSegments (segments path) =
      (fullPieces '/' path.toList).map PathComponent.ofSegment := by
    rw [ofSegments, segments, List.map_map]
    exact List.map_congr_left fun piece _ => congrArg PathComponent.ofSegment String.toList_ofList
  rw [read, parse]
  cases check path ((fullPieces '/' path.toList).map PathComponent.ofSegment) <;> rfl

theorem parse_eq_ok_iff : parse path = .ok components ↔
    check path (ofSegments (segments path)) = .ok () ∧ components = ofSegments (segments path) := by
  rw [parse_eq]
  cases check path (ofSegments (segments path)) with
  | error e => exact iff_of_false nofun nofun
  | ok _ =>
    rw [Except.map, Except.ok.injEq, eq_comm]
    exact (and_iff_right rfl).symm

theorem parse_eq_error_iff :
    parse path = .error e ↔ check path (ofSegments (segments path)) = .error e := by
  rw [parse_eq]
  cases check path (ofSegments (segments path)) with
  | error e' => rw [Except.map, Except.error.injEq, Except.error.injEq]
  | ok _ => exact iff_of_false nofun nofun

theorem toList_render (some_component : components ≠ []) :
    (render components).toList = (components.map (·.render.toList)).flatMap ('/' :: ·) := by
  rw [render, String.toList_join, List.flatMap_map, List.flatMap_map]
  · simp only [String.toList_append]
    rfl
  · exact some_component

/-- What is written comes apart into what is written for the components. -/
theorem segments_render (written : ∀ c ∈ components, c.IsWritten) :
    segments (render components) = components.map PathComponent.render := by
  cases components with
  | nil => rfl
  | cons c rest =>
    have full : ∀ p ∈ (c :: rest).map (·.render.toList), p ≠ [] ∧ '/' ∉ p := by
      rw [List.forall_mem_map]
      intro own mem
      have segment := (written own mem).segment
      exact ⟨mt String.toList_eq_nil_iff.mp segment.1, segment.2⟩
    have apart := fullPieces_flatMap_append full (Or.inl rfl)
    rw [List.append_nil] at apart
    rw [segments, toList_render (List.cons_ne_nil c rest), apart, fullPieces, pieces,
      List.filter_cons_of_neg (by simp), List.filter_nil, List.append_nil, List.map_map]
    exact List.map_congr_left fun own _ => String.ofList_toList

theorem ofSegments_render (written : ∀ c ∈ components, c.IsWritten) :
    ofSegments (components.map PathComponent.render) = components := by
  rw [ofSegments, List.map_map]
  exact (List.map_congr_left fun c mem => (written c mem).reads).trans (List.map_id components)

theorem isWritten_of_parse (read : parse path = .ok components) :
    ∀ c ∈ components, c.IsWritten := by
  rw [(parse_eq_ok_iff.mp read).2, ofSegments, List.forall_mem_map]
  intro segment mem
  obtain ⟨full, free⟩ := isSegment_of_mem_segments mem
  exact PathComponent.isWritten_ofSegment (mt String.toList_eq_nil_iff.mp full) free

/-- The text of a path that was read is read as the path, since its segments are checked by what
they are read as. -/
theorem parse_render_of_parse (read : parse path = .ok components) :
    parse (render components) = .ok components := by
  have written := isWritten_of_parse read
  obtain ⟨checked, eq⟩ := parse_eq_ok_iff.mp read
  rw [parse_eq_ok_iff, segments_render written, ofSegments_render written]
  refine ⟨?_, rfl⟩
  rw [eq, check_eq_ok_iff]
  exact check_eq_ok_iff.mp checked

/-- A text is read as a path exactly if only its last segment starts with an asterisk and none is
a colon without a name, and it is refused for the first segment from the left that breaks this.
The text of a path that was read is read as that path and written again as it is, so paths are the
same exactly if their texts are. -/
theorem parse_normalForm (path : String) :
    ((∃ components, parse path = .ok components) ↔
      (∀ s ∈ (segments path).dropLast, s.toList.head? ≠ some '*') ∧ ":" ∉ segments path) ∧
    (∀ e, parse path = .error e ↔
      ∃ before segment behind, segments path = before ++ segment :: behind ∧
        (∀ s ∈ before, FitsAnywhere s) ∧ fault? path segment behind = some e) ∧
    ∀ components, parse path = .ok components →
      parse (render components) = .ok components ∧
      (∀ again, parse (render components) = .ok again → render again = render components) ∧
      ∀ other others, parse other = .ok others →
        (components = others ↔ render components = render others) := by
  refine ⟨?_, fun e => parse_eq_error_iff.trans check_eq_error_iff, ?_⟩
  · rw [← @check_eq_ok_iff path]
    constructor
    · rintro ⟨components, read⟩
      exact (parse_eq_ok_iff.mp read).1
    · intro checked
      exact ⟨_, parse_eq_ok_iff.mpr ⟨checked, rfl⟩⟩
  · intro components read
    have back := parse_render_of_parse read
    refine ⟨back, ?_, ?_⟩
    · intro again reread
      rw [Except.ok.inj (reread.symm.trans back)]
    · intro other others read'
      refine ⟨congrArg render, fun same => ?_⟩
      rw [same] at back
      exact Except.ok.inj (back.symm.trans (parse_render_of_parse read'))

/-- Slashes too many and two asterisks are not written again, and of two segments out of place the
first one is reported. -/
theorem parse_normalForm_filesPath :
    parse "//users/:id//**/" = .ok filesPath ∧ render filesPath = "/users/:id/*" ∧
      parse "/users/:id/*" = .ok filesPath ∧
      parse "/a/*/:" = .error (.catchAllNotLast "/a/*/:") := by
  have read : parse "//users/:id//**/" = .ok filesPath := rfl
  have text : render filesPath = "/users/:id/*" := rfl
  obtain ⟨_, _, back⟩ := parse_normalForm "//users/:id//**/"
  obtain ⟨_, refused, _⟩ := parse_normalForm "/a/*/:"
  refine ⟨read, text, text ▸ (back filesPath read).1, (refused _).mpr ?_⟩
  refine ⟨["a"], "*", [":"], rfl, ?_, rfl⟩
  rw [List.forall_mem_singleton]
  exact ⟨by decide, by decide⟩

end RoutePath

end Signpost
