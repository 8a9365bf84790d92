import Signpost.Proofs.Router.Covers

/-!
# When two routes are the same

Two routes of one case mode are the same if they have the same method, the same
version and paths of the same shape, which makes it an equivalence
(`DynamicRoute.sameRoute_iff`).  For routes without parameters whose paths were
read from a text it is the same as having one start line, up to the letter case
that the mode leaves out (`DynamicRoute.lineKey_eq_iff`): a literal has no slash
in it, so the line determines where one literal ends and the next one starts.
-/

namespace Signpost

open Octets (slash)

/-- What a component takes, by the form in which literals are compared. -/
inductive ComponentShape where
  | literal (key : Octets)
  | parameter
  | catchAll

def PathComponent.shape (mode : CaseMode) : PathComponent → ComponentShape
  | .literal text => .literal (mode.key (Octets.ofText text))
  | .parameter _ => .parameter
  | .catchAll => .catchAll

namespace DynamicRoute

/-- What makes a route the one it is. -/
def identity (r : DynamicRoute) : Method × Version × List ComponentShape :=
  (r.method, r.version, r.path.map (·.shape r.mode))

theorem sameComponent_iff {mode : CaseMode} {a b : PathComponent} :
    sameComponent mode a b = true ↔ a.shape mode = b.shape mode := by
  cases a <;> cases b <;>
    simp [sameComponent, PathComponent.shape, CaseMode.same]

theorem sameShape_iff {mode : CaseMode} {a b : List PathComponent} :
    sameShape mode a b = true ↔ a.map (·.shape mode) = b.map (·.shape mode) := by
  induction a generalizing b with
  | nil => cases b <;> simp [sameShape]
  | cons c cs ih =>
    cases b with
    | nil => simp [sameShape]
    | cons d ds =>
      rw [sameShape, Bool.and_eq_true, sameComponent_iff, ih, List.map_cons, List.map_cons,
        List.cons_eq_cons]

theorem sameRoute_iff {a b : DynamicRoute} (own : a.mode = b.mode) :
    a.sameRoute b = true ↔ a.identity = b.identity := by
  rw [sameRoute, Bool.and_eq_true, Bool.and_eq_true, beq_iff_eq, beq_iff_eq, sameShape_iff,
    identity, identity, Prod.mk.injEq, Prod.mk.injEq, own, and_assoc]

/-- The path of the route was read from a text. -/
def IsDeclared (r : DynamicRoute) : Prop := ∃ path, RoutePath.parse path = .ok r.path

end DynamicRoute

/-! ## Paths that were read -/

namespace RoutePath

variable {path : String} {components : List PathComponent}

theorem eq_ok_of_parse (read : parse path = .ok components) :
    components = (fullPieces '/' path.toList).map PathComponent.ofSegment ∧
      check path components = .ok () := by
  obtain ⟨_, checked, eq⟩ := exists_of_bind_eq_ok read
  cases eq
  exact ⟨rfl, checked⟩

/-- A literal is some text between slashes. -/
theorem isSegment_of_parse (read : parse path = .ok components) {text : String}
    (mem : .literal text ∈ components) : IsSegment text := by
  rw [(eq_ok_of_parse read).1, List.mem_map] at mem
  obtain ⟨piece, whole, eq⟩ := mem
  have own : String.ofList piece = text := by
    unfold PathComponent.ofSegment at eq
    split at eq
    · cases eq
    · cases eq
    · exact PathComponent.literal.inj eq
  rw [← own]
  exact isSegment_of_mem_segments (List.mem_map_of_mem whole)

theorem check_tail {c : PathComponent} {rest : List PathComponent}
    (checked : check path (c :: rest) = .ok ()) :
    check path rest = .ok () ∧ (c = .catchAll → rest = []) := by
  unfold check at checked
  split at checked
  · next eq => cases eq
  · cases checked
  · cases checked
  · next last _ eq =>
    cases eq
    refine ⟨checked, ?_⟩
    rintro rfl
    cases rest with
    | nil => rfl
    | cons d ds => exact (last d ds rfl rfl).elim

/-- A catch-all stands at the end. -/
theorem last_of_check (checked : check path components = .ok ())
    (mem : .catchAll ∈ components) : components.getLast? = some .catchAll := by
  induction components with
  | nil => cases mem
  | cons c rest ih =>
    obtain ⟨checked, last⟩ := check_tail checked
    rw [List.mem_cons] at mem
    rcases mem with rfl | mem
    · rw [last rfl]
      rfl
    · rw [List.getLast?_cons, ih checked mem]
      rfl

theorem exists_texts (plain : hasParameters components = false) :
    ∃ texts : List String, components = texts.map .literal := by
  induction components with
  | nil => exact ⟨[], rfl⟩
  | cons c rest ih =>
    rw [hasParameters, List.any_cons, Bool.or_eq_false_iff] at plain
    obtain ⟨texts, rfl⟩ := ih plain.2
    cases c with
    | literal text => exact ⟨text :: texts, rfl⟩
    | parameter name => cases plain.1
    | catchAll => cases plain.1

/-! ## The line of a route without parameters -/

theorem shapes_literals (mode : CaseMode) (texts : List String) :
    (texts.map PathComponent.literal).map (·.shape mode) =
      ((texts.map Octets.ofText).map mode.key).map .literal := by
  rw [List.map_map, List.map_map, List.map_map]
  rfl

/-- The octets of a path with these segments. -/
def written (segments : List Octets) : Octets :=
  if segments.isEmpty then [slash] else segments.flatMap (slash :: ·)

theorem ofText_render_literals (texts : List String) :
    Octets.ofText (render (texts.map .literal)) = written (texts.map Octets.ofText) := by
  cases texts with
  | nil => rfl
  | cons text rest =>
    have below := ofText_render_below [] (List.cons_ne_nil text rest)
    rw [List.append_nil] at below
    rw [below, RouteTable.beneath]
    exact List.append_nil _

theorem key_written (mode : CaseMode) (segments : List Octets) :
    mode.key (written segments) = written (segments.map mode.key) := by
  cases mode with
  | sensitive =>
    have fixed : CaseMode.sensitive.key = id := rfl
    rw [fixed, List.map_id]
    rfl
  | insensitive =>
    cases segments with
    | nil => rfl
    | cons segment rest =>
      have kept : Octet.lower slash = slash := (Octet.lower_eq_slash_iff slash).mpr rfl
      simp [written, CaseMode.key, Octets.lower, List.map_flatMap, List.flatMap_map, kept]

theorem written_inj {a b : List Octets} (full : ∀ p ∈ a, p ≠ [] ∧ slash ∉ p)
    (full' : ∀ p ∈ b, p ≠ [] ∧ slash ∉ p) (eq : written a = written b) : a = b := by
  have pieces : ∀ segments : List Octets, (∀ p ∈ segments, p ≠ [] ∧ slash ∉ p) →
      fullPieces slash (written segments) = segments := by
    intro segments full
    cases segments with
    | nil => rfl
    | cons segment rest =>
      have apart := fullPieces_flatMap_append full (Or.inl rfl)
      rw [List.append_nil] at apart
      exact apart.trans (List.append_nil _)
  rw [← pieces a full, eq, pieces b full']

theorem full_key {mode : CaseMode} {segments : List Octets}
    (full : ∀ p ∈ segments, p ≠ [] ∧ slash ∉ p) :
    ∀ p ∈ segments.map mode.key, p ≠ [] ∧ slash ∉ p := by
  intro p mem
  obtain ⟨own, member, rfl⟩ := List.mem_map.mp mem
  obtain ⟨nonempty, free⟩ := full own member
  cases mode with
  | sensitive => exact ⟨nonempty, free⟩
  | insensitive =>
    refine ⟨by simpa [CaseMode.key, Octets.lower] using nonempty, ?_⟩
    intro mem
    obtain ⟨octet, inside, lowered⟩ := List.mem_map.mp mem
    rw [Octet.lower_eq_slash_iff] at lowered
    exact free (lowered ▸ inside)

end RoutePath

namespace DynamicRoute

open RoutePath

variable {a b r : DynamicRoute}

theorem IsDeclared.isCatchAll_iff (declared : r.IsDeclared) :
    r.isCatchAll = true ↔ .catchAll ∈ r.path := by
  obtain ⟨path, read⟩ := declared
  rw [isCatchAll, hasCatchAll_iff]
  exact ⟨List.mem_of_getLast?, last_of_check (eq_ok_of_parse read).2⟩

/-- A route without parameters is a list of segments. -/
theorem IsDeclared.exists_texts (declared : r.IsDeclared) (plain : r.isParameterless = true) :
    ∃ texts : List String, r.path = texts.map .literal ∧ ∀ t ∈ texts, IsSegment t := by
  obtain ⟨path, read⟩ := declared
  rw [isParameterless, Bool.not_eq_true'] at plain
  obtain ⟨texts, eq⟩ := RoutePath.exists_texts plain
  refine ⟨texts, eq, ?_⟩
  intro text mem
  apply isSegment_of_parse read
  rw [eq]
  exact List.mem_map_of_mem mem

theorem lineKey_eq (r : DynamicRoute) :
    r.lineKey =
      r.mode.key (Request.lineOf r.method (Octets.ofText (render r.path)) r.version) := by
  rw [lineKey, startLine, Request.ofText_line]

/-- Routes without parameters that are the same are keyed by the same line. -/
theorem lineKey_eq_of_identity (plain : a.isParameterless = true)
    (plain' : b.isParameterless = true) (own : a.mode = b.mode)
    (same : a.identity = b.identity) : a.lineKey = b.lineKey := by
  rw [isParameterless, Bool.not_eq_true'] at plain plain'
  obtain ⟨texts, path⟩ := RoutePath.exists_texts plain
  obtain ⟨texts', path'⟩ := RoutePath.exists_texts plain'
  rw [identity, identity, Prod.mk.injEq, Prod.mk.injEq, own, path, path', shapes_literals,
    shapes_literals, List.map_inj_right fun _ _ => ComponentShape.literal.inj] at same
  obtain ⟨method, version, keys⟩ := same
  rw [a.lineKey_eq, b.lineKey_eq, own, Request.key_lineOf_eq_iff, path, path',
    ofText_render_literals, ofText_render_literals, key_written, key_written, keys]
  exact ⟨method, version, rfl⟩

/-- Routes without parameters are the same if and only if they are keyed by the same line. -/
theorem lineKey_eq_iff (declared : a.IsDeclared) (declared' : b.IsDeclared)
    (plain : a.isParameterless = true) (plain' : b.isParameterless = true)
    (own : a.mode = b.mode) : a.lineKey = b.lineKey ↔ a.sameRoute b = true := by
  obtain ⟨texts, path, segments⟩ := declared.exists_texts plain
  obtain ⟨texts', path', segments'⟩ := declared'.exists_texts plain'
  rw [a.lineKey_eq, b.lineKey_eq, own, Request.key_lineOf_eq_iff, sameRoute_iff own, identity,
    identity, Prod.mk.injEq, Prod.mk.injEq, own, path, path', ofText_render_literals,
    ofText_render_literals, key_written, key_written, shapes_literals, shapes_literals,
    List.map_inj_right fun _ _ => ComponentShape.literal.inj]
  refine and_congr_right fun _ => and_congr_right fun _ => ?_
  exact ⟨written_inj (full_key (full_of_isSegment segments))
    (full_key (full_of_isSegment segments')), congrArg written⟩

end DynamicRoute

end Signpost
