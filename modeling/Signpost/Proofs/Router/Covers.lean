import Signpost.Proofs.Request.Line
import Signpost.Router.Compile

/-!
# What a route below a base can match

A group is asked only if the path of the request starts with its base.  Nothing
is lost by that: a route below a base, whether it is found by its line or by
its components, only takes requests whose path starts with the base, up to
letter case.
-/

namespace Signpost

open Octets (slash)

namespace CaseMode

theorem lower_eq_of_same {mode : CaseMode} {a b : Octets} (same : mode.same a b = true) :
    a.lower = b.lower :=
  lower_eq_of_key_eq (eq_of_beq same)

end CaseMode

/-- Segments are written without a slash. -/
theorem RoutePath.full_of_isSegment {texts : List String} (segment : ∀ t ∈ texts, IsSegment t) :
    ∀ p ∈ texts.map Octets.ofText, p ≠ [] ∧ slash ∉ p := by
  intro p mem
  obtain ⟨text, member, rfl⟩ := List.mem_map.mp mem
  obtain ⟨full, free⟩ := segment text member
  rw [Ne, Octets.ofText_eq_nil_iff, Octets.slash_mem_ofText_iff]
  exact ⟨full, free⟩

namespace RouteTable

theorem coversSegments_iff (base : List String) (segments : List Octets) :
    coversSegments base segments = true ↔
      base.map (fun literal => (Octets.ofText literal).lower) <+: segments.map Octets.lower := by
  induction base generalizing segments with
  | nil => simp [coversSegments]
  | cons literal rest ih =>
    cases segments with
    | nil => simp [coversSegments]
    | cons segment more =>
      rw [coversSegments, Bool.and_eq_true, ih, List.map_cons, List.map_cons,
        List.cons_prefix_cons, Octets.eqFold, beq_iff_eq]
      exact and_congr_left' eq_comm

theorem coversSegments_of_append {base more : List String} {segments : List Octets}
    (covered : coversSegments (base ++ more) segments = true) :
    coversSegments base segments = true := by
  rw [coversSegments_iff] at covered ⊢
  rw [List.map_append] at covered
  exact (List.prefix_append _ _).trans covered

/-- The octets of a base with a path below it. -/
def beneath (base : List String) (rest : Octets) : Octets :=
  (base.map Octets.ofText).flatMap (slash :: ·) ++ rest

theorem coversSegments_of_path {base : List String} {rest path : Octets}
    (segment : ∀ s ∈ base, RoutePath.IsSegment s) (ends : rest = [] ∨ rest.head? = some slash)
    (same : path.lower = (beneath base rest).lower) :
    coversSegments base (fullPieces slash path) = true := by
  have whole := RoutePath.full_of_isSegment segment
  have pieces := fullPieces_map Octet.lower_eq_slash_iff path
  have lowered := fullPieces_map Octet.lower_eq_slash_iff (beneath base rest)
  have eq : path.map Octet.lower = (beneath base rest).map Octet.lower := same
  rw [eq, lowered, beneath, fullPieces_flatMap_append whole ends, List.map_append] at pieces
  rw [coversSegments_iff]
  have first : base.map (fun literal => (Octets.ofText literal).lower) =
      (base.map Octets.ofText).map (List.map Octet.lower) := by
    rw [List.map_map]
    rfl
  rw [first]
  exact ⟨_, pieces⟩

end RouteTable

namespace RouteLevel

theorem ofText_join_slash (texts : List String) :
    Octets.ofText (String.join (texts.map ("/" ++ ·))) =
      (texts.map Octets.ofText).flatMap (slash :: ·) := by
  rw [Octets.ofText_join, List.flatMap_map, List.flatMap_map]
  congr 1
  funext text
  rw [Octets.ofText_append]
  rfl

theorem ofText_joinPath {base : List String} (path : String) (nonempty : base ≠ []) :
    Octets.ofText (joinPath base path) =
      RouteTable.beneath base (if path == "/" then [] else Octets.ofText path) := by
  have full : ¬base.isEmpty = true := by simpa using nonempty
  rw [joinPath, if_neg full, Octets.ofText_append, ofText_join_slash, RouteTable.beneath]
  congr 1
  split <;> rfl

end RouteLevel

namespace RoutePath

theorem ofText_render_below {base : List String} (path : List PathComponent)
    (nonempty : base ≠ []) :
    Octets.ofText (render (base.map .literal ++ path)) =
      RouteTable.beneath base
        ((path.map fun c => Octets.ofText c.render).flatMap (slash :: ·)) := by
  cases base with
  | nil => exact absurd rfl nonempty
  | cons literal rest =>
    have texts : render ((literal :: rest).map .literal ++ path) =
        String.join (((literal :: rest) ++ path.map PathComponent.render).map ("/" ++ ·)) := by
      simp [render, PathComponent.render, Function.comp_def]
    rw [texts, RouteLevel.ofText_join_slash, RouteTable.beneath, List.map_append,
      List.flatMap_append, List.map_map]
    rfl

/-- What is matched one to one is also matched up to a catch-all. -/
theorem matchesOpen_of_matchesExact {mode : CaseMode} {path : List PathComponent}
    {segments : List Octets} (taken : matchesExact mode path segments = true) :
    matchesOpen mode path segments = true := by
  induction path generalizing segments with
  | nil =>
    cases segments with
    | nil => rfl
    | cons s ss => cases taken
  | cons c cs ih =>
    cases segments with
    | nil => cases c <;> cases taken
    | cons s ss =>
      rw [matchesExact, Bool.and_eq_true] at taken
      cases c with
      | catchAll => rfl
      | literal text => exact Bool.and_eq_true_iff.mpr ⟨taken.1, ih taken.2⟩
      | parameter name => exact Bool.and_eq_true_iff.mpr ⟨taken.1, ih taken.2⟩

/-- The literals of a base take the first segments. -/
theorem coversSegments_of_matchesOpen {mode : CaseMode} {base : List String}
    {path : List PathComponent} {segments : List Octets}
    (taken : matchesOpen mode (base.map .literal ++ path) segments = true) :
    RouteTable.coversSegments base segments = true := by
  induction base generalizing segments with
  | nil => rfl
  | cons literal rest ih =>
    cases segments with
    | nil => cases taken
    | cons segment more =>
      simp only [List.map_cons, List.cons_append, matchesOpen, Bool.and_eq_true] at taken
      have same := CaseMode.lower_eq_of_same taken.1
      rw [RouteTable.coversSegments, Octets.eqFold, same, ih taken.2, beq_self_eq_true]
      rfl

end RoutePath

end Signpost
