import Signpost.Proofs.Path.NormalForm
import Signpost.Proofs.Request.Bare
import Signpost.Proofs.Router.Identity
import Signpost.Proofs.Store.Dynamic
import Signpost.Proofs.Text.Utf8

/-!
# Routes and the paths they were declared with

A store with a single dynamic route is asked for the very path that declares the
route.  Routes with parameters are held against segments, and every path has the
segments of its own components (`RoutePath.matchesExact_own`).  A route without
parameters is looked up by a line in which its path is written anew, without the
slashes that stand behind others or at the end.  So it is found by its own path
exactly if that has no such slashes (`DynamicStore.resolve?_own`).
-/

namespace Signpost

open Octets (slash headEnd)

/-! ## Segments of a text -/

/-- A text may be cut at its slashes before or after it is written as octets. -/
theorem Octets.fullPieces_ofText (path : String) :
    fullPieces slash (ofText path) =
      (fullPieces '/' path.toList).map (·.flatMap String.utf8EncodeChar) := by
  refine fullPieces_flatMap (f := String.utf8EncodeChar) rfl ?_
    (fun _ => String.utf8EncodeChar_ne_nil) path.toList
  intro c mem
  rw [ascii_mem_utf8EncodeChar_iff (by decide)] at mem
  exact Char.ext (UInt32.toNat_inj.mp mem)

/-- A component takes the segment that it was read from. -/
theorem PathComponent.accepts_ofSegment (mode : CaseMode) (segment : List Char) :
    (ofSegment segment).accepts mode (segment.flatMap String.utf8EncodeChar) = true := by
  unfold ofSegment
  split
  · rfl
  · rfl
  · rw [accepts, Octets.ofText, String.toList_ofList, CaseMode.same, beq_self_eq_true]

namespace RoutePath

variable {path : String} {components : List PathComponent}

theorem matchesExact_own (read : parse path = .ok components) (mode : CaseMode) :
    matchesExact mode components (fullPieces slash (Octets.ofText path)) = true := by
  rw [(eq_ok_of_parse read).1, Octets.fullPieces_ofText]
  induction fullPieces '/' path.toList with
  | nil => rfl
  | cons segment rest ih =>
    rw [List.map_cons, List.map_cons, matchesExact, PathComponent.accepts_ofSegment, ih]
    rfl

/-- A path without parameters is made of its segments as literals. -/
theorem eq_literals_of_parse (read : parse path = .ok components)
    (plain : hasParameters components = false) : components = (segments path).map .literal := by
  rw [(eq_ok_of_parse read).1] at plain ⊢
  rw [segments, List.map_map]
  apply List.map_congr_left
  intro segment mem
  rw [hasParameters, List.any_eq_false] at plain
  have literal := plain _ (List.mem_map_of_mem mem)
  unfold PathComponent.ofSegment at literal ⊢
  split
  · exact absurd rfl literal
  · exact absurd rfl literal
  · rfl

/-! ## Paths written anew -/

/-- No slash stands behind another, nor at the end, if there is more than the one slash. -/
def IsTidy (path : String) : Prop := path = "/" ∨ [] ∉ pieces '/' path.toList.tail

instance (path : String) : Decidable (IsTidy path) :=
  inferInstanceAs (Decidable (path = "/" ∨ [] ∉ pieces '/' path.toList.tail))

theorem toList_render_segments (path : String) :
    (render ((segments path).map .literal)).toList =
      if fullPieces '/' path.toList = [] then ['/']
      else (fullPieces '/' path.toList).flatMap ('/' :: ·) := by
  have texts : ((segments path).map PathComponent.literal).map (·.render.toList) =
      fullPieces '/' path.toList := by
    rw [segments, List.map_map, List.map_map]
    exact (List.map_congr_left fun _ _ => String.toList_ofList).trans (List.map_id _)
  split
  · next none =>
    rw [segments, none]
    rfl
  · next some_piece =>
    rw [toList_render, texts]
    intro empty
    rw [empty] at texts
    exact some_piece texts.symm

theorem render_segments_sublist (rooted : path.toList.head? = some '/') :
    (render ((segments path).map .literal)).toList.Sublist path.toList := by
  obtain ⟨below, own⟩ := List.head?_eq_some_iff.mp rooted
  rw [toList_render_segments, own, fullPieces_cons_sep]
  split
  · exact (List.nil_sublist below).cons_cons '/'
  · exact sublist_flatMap_fullPieces '/' below

theorem render_segments_eq_iff (rooted : path.toList.head? = some '/') :
    render ((segments path).map .literal) = path ↔ IsTidy path := by
  obtain ⟨below, own⟩ := List.head?_eq_some_iff.mp rooted
  have root : path = "/" ↔ below = [] := by
    rw [← String.toList_inj, own]
    exact List.cons_eq_cons.trans (and_iff_right rfl)
  rw [IsTidy, root, ← String.toList_inj, toList_render_segments, own, fullPieces_cons_sep,
    List.tail_cons, ← flatMap_fullPieces_eq_iff]
  split
  · next none =>
    rw [none]
    simp [eq_comm]
  · next some_piece =>
    have nonempty : below ≠ [] := by
      rintro rfl
      exact some_piece rfl
    simp [nonempty]

end RoutePath

/-- Texts of which one is the other with some letters left out are compared as they are. -/
theorem CaseMode.key_ofText_eq_iff_of_sublist (mode : CaseMode) {a b : String}
    (shorter : a.toList.Sublist b.toList) :
    mode.key (Octets.ofText a) = mode.key (Octets.ofText b) ↔ a = b := by
  constructor
  · intro same
    have lowered := CaseMode.lower_eq_of_key_eq same
    rw [Octets.lower_ofText, Octets.lower_ofText, Utf8.ofText_inj] at lowered
    have lengths := congrArg (·.toList.length) lowered
    simp only [asciiLower, String.toList_map, List.length_map] at lengths
    exact String.toList_inj.mp (shorter.eq_of_length lengths)
  · rintro rfl
    rfl

namespace DynamicStore

/-- An empty store takes up every route of its case mode. -/
theorem exists_register_empty {mode : CaseMode} {r : DynamicResponder} (own : r.route.mode = mode)
    (allowOverride : Bool) :
    ∃ store, register { mode } r allowOverride = .ok store ∧ store.mode = mode ∧
      store.Lists [r] := by
  have sameMode : ¬(r.route.mode != mode) = true := by simp [own]
  cases plain : r.route.isParameterless with
  | true =>
    refine ⟨_, ?_, rfl, (lists_empty mode).append_parameterless plain rfl⟩
    rw [register, enter, if_neg sameMode, if_pos plain]
    rfl
  | false =>
    cases catches : r.route.isCatchAll with
    | true =>
      refine ⟨_, ?_, rfl, (lists_empty mode).append_openEnded catches⟩
      rw [register, enter, if_neg sameMode, if_neg (by simp [plain]), if_pos catches]
      rfl
    | false =>
      refine ⟨_, ?_, rfl, (lists_empty mode).append_bucket plain catches⟩
      rw [register, enter, if_neg sameMode, if_neg (by simp [plain]), if_neg (by simp [catches])]
      rfl

/-- A route with parameters alone in its store takes the segments of its own path. -/
theorem Lists.resolve?_of_matchesExact {s : DynamicStore} {r : DynamicResponder} {request : Request}
    (lists : s.Lists [r]) (parametric : r.route.isParameterless = false)
    (accepts : r.route.accepts request = true)
    (taken : RoutePath.matchesExact s.mode r.route.path request.segments = true) :
    (s.resolve? request).map DynamicMatch.responder = some r := by
  have takenOpen := RoutePath.matchesOpen_of_matchesExact taken
  rw [lists.resolve?_eq, firstDynamic?, firstPlain?, firstExact?, firstOpen?]
  cases catches : r.route.isCatchAll <;>
    simp [parametric, catches, accepts, taken, takenOpen, matchOf]

/-- A route without parameters alone in its store takes its line. -/
theorem Lists.resolve?_of_isParameterless {s : DynamicStore} {r : DynamicResponder}
    {request : Request} (lists : s.Lists [r]) (plain : r.route.isParameterless = true) :
    (s.resolve? request).map DynamicMatch.responder =
      if r.route.lineKey = s.mode.key request.startLine then some r else none := by
  have bounded := not_isCatchAll_of_isParameterless plain
  rw [lists.resolve?_eq, firstDynamic?, firstPlain?, firstExact?, firstOpen?]
  split
  · next same => simp [plain, same, matchOf]
  · next other => simp [plain, bounded, other]

end DynamicStore

namespace DynamicRoute

/-- What a route is declared with. -/
theorem exists_of_ofPath {method : Method} {path : String} {route : DynamicRoute}
    (declared : ofPath method path = .ok route) :
    path.toList.head? = some '/' ∧ ∃ components,
      RoutePath.parse path = .ok components ∧ route = { method, path := components } := by
  rw [ofPath] at declared
  split at declared
  · cases declared
  · next rooted =>
    split at declared
    · next components read =>
      cases declared
      exact ⟨by simpa using rooted, components, read, rfl⟩
    · cases declared

/-- The line of a route without parameters is that of a request for its own path exactly if the
path is tidy. -/
theorem lineKey_own_iff {path : String} {components : List PathComponent}
    (rooted : path.toList.head? = some '/') (read : RoutePath.parse path = .ok components)
    (plain : RoutePath.hasParameters components = false) (method : Method) (mode : CaseMode)
    (template : RouteTemplate) :
    lineKey { method, path := components, mode, template } =
      mode.key (Request.bare method (Octets.ofText path) .http11).startLine ↔
        RoutePath.IsTidy path := by
  rw [lineKey_eq, Request.bare, Request.key_lineOf_eq_iff,
    RoutePath.eq_literals_of_parse read plain,
    mode.key_ofText_eq_iff_of_sublist (RoutePath.render_segments_sublist rooted),
    RoutePath.render_segments_eq_iff rooted]
  exact (and_iff_right rfl).trans (and_iff_right rfl)

end DynamicRoute

/-- A route alone in its store is found by a request for the path that declares it, in whatever
case mode, if it has parameters or its path is tidy, and not otherwise. -/
theorem DynamicStore.resolve?_own {method : Method} {path : String} {route : DynamicRoute}
    (declared : DynamicRoute.ofPath method path = .ok route) (clean : (Octets.ofText path).Clean)
    (few : (fullPieces slash (Octets.ofText path)).length ≤ maxSegments) {mode : CaseMode}
    {r : DynamicResponder} (own : r.route = { route with mode, template := r.route.template })
    (allowOverride : Bool) :
    ∃ store request, register { mode } r allowOverride = .ok store ∧
      Request.parse (Request.lineOf method (Octets.ofText path) .http11 ++ headEnd) =
        .ok (some request) ∧
      (store.resolve? request).map DynamicMatch.responder =
        if route.isParameterless = true ∧ ¬RoutePath.IsTidy path then none else some r := by
  obtain ⟨rooted, components, read, rfl⟩ := DynamicRoute.exists_of_ofPath declared
  obtain ⟨store, registered, rfl, lists⟩ :=
    exists_register_empty (congrArg DynamicRoute.mode own) allowOverride
  have rootedOctets : (Octets.ofText path).head? = some slash := by
    obtain ⟨below, eq⟩ := List.head?_eq_some_iff.mp rooted
    rw [Octets.ofText, eq]
    rfl
  refine ⟨store, _, registered, Request.parse_bare rootedOctets clean few method .http11, ?_⟩
  -- Segments have forgotten the slashes that the line of the request still has.
  cases plain : RoutePath.hasParameters components with
  | true =>
    have parametric : r.route.isParameterless = false := by
      rw [own, DynamicRoute.isParameterless, plain]
      rfl
    have accepts : r.route.accepts (Request.bare method (Octets.ofText path) .http11) = true := by
      rw [own]
      simp [DynamicRoute.accepts, Request.bare]
    have taken : RoutePath.matchesExact store.mode r.route.path
        (fullPieces slash (Octets.ofText path)) = true := by
      rw [own]
      exact RoutePath.matchesExact_own read store.mode
    rw [lists.resolve?_of_matchesExact parametric accepts taken, if_neg]
    simp [DynamicRoute.isParameterless, plain]
  | false =>
    have bare : r.route.isParameterless = true := by
      rw [own, DynamicRoute.isParameterless, plain]
      rfl
    have line := DynamicRoute.lineKey_own_iff rooted read plain method store.mode r.route.template
    rw [← own] at line
    rw [lists.resolve?_of_isParameterless bare]
    simp [line, DynamicRoute.isParameterless, plain]

namespace DynamicStore

/-- Answers with what its responses start out as. -/
def echoing (route : DynamicRoute) : DynamicResponder where
  route
  handler := fun _ response => .ok response

/-- The slashes do no harm to a route with a parameter. -/
theorem resolve?_own_parameter :
    let route : DynamicRoute := { path := [.literal "users", .parameter "id"] }
    let r := echoing { route with mode := .insensitive }
    (DynamicRoute.ofPath .get "/users//:id/" = .ok route ∧ (Octets.ofText "/users//:id/").Clean ∧
      (fullPieces slash (Octets.ofText "/users//:id/")).length ≤ maxSegments) ∧
      ∃ store request, register { mode := .insensitive } r false = .ok store ∧
        Request.parse (Octets.ofText "GET /users//:id/ HTTP/1.1\r\n\r\n") = .ok (some request) ∧
        (store.resolve? request).map DynamicMatch.responder = some r := by
  intro route r
  have declared : DynamicRoute.ofPath .get "/users//:id/" = .ok route := rfl
  have clean : (Octets.ofText "/users//:id/").Clean := by decide
  have few : (fullPieces slash (Octets.ofText "/users//:id/")).length ≤ maxSegments := by decide
  have own : r.route =
      { route with mode := .insensitive, template := r.route.template } := rfl
  exact ⟨⟨declared, clean, few⟩, resolve?_own declared clean few own false⟩

/-- A route without parameters that was declared with a slash at the end takes no request for its
own path. -/
theorem resolve?_trailing_slash :
    let route : DynamicRoute := { path := [.literal "a"] }
    (DynamicRoute.ofPath .get "/a/" = .ok route ∧ (Octets.ofText "/a/").Clean ∧
      (fullPieces slash (Octets.ofText "/a/")).length ≤ maxSegments) ∧
      ∃ store request, register { mode := .sensitive } (echoing route) false = .ok store ∧
        Request.parse (Octets.ofText "GET /a/ HTTP/1.1\r\n\r\n") = .ok (some request) ∧
        (store.resolve? request).map DynamicMatch.responder = none := by
  intro route
  have rooted : (Octets.ofText "/a/").head? = some slash := rfl
  have clean : (Octets.ofText "/a/").Clean := by decide
  have few : (fullPieces slash (Octets.ofText "/a/")).length ≤ maxSegments := by decide
  have read := Request.parse_bare rooted clean few .get .http11
  obtain ⟨store, registered, same, lists⟩ := exists_register_empty (r := echoing route) rfl false
  refine ⟨⟨rfl, clean, few⟩, store, _, registered, read, ?_⟩
  have components : RoutePath.parse "/a/" = .ok route.path := rfl
  have line := DynamicRoute.lineKey_own_iff rfl components rfl .get .sensitive route.template
  have untidy : ¬RoutePath.IsTidy "/a/" := by decide
  rw [lists.resolve?_of_isParameterless rfl, same, if_neg]
  exact fun found => untidy (line.mp found)

end DynamicStore

end Signpost
