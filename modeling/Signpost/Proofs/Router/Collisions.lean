import Signpost.Proofs.Router.Identity
import Signpost.Proofs.Router.Placement
import Signpost.Proofs.Text.Utf8

/-!
# Routes of a level that collide

Two static routes of one level that have one start line in one case mode still
have one line below any base, and two dynamic routes of one case mode with one
method, version and shape are still the same route there.  So the second of
them finds the first in its way, and where no route may replace another the
level cannot be compiled (`RouteLevel.pairwise_of_compileStatics`,
`RouteLevel.pairwise_of_compileDynamics`).  The paths may be any lists of
components, also such as no text is read to.
-/

namespace Signpost

open Octets (slash)

/-! ## Static routes -/

namespace CaseMode

theorem key_append (mode : CaseMode) (a b : Octets) :
    mode.key (a ++ b) = mode.key a ++ mode.key b := by
  cases mode with
  | sensitive => rfl
  | insensitive => exact Octets.lower_append a b

/-- No other octet is compared like a slash. -/
theorem key_eq_slash_iff {mode : CaseMode} {bytes : Octets} :
    mode.key bytes = [slash] ↔ bytes = [slash] := by
  cases mode with
  | sensitive => exact Iff.rfl
  | insensitive =>
    rw [key, Octets.lower, List.map_eq_singleton_iff]
    constructor
    · rintro ⟨octet, rfl, lowered⟩
      rw [(Octet.lower_eq_slash_iff octet).mp lowered]
    · rintro rfl
      exact ⟨slash, rfl, (Octet.lower_eq_slash_iff slash).mpr rfl⟩

end CaseMode

/-- Paths that are compared alike are compared alike below a base. -/
theorem RouteLevel.key_joinPath {mode : CaseMode} {path path' : String}
    (same : mode.key (Octets.ofText path) = mode.key (Octets.ofText path')) (base : List String) :
    mode.key (Octets.ofText (joinPath base path)) =
      mode.key (Octets.ofText (joinPath base path')) := by
  cases base with
  | nil => exact same
  | cons segment rest =>
    have root : ∀ path, path = "/" ↔ mode.key (Octets.ofText path) = [slash] := by
      intro path
      rw [CaseMode.key_eq_slash_iff]
      exact Utf8.ofText_inj.symm
    have both : path = "/" ↔ path' = "/" := by rw [root, root, same]
    rw [ofText_joinPath path (List.cons_ne_nil segment rest),
      ofText_joinPath path' (List.cons_ne_nil segment rest), RouteTable.beneath, RouteTable.beneath,
      CaseMode.key_append, CaseMode.key_append]
    congr 1
    by_cases own : path = "/"
    · simp [own, both.mp own]
    · simpa [own, mt both.mpr own] using same

/-- Routes of one line have one line below any base. -/
theorem StaticRoute.startLine_placed {a b : StaticRoute} (own : a.mode = b.mode)
    (same : a.startLine = b.startLine) (c : CompileSettings) (base : List String) :
    (a.placed c base).startLine = (b.placed c base).startLine := by
  rw [startLine_eq, startLine_eq, own, Request.key_lineOf_eq_iff] at same
  rw [startLine_eq, startLine_eq, placed, placed]
  dsimp only
  rw [own, Request.key_lineOf_eq_iff]
  exact ⟨same.1, same.2.1, RouteLevel.key_joinPath same.2.2 base⟩

/-- A line under which nothing is replaced is that of no route before. -/
theorem LineStore.Lists.absent {store : LineStore RenderedResponse} {routes : List StaticRoute}
    (lists : store.Lists routes) {r : StaticRoute} {response : RenderedResponse}
    (free : (store.register r.startLine r.mode response).1 = none) :
    ∀ other ∈ routes, ¬(other.mode = r.mode ∧ other.startLine = r.startLine) := by
  have listed := lists r.mode r.startLine
  rw [register_fst, r.tierKey_startLine] at free
  rw [respond?, free] at listed
  generalize first : firstStatic? r.mode r.startLine routes = found at listed
  cases listed
  intro other mem both
  have apart := List.find?_eq_none.mp first other mem
  simp [both.1, both.2] at apart

/-! ## Dynamic routes -/

def ComponentShape.isLiteral : ComponentShape → Bool
  | literal _ => true
  | _ => false

def ComponentShape.isCatchAll : ComponentShape → Bool
  | catchAll => true
  | _ => false

namespace DynamicRoute

variable {a b : DynamicRoute}

theorem isParameterless_eq_shapes (r : DynamicRoute) : r.isParameterless =
    !(r.path.map (·.shape r.mode)).any fun shape => !shape.isLiteral := by
  have literal : ∀ c : PathComponent, (c.shape r.mode).isLiteral = c.isLiteral := by
    intro c
    cases c <;> rfl
  simp only [isParameterless, RoutePath.hasParameters, List.any_map, Function.comp_def, literal]

theorem isCatchAll_eq_shapes (r : DynamicRoute) : r.isCatchAll =
    ((r.path.map (·.shape r.mode)).getLast?.map ComponentShape.isCatchAll).getD false := by
  have catches : ∀ c : PathComponent, (c.shape r.mode).isCatchAll = c.isCatchAll := by
    intro c
    cases c <;> rfl
  simp only [isCatchAll, RoutePath.hasCatchAll, List.getLast?_map, Option.map_map,
    Function.comp_def, catches]

theorem shapes_eq_of_identity (own : a.mode = b.mode) (same : a.identity = b.identity) :
    a.path.map (·.shape b.mode) = b.path.map (·.shape b.mode) := by
  rw [identity, identity, Prod.mk.injEq, Prod.mk.injEq, own] at same
  exact same.2.2

end DynamicRoute

/-- Routes that are the same are the same below any base. -/
theorem DynamicResponder.identity_placed {a b : DynamicResponder}
    (own : a.route.mode = b.route.mode) (same : a.route.identity = b.route.identity)
    (c : CompileSettings) (base : List String) (chain : MiddlewareChain) :
    (a.placed c base chain).route.identity = (b.placed c base chain).route.identity := by
  have shapes := DynamicRoute.shapes_eq_of_identity own same
  rw [DynamicRoute.identity, DynamicRoute.identity, Prod.mk.injEq, Prod.mk.injEq] at same
  rw [placed, placed, DynamicRoute.identity, DynamicRoute.identity, Prod.mk.injEq, Prod.mk.injEq]
  refine ⟨same.1, same.2.1, ?_⟩
  dsimp only
  rw [List.map_append, List.map_append, own, shapes]

/-- A route that a store takes up without replacing another is not the same as one before. -/
theorem DynamicStore.Lists.absent {s s' : DynamicStore} {routes : List DynamicResponder}
    (lists : s.Lists routes) {r : DynamicResponder} (done : s.register r false = .ok s') :
    ∀ old ∈ routes, old.route.mode = r.route.mode → old.route.identity ≠ r.route.identity := by
  intro old mem own same
  have shapes : old.route.path.map (·.shape old.route.mode) =
      r.route.path.map (·.shape r.route.mode) := by
    rw [own]
    exact DynamicRoute.shapes_eq_of_identity own same
  have plain : old.route.isParameterless = r.route.isParameterless := by
    rw [DynamicRoute.isParameterless_eq_shapes, shapes, ← DynamicRoute.isParameterless_eq_shapes]
  have catches : old.route.isCatchAll = r.route.isCatchAll := by
    rw [DynamicRoute.isCatchAll_eq_shapes, shapes, ← DynamicRoute.isCatchAll_eq_shapes]
  have length : old.route.path.length = r.route.path.length := by
    simpa using congrArg List.length shapes
  have refused : ∀ {part part' : List DynamicResponder}, place part r false = .ok part' →
      old ∉ part := by
    intro part part' placed inside
    cases placed_of_place placed with
    | added fresh =>
      have alike := (DynamicRoute.sameRoute_iff own).mpr same
      rw [fresh old inside] at alike
      cases alike
    | replaced allowed => cases allowed
  cases registered_of_register done with
  | parameterless parameterless free =>
    have none : s.parameterless.get? r.route.lineKey = none := by simpa using free
    rw [lists.parameterless, List.find?_eq_none] at none
    have line :=
      DynamicRoute.lineKey_eq_of_identity (plain.trans parameterless) parameterless own same
    have apart := none old mem
    simp [plain, parameterless, line] at apart
  | openEnded _ openEnded placed =>
    apply refused placed
    rw [lists.openEnded, List.mem_filter]
    exact ⟨mem, catches.trans openEnded⟩
  | bucket parametric bounded placed =>
    apply refused placed
    rw [lists.bucket, List.mem_filter]
    refine ⟨mem, ?_⟩
    simp [plain, parametric, catches, bounded, length]

/-! ## Levels -/

namespace RouteLevel

variable {c : CompileSettings} {base : List String} {chain : MiddlewareChain}

/-- No two static routes of a level that is compiled have one line. -/
theorem pairwise_of_compileStatics (strict : c.allowOverride = false) {statics : List StaticRoute}
    {store : LineStore RenderedResponse}
    (compiled : statics.foldlM (compileStatic c base) {} = .ok store) :
    statics.Pairwise fun a b => ¬(a.mode = b.mode ∧ a.startLine = b.startLine) := by
  suffices both : store.Lists (statics.map (·.placed c base)) ∧
      statics.Pairwise fun a b => ¬(a.mode = b.mode ∧ a.startLine = b.startLine) from both.2
  refine foldlM_append
    (P := fun done (store : LineStore RenderedResponse) =>
      store.Lists (done.map (·.placed c base)) ∧
        done.Pairwise fun a b => ¬(a.mode = b.mode ∧ a.startLine = b.startLine))
    ?_ [] statics ⟨LineStore.lists_empty, .nil⟩ compiled
  rintro done store r store' ⟨lists, apart⟩ added
  have next := (lists_compileStatic strict lists added).1
  obtain ⟨response, _, _, _, free⟩ := exists_of_compileStatic added
  rw [List.map_append, List.map_singleton, List.pairwise_append]
  refine ⟨next, apart, List.pairwise_singleton _ _, ?_⟩
  intro other mem last own both
  rw [List.mem_singleton.mp own] at both
  have line := StaticRoute.startLine_placed both.1 both.2 c base
  exact lists.absent (free strict) _ (List.mem_map_of_mem mem) ⟨both.1, line⟩

/-- No two dynamic routes of a level that is compiled are the same in one case mode. -/
theorem pairwise_of_compileDynamics (strict : c.allowOverride = false)
    {dynamics : List DynamicResponder} {stores : DynamicStore × DynamicStore}
    (compiled : dynamics.foldlM (compileDynamic c base chain)
      ({ mode := .sensitive }, { mode := .insensitive }) = .ok stores) :
    dynamics.Pairwise fun a b =>
      ¬(a.route.mode = b.route.mode ∧ a.route.identity = b.route.identity) := by
  suffices both : ListsBoth (dynamics.map (·.placed c base chain)) stores ∧
      dynamics.Pairwise fun a b =>
        ¬(a.route.mode = b.route.mode ∧ a.route.identity = b.route.identity) from both.2
  refine foldlM_append
    (P := fun done stores => ListsBoth (done.map (·.placed c base chain)) stores ∧
      done.Pairwise fun a b =>
        ¬(a.route.mode = b.route.mode ∧ a.route.identity = b.route.identity))
    ?_ [] dynamics ⟨listsBoth_empty, .nil⟩ compiled
  rintro done stores r stores' ⟨lists, apart⟩ added
  have next := listsBoth_compileDynamic strict lists added
  rw [List.map_append, List.map_singleton, List.pairwise_append]
  refine ⟨next, apart, List.pairwise_singleton _ _, ?_⟩
  intro other mem last own both
  rw [List.mem_singleton.mp own] at both
  have identity := DynamicResponder.identity_placed both.1 both.2 c base chain
  have there : other.placed c base chain ∈
      ofMode r.route.mode (done.map (·.placed c base chain)) := by
    rw [ofMode, List.mem_filter]
    exact ⟨List.mem_map_of_mem mem, by simpa [DynamicResponder.placed] using both.1⟩
  obtain ⟨store, mode, registered, _⟩ | ⟨store, mode, registered, _⟩ := compileDynamic_cases added
  · rw [strict] at registered
    rw [mode] at there
    exact lists.sensitive.absent registered _ there both.1 identity
  · rw [strict] at registered
    rw [mode] at there
    exact lists.insensitive.absent registered _ there both.1 identity

end RouteLevel

end Signpost
