import Signpost.Proofs.Request.Bare
import Signpost.Proofs.Router.Resolution

/-!
# Where static routes are stored, and which requests get there

A static route of a router that was built is stored in the table of its level, under the
line of its path below the bases of all levels around it (`RouteLevel.placed_of_compile`).
The path is checked before the bases are put in front of it, and the bases are not.  Where
they are clean, the shortest request for the path gets to that line; where one is not, no
request does, and the route is dead (`RouterPlan.line_reached`).
-/

namespace Signpost

open Octets (slash headEnd)

/-- A static route stands on a level or on one of the levels in it, behind this base. -/
inductive RouteLevel.Declares : RouteLevel → List String → List String → StaticRoute → Prop
  | own {level : RouteLevel} {above : List String} {route : StaticRoute} :
    route ∈ level.statics → Declares level above (above ++ level.base) route
  | group {level inner : RouteLevel} {above base : List String} {route : StaticRoute} :
    inner ∈ level.groups → Declares inner (above ++ level.base) base route →
    Declares level above base route

/-- A table is one of the tables of a router. -/
inductive RouteTable.HasTable : RouteTable → RouteTable → Prop
  | self (t : RouteTable) : HasTable t t
  | group {t g u : RouteTable} : g ∈ t.groups → HasTable g u → HasTable t u

/-! ## Paths that were checked -/

namespace StaticRoute

theorem startLine_eq (r : StaticRoute) :
    r.startLine = r.mode.key (Request.lineOf r.method (Octets.ofText r.path) r.version) := by
  rw [startLine, Request.ofText_line]

theorem clean_of_check {r : StaticRoute} (checked : r.check = .ok ()) :
    (Octets.ofText r.path).Clean := by
  unfold check pathFault? at checked
  dsimp only at checked
  split at checked
  · cases checked
  · next none =>
    split at none
    · cases none
    split at none
    · cases none
    split at none
    · cases none
    next unblank unmarked =>
    rw [Bool.not_eq_true, List.any_eq_false] at unblank unmarked
    intro b mem
    have blank := unblank b mem
    have mark := unmarked b mem
    simp only [Octet.isWhitespace, Bool.or_eq_true, not_or, Bool.not_eq_true] at blank mark
    simp [Octet.isBarred, Octets.space, blank, mark]

end StaticRoute

namespace RouteLevel

/-- A path below a base starts with a slash. -/
theorem head?_joinPath (base : List String) {path : String}
    (rooted : (Octets.ofText path).head? = some slash) :
    (Octets.ofText (joinPath base path)).head? = some slash := by
  cases base with
  | nil => exact rooted
  | cons segment rest =>
    rw [ofText_joinPath path (List.cons_ne_nil segment rest)]
    rfl

/-- A path below a base is clean exactly if the base is. -/
theorem clean_joinPath_iff (base : List String) {path : String}
    (clean : (Octets.ofText path).Clean) :
    (Octets.ofText (joinPath base path)).Clean ↔ ∀ s ∈ base, (Octets.ofText s).Clean := by
  cases base with
  | nil => exact iff_of_true clean nofun
  | cons segment rest =>
    have below : Octets.Clean (if path == "/" then [] else Octets.ofText path) := by
      split
      · exact nofun
      · exact clean
    rw [ofText_joinPath path (List.cons_ne_nil segment rest), RouteTable.beneath,
      Octets.clean_append, and_iff_left below, Octets.clean_flatMap_slash, List.forall_mem_map]

variable {c : CompileSettings}

/-- A static route has passed its check, and there is a response under its line: its own, if no
route may replace another. -/
structure Stored (c : CompileSettings) (base : List String) (route : StaticRoute)
    (respond? : Octets → CaseMode → Option RenderedResponse) : Prop where
  checked : route.check = .ok ()
  held : ∃ response, respond? (route.placed c base).startLine (route.placed c base).mode =
      some response ∧
    (c.allowOverride = false → (route.placed c base).template.compile = .ok response)

/-- Adding a route leaves those stored that are. -/
theorem Stored.compileStatic {base : List String} {lines lines' : LineStore RenderedResponse}
    {route r : StaticRoute} (stored : Stored c base route lines.respond?)
    (added : RouteLevel.compileStatic c base lines r = .ok lines') :
    Stored c base route lines'.respond? := by
  obtain ⟨response, _, _, rfl, free⟩ := exists_of_compileStatic added
  obtain ⟨checked, old, there, own⟩ := stored
  refine ⟨checked, ?_⟩
  rw [LineStore.respond?_register_startLine]
  split
  · next same =>
    refine ⟨response, rfl, ?_⟩
    intro strict
    -- Where no route may replace another, the line would have been refused as held.
    rw [same.1, same.2, LineStore.respond?] at there
    have unheld := free strict
    rw [LineStore.register_fst, StaticRoute.tierKey_startLine, there] at unheld
    cases unheld
  · exact ⟨old, there, own⟩

/-- All static routes of a level are stored. -/
theorem stored_compileStatics {base : List String} {statics : List StaticRoute}
    {lines : LineStore RenderedResponse}
    (compiled : statics.foldlM (compileStatic c base) {} = .ok lines) :
    ∀ route ∈ statics, Stored c base route lines.respond? := by
  refine foldlM_append
    (P := fun done (lines : LineStore RenderedResponse) =>
      ∀ route ∈ done, Stored c base route lines.respond?)
    ?_ [] statics (List.forall_mem_nil _) compiled
  intro done lines r lines' stored added route mem
  rcases List.mem_append.mp mem with old | last
  · exact (stored route old).compileStatic added
  · obtain ⟨response, checked, rendered, rfl, _⟩ := exists_of_compileStatic added
    rw [List.mem_singleton.mp last]
    refine ⟨checked, response, ?_, fun _ => rendered⟩
    rw [LineStore.respond?_register_startLine, if_pos ⟨rfl, rfl⟩]

theorem exists_of_compileAll {levels : List RouteLevel} {above : List String}
    {inherited : MiddlewareChain} {tables : List RouteTable}
    (compiled : compileAll c levels above inherited = .ok tables) {level : RouteLevel}
    (mem : level ∈ levels) : ∃ t ∈ tables, level.compile c above inherited = .ok t := by
  induction levels generalizing tables with
  | nil => cases mem
  | cons first rest ih =>
    rw [compileAll] at compiled
    obtain ⟨t, own, compiled⟩ := exists_of_bind_eq_ok compiled
    obtain ⟨others, later, compiled⟩ := exists_of_bind_eq_ok compiled
    cases compiled
    rcases List.mem_cons.mp mem with rfl | mem
    · exact ⟨t, List.mem_cons_self, own⟩
    · obtain ⟨u, there, eq⟩ := ih later mem
      exact ⟨u, List.mem_cons_of_mem t there, eq⟩

/-- A declared route is stored in the table of its level. -/
theorem stored_of_compile {level : RouteLevel} {above base : List String} {route : StaticRoute}
    (declared : level.Declares above base route) {inherited : MiddlewareChain} {t : RouteTable}
    (compiled : level.compile c above inherited = .ok t) :
    ∃ u, t.HasTable u ∧ u.base = base ∧ Stored c base route u.statics.respond? := by
  -- Down from the level to where the route stands; the tables are nested as the levels are.
  induction declared generalizing inherited t with
  | own mem =>
    obtain ⟨lines, _, _, linesEq, _, _, rfl⟩ := exists_of_compile compiled
    obtain ⟨checked, held⟩ := stored_compileStatics linesEq _ mem
    have same := (PerfectStore.holds_compile lines c.width c.minimal).respond?_eq
    refine ⟨_, .self _, rfl, checked, ?_⟩
    rw [same]
    exact held
  | group mem _ ih =>
    obtain ⟨_, _, tables, _, _, tablesEq, rfl⟩ := exists_of_compile compiled
    obtain ⟨g, there, compiled⟩ := exists_of_compileAll tablesEq mem
    obtain ⟨u, inside, own, stored⟩ := ih compiled
    exact ⟨u, .group there inside, own, stored⟩

end RouteLevel

namespace RouterPlan

/-- Every static route of a router that was built is stored under its line.  If the bases around it
are clean, the line is that of a request for its path, as short as can be; if not, it is the line of
no request at all. -/
theorem line_reached {p : RouterPlan} {r : Router} (built : p.build = .ok r) {base : List String}
    {route : StaticRoute} (declared : p.routes.Declares [] base route)
    (few : (fullPieces slash (Octets.ofText (RouteLevel.joinPath base route.path))).length ≤
      maxSegments) :
    (∃ t, r.table.HasTable t ∧ t.base = base ∧
      RouteLevel.Stored p.settings base route t.statics.respond?) ∧
    ((∀ segment ∈ base, (Octets.ofText segment).Clean) →
      ∃ request,
        Request.parse (Request.lineOf route.method
          (Octets.ofText (RouteLevel.joinPath base route.path)) route.version ++ headEnd) =
            .ok (some request) ∧
        route.mode.key request.startLine = (route.placed p.settings base).startLine) ∧
    ∀ bytes request, Request.parse bytes = .ok (some request) →
      route.mode.key request.startLine = (route.placed p.settings base).startLine →
      ∀ segment ∈ base, (Octets.ofText segment).Clean := by
  obtain ⟨t, compiled, built⟩ := exists_of_bind_eq_ok built
  obtain ⟨notFound, _, built⟩ := exists_of_bind_eq_ok built
  cases built
  obtain ⟨u, inside, own, stored⟩ := RouteLevel.stored_of_compile declared compiled
  have clean := RouteLevel.clean_joinPath_iff base (StaticRoute.clean_of_check stored.checked)
  refine ⟨⟨u, inside, own, stored⟩, ?_, ?_⟩
  · intro cleanBase
    have rooted := RouteLevel.head?_joinPath base (head?_path_of_check stored.checked)
    refine ⟨_, Request.parse_bare rooted (clean.mpr cleanBase) few _ _, ?_⟩
    rw [StaticRoute.startLine_eq]
    rfl
  · intro bytes request read same
    rw [StaticRoute.startLine_eq] at same
    exact clean.mp (Request.clean_of_key_startLine read same)

def groupedRoute : StaticRoute where
  path := "/x"
  template := .text "x"

/-- A router with a fixed route in a group. -/
def groupedPlan (base : String) : RouterPlan where
  routes := RouteLevel.addGroup { base_segments := List.forall_mem_nil RoutePath.IsSegment }
    ((RouteLevel.group base).addStatic groupedRoute)
  date := []

theorem declares_groupedPlan (base : String) :
    (groupedPlan base).routes.Declares [] (RoutePath.segments base) groupedRoute :=
  .group List.mem_cons_self (.own List.mem_cons_self)

theorem line_reached_api :
    ∃ r, (groupedPlan "/api").build = .ok r ∧
      (groupedPlan "/api").routes.Declares [] (RoutePath.segments "/api") groupedRoute ∧
      (fullPieces slash
        (Octets.ofText (RouteLevel.joinPath (RoutePath.segments "/api") "/x"))).length ≤
          maxSegments ∧
      ∃ request,
        Request.parse (Octets.ofText "GET /api/x HTTP/1.1\r\n\r\n") = .ok (some request) ∧
        request.startLine = (groupedRoute.placed (groupedPlan "/api").settings
          (RoutePath.segments "/api")).startLine := by
  obtain ⟨r, built⟩ : ∃ r, (groupedPlan "/api").build = .ok r := ⟨_, rfl⟩
  have declared := declares_groupedPlan "/api"
  have few : (fullPieces slash
      (Octets.ofText (RouteLevel.joinPath (RoutePath.segments "/api") "/x"))).length ≤
        maxSegments := by
    decide +kernel
  obtain ⟨_, reached, _⟩ := line_reached built declared few
  obtain ⟨request, read, line⟩ := reached (by decide)
  have own : Octets.ofText "GET /api/x HTTP/1.1\r\n\r\n" =
      Request.lineOf .get
        (Octets.ofText (RouteLevel.joinPath (RoutePath.segments "/api") "/x")) .http11 ++
          headEnd := by
    decide +kernel
  exact ⟨r, built, declared, few, request, own ▸ read, line⟩

/-- A blank in the base is let through, and the request for the path is refused. -/
theorem line_unreached :
    ∃ r, (groupedPlan "/a b").build = .ok r ∧
      (groupedPlan "/a b").routes.Declares [] (RoutePath.segments "/a b") groupedRoute ∧
      RouteLevel.joinPath (RoutePath.segments "/a b") "/x" = "/a b/x" ∧
      (fullPieces slash (Octets.ofText "/a b/x")).length ≤ maxSegments ∧
      ∃ e, Request.parse (Octets.ofText "GET /a b/x HTTP/1.1\r\n\r\n") = .error e := by
  obtain ⟨r, built⟩ : ∃ r, (groupedPlan "/a b").build = .ok r := ⟨_, rfl⟩
  have refused : (Request.parse (Octets.ofText "GET /a b/x HTTP/1.1\r\n\r\n")).isOk = false := by
    decide +kernel
  refine ⟨r, built, declares_groupedPlan "/a b", by decide +kernel, by decide, ?_⟩
  cases read : Request.parse (Octets.ofText "GET /a b/x HTTP/1.1\r\n\r\n") with
  | error e => exact ⟨e, rfl⟩
  | ok request? =>
    rw [read] at refused
    cases refused

end RouterPlan

end Signpost
