import Signpost.Proofs.Router.Addition
import Signpost.Proofs.Router.Placement

/-!
# Where an answer comes from

Every table of a router is filled by one level, below the bases and behind the middleware of all
levels around it (`RouteLevel.Fills.exists_nested`).  What a table finds by itself is the answer of
a route of that level that takes the request (`RouteLevel.Fills.answeredBy`), whether or not routes
may replace each other: a registration changes what is found only to the route it registers.  A
lookup that enters some of the groups, whichever, finds what one of the tables finds by itself
(`RouteTable.exists_table_of_resolveThrough?`).
-/

namespace Signpost

namespace RouteLevel

/-- The level that declarations start from. -/
def root : RouteLevel where
  base_segments := List.forall_mem_nil RoutePath.IsSegment

/-- The way down from a level to one that is nested in it: the groups on the way, from the
outermost to the level itself. -/
inductive Nested : RouteLevel → List RouteLevel → RouteLevel → Prop
  | self (level : RouteLevel) : Nested level [] level
  | group {level inner last : RouteLevel} {path : List RouteLevel} :
    inner ∈ level.groups → Nested inner path last → Nested level (inner :: path) last

/-- A table holds what a level becomes below a base and behind a chain of middleware. -/
structure Fills (c : CompileSettings) (base : List String) (chain : MiddlewareChain)
    (level : RouteLevel) (t : RouteTable) : Prop where
  base_eq : t.base = base
  statics : ∃ lines, level.statics.foldlM (compileStatic c base) {} = .ok lines ∧
    t.statics = .compile lines c.width c.minimal
  dynamics : level.dynamics.foldlM (compileDynamic c base chain)
    ({ mode := .sensitive }, { mode := .insensitive }) =
      .ok (t.dynamicSensitive, t.dynamicInsensitive)
  groups : compileAll c level.groups base chain = .ok t.groups

/-- A route of a level answers a request: it stands below a base and behind a chain of middleware,
and it takes the request. -/
inductive AnsweredBy (c : CompileSettings) (base : List String) (chain : MiddlewareChain)
    (level : RouteLevel) (request : Request) : Resolved → Prop
  | fixed {r : StaticRoute} {response : RenderedResponse} :
    r ∈ level.statics → r.check = .ok () → (r.placed c base).template.compile = .ok response →
    r.mode.key request.startLine = (r.placed c base).startLine →
    AnsweredBy c base chain level request (.fixed response r.mode.staticTier)
  | dynamic {r : DynamicResponder} :
    r ∈ level.dynamics → (r.placed c base chain).route.takes request = true →
    AnsweredBy c base chain level request
      (.dynamic (DynamicStore.matchOf (r.placed c base chain) request.segments)
        r.route.mode.dynamicTier)

variable {c : CompileSettings} {base above : List String} {chain inherited : MiddlewareChain}
  {level : RouteLevel} {t u : RouteTable} {request : Request}

/-! ## Levels and tables -/

theorem fills_of_compile (compiled : level.compile c above inherited = .ok t) :
    Fills c (above ++ level.base) (inherited ++ level.middleware) level t := by
  obtain ⟨lines, stores, tables, linesEq, storesEq, tablesEq, rfl⟩ := exists_of_compile compiled
  exact ⟨rfl, ⟨lines, linesEq, rfl⟩, storesEq, tablesEq⟩

theorem exists_level_of_compileAll {levels : List RouteLevel} {tables : List RouteTable}
    (compiled : compileAll c levels above inherited = .ok tables) (mem : t ∈ tables) :
    ∃ level ∈ levels, level.compile c above inherited = .ok t := by
  induction levels generalizing tables with
  | nil =>
    rw [compileAll] at compiled
    cases compiled
    cases mem
  | cons first rest ih =>
    rw [compileAll] at compiled
    obtain ⟨own, ownEq, compiled⟩ := exists_of_bind_eq_ok compiled
    obtain ⟨others, othersEq, compiled⟩ := exists_of_bind_eq_ok compiled
    cases compiled
    rcases List.mem_cons.mp mem with rfl | mem
    · exact ⟨first, List.mem_cons_self, ownEq⟩
    · obtain ⟨level, there, levelEq⟩ := ih othersEq mem
      exact ⟨level, List.mem_cons_of_mem first there, levelEq⟩

/-- The tables are nested as the levels are, and every level on the way down adds its base and its
middleware. -/
theorem Fills.exists_nested (fills : Fills c base chain level t) (inside : t.HasTable u) :
    ∃ path last, level.Nested path last ∧
      Fills c (base ++ path.flatMap RouteLevel.base) (chain ++ path.flatMap RouteLevel.middleware)
        last u := by
  induction inside generalizing base chain level with
  | self t => exact ⟨[], level, .self level, by simpa using fills⟩
  | group mem _ ih =>
    obtain ⟨inner, declared, compiled⟩ := exists_level_of_compileAll fills.groups mem
    obtain ⟨path, last, nested, fills⟩ := ih (fills_of_compile compiled)
    refine ⟨inner :: path, last, .group declared nested, ?_⟩
    rw [List.flatMap_cons, List.flatMap_cons, ← List.append_assoc, ← List.append_assoc]
    exact fills

theorem isSegment_of_mem_flatMap {path : List RouteLevel} {s : String}
    (mem : s ∈ path.flatMap RouteLevel.base) : RoutePath.IsSegment s := by
  obtain ⟨group, _, own⟩ := List.mem_flatMap.mp mem
  exact group.base_segments s own

/-! ## Routes and answers -/

/-- What the store of a level answers is the response of one of its static routes. -/
theorem exists_static_of_respond? {statics : List StaticRoute} {lines : LineStore RenderedResponse}
    (compiled : statics.foldlM (compileStatic c base) {} = .ok lines) {line : Octets}
    {mode : CaseMode} {response : RenderedResponse}
    (found : lines.respond? line mode = some response) :
    ∃ r ∈ statics, r.check = .ok () ∧ (r.placed c base).template.compile = .ok response ∧
      mode = r.mode ∧ line = (r.placed c base).startLine := by
  refine foldlM_append
    (P := fun done (lines : LineStore RenderedResponse) => ∀ line mode response,
      lines.respond? line mode = some response →
        ∃ r ∈ done, r.check = .ok () ∧ (r.placed c base).template.compile = .ok response ∧
          mode = r.mode ∧ line = (r.placed c base).startLine)
    ?_ [] statics ?_ compiled line mode response found
  · intro done lines r lines' origin added line mode response found
    obtain ⟨own, checked, rendered, rfl, _⟩ := exists_of_compileStatic added
    rcases (LineStore.keptOr_register ..).before_or_new found with old | ⟨rfl, rfl, here⟩
    · obtain ⟨other, mem, parts⟩ := origin line mode response old
      exact ⟨other, List.mem_append_left _ mem, parts⟩
    · rw [StaticRoute.tierKey_startLine] at here
      exact ⟨r, List.mem_append_right _ List.mem_cons_self, checked, rendered, rfl, here⟩
  · intro line mode response found
    cases mode <;> cases found

/-- The store of a case mode. -/
def inMode (stores : DynamicStore × DynamicStore) : CaseMode → DynamicStore
  | .sensitive => stores.1
  | .insensitive => stores.2

/-- A dynamic route changes the store of its case mode, and no other. -/
theorem inMode_compileDynamic {stores stores' : DynamicStore × DynamicStore} {r : DynamicResponder}
    (added : compileDynamic c base chain stores r = .ok stores') :
    (inMode stores r.route.mode).register (r.placed c base chain) c.allowOverride =
        .ok (inMode stores' r.route.mode) ∧
      ∀ mode, mode ≠ r.route.mode → inMode stores' mode = inMode stores mode := by
  obtain ⟨store, own, registered, rfl⟩ | ⟨store, own, registered, rfl⟩ := compileDynamic_cases added
  · rw [own]
    refine ⟨registered, fun mode other => ?_⟩
    cases mode with
    | sensitive => exact absurd rfl other
    | insensitive => rfl
  · rw [own]
    refine ⟨registered, fun mode other => ?_⟩
    cases mode with
    | sensitive => rfl
    | insensitive => exact absurd rfl other

/-- A store of a case mode finds only routes of that mode, out of these, that take the request. -/
structure Finds (c : CompileSettings) (base : List String) (chain : MiddlewareChain)
    (routes : List DynamicResponder) (mode : CaseMode) (s : DynamicStore) : Prop where
  mode_eq : s.mode = mode
  uniform : s.Uniform
  origin : ∀ request found, s.resolve? request = some found →
    ∃ r ∈ routes, r.route.mode = mode ∧ (r.placed c base chain).route.takes request = true ∧
      found = DynamicStore.matchOf (r.placed c base chain) request.segments

theorem finds_empty (mode : CaseMode) : Finds c base chain [] mode { mode } where
  mode_eq := rfl
  uniform := DynamicStore.uniform_empty mode
  origin := by
    intro request found there
    rw [DynamicStore.resolve?_eq_orElse] at there
    cases there

theorem Finds.append {routes : List DynamicResponder} {mode : CaseMode} {s : DynamicStore}
    (finds : Finds c base chain routes mode s) (r : DynamicResponder) :
    Finds c base chain (routes ++ [r]) mode s := by
  refine ⟨finds.mode_eq, finds.uniform, fun request found there => ?_⟩
  obtain ⟨other, mem, parts⟩ := finds.origin request found there
  exact ⟨other, List.mem_append_left _ mem, parts⟩

theorem Finds.register {routes : List DynamicResponder} {r : DynamicResponder}
    {s s' : DynamicStore} (finds : Finds c base chain routes r.route.mode s) {allowOverride : Bool}
    (done : s.register (r.placed c base chain) allowOverride = .ok s') :
    Finds c base chain (routes ++ [r]) r.route.mode s' := by
  refine ⟨?_, finds.uniform.register done, fun request found there => ?_⟩
  · rw [DynamicStore.mode_register done, finds.mode_eq]
  · have held := DynamicStore.keptOr_register finds.uniform done request
    rcases held.before_or_new there with old | ⟨rfl, taken⟩
    · exact (finds.append r).origin request found old
    · exact ⟨r, List.mem_append_right _ List.mem_cons_self, rfl, taken, rfl⟩

theorem finds_compileDynamics {dynamics : List DynamicResponder}
    {stores : DynamicStore × DynamicStore}
    (compiled : dynamics.foldlM (compileDynamic c base chain)
      ({ mode := .sensitive }, { mode := .insensitive }) = .ok stores) (mode : CaseMode) :
    Finds c base chain dynamics mode (inMode stores mode) := by
  refine foldlM_append
    (P := fun done stores => ∀ mode, Finds c base chain done mode (inMode stores mode))
    ?_ [] dynamics ?_ compiled mode
  · intro done stores r stores' finds added mode
    obtain ⟨registered, others⟩ := inMode_compileDynamic added
    by_cases own : mode = r.route.mode
    · rw [own]
      exact (finds r.route.mode).register registered
    · rw [others mode own]
      exact (finds mode).append r
  · intro mode
    cases mode with
    | sensitive => exact finds_empty .sensitive
    | insensitive => exact finds_empty .insensitive

theorem answeredBy_of_respond? {lines : LineStore RenderedResponse}
    (compiled : level.statics.foldlM (compileStatic c base) {} = .ok lines) (mode : CaseMode)
    {response : RenderedResponse}
    (found : lines.respond? (mode.key request.startLine) mode = some response) :
    AnsweredBy c base chain level request (.fixed response mode.staticTier) := by
  obtain ⟨r, mem, checked, rendered, rfl, line⟩ := exists_static_of_respond? compiled found
  exact .fixed mem checked rendered line

theorem Finds.answeredBy {mode : CaseMode} {s : DynamicStore}
    (finds : Finds c base chain level.dynamics mode s) {found : DynamicMatch}
    (resolved : s.resolve? request = some found) :
    AnsweredBy c base chain level request (.dynamic found mode.dynamicTier) := by
  obtain ⟨r, mem, rfl, taken, rfl⟩ := finds.origin request found resolved
  exact .dynamic mem taken

/-- What a table finds by itself is the answer of a route of its level. -/
theorem Fills.answeredBy (fills : Fills c base chain level t) {found : Resolved}
    (resolved : t.resolveOwn? request = some found) :
    AnsweredBy c base chain level request found := by
  obtain ⟨lines, linesEq, compiled⟩ := fills.statics
  have same := (PerfectStore.holds_compile lines c.width c.minimal).respond?_eq
  have finds := finds_compileDynamics fills.dynamics
  rw [RouteTable.resolveOwn?_eq, compiled, same, same] at resolved
  simp only [Option.orElse_eq_orElse, Option.orElse_eq_or, Option.or_eq_some_iff,
    Option.map_eq_some_iff] at resolved
  rcases resolved with ⟨_, there, rfl⟩ | ⟨_, ⟨_, there, rfl⟩ | ⟨_, ⟨_, there, rfl⟩ |
    ⟨_, _, there, rfl⟩⟩⟩
  · exact answeredBy_of_respond? linesEq .sensitive there
  · exact answeredBy_of_respond? linesEq .insensitive there
  · exact (finds .sensitive).answeredBy there
  · exact (finds .insensitive).answeredBy there

end RouteLevel

namespace RouteTable

/-! ## Lookups that enter some of the groups -/

mutual

/-- What answers a request on a level or in those of its groups that are entered. -/
def resolveThrough? (enters : RouteTable → Request → Bool) :
    RouteTable → Request → Option Resolved
  | ⟨base, statics, sensitive, insensitive, groups⟩, request =>
    resolveOwn? ⟨base, statics, sensitive, insensitive, groups⟩ request <|>
      resolveThroughIn? enters groups request

def resolveThroughIn? (enters : RouteTable → Request → Bool) :
    List RouteTable → Request → Option Resolved
  | [], _ => none
  | t :: rest, request =>
    (if enters t request then resolveThrough? enters t request else none) <|>
      resolveThroughIn? enters rest request

end

variable {request : Request}

mutual

/-- A router enters the groups whose base a request has. -/
theorem resolve?_eq_resolveThrough? :
    ∀ (t : RouteTable), t.resolve? request = t.resolveThrough? covers request
  | ⟨base, statics, sensitive, insensitive, groups⟩ => by
    rw [resolve?_eq, resolveThrough?, resolveIn?_eq_resolveThroughIn? groups]

theorem resolveIn?_eq_resolveThroughIn? :
    ∀ (tables : List RouteTable),
      resolveIn? tables request = resolveThroughIn? covers tables request
  | [] => rfl
  | t :: rest => by
    rw [resolveIn?_cons, resolveThroughIn?, resolve?_eq_resolveThrough? t,
      resolveIn?_eq_resolveThroughIn? rest]

end

section Through

variable {enters : RouteTable → Request → Bool} {found : Resolved}

mutual

/-- What is found is found by one of the tables, whichever groups are entered. -/
theorem exists_table_of_resolveThrough? :
    ∀ (t : RouteTable), t.resolveThrough? enters request = some found →
      ∃ u, t.HasTable u ∧ u.resolveOwn? request = some found
  | ⟨base, statics, sensitive, insensitive, groups⟩, resolved => by
    rw [resolveThrough?, Option.orElse_eq_orElse, Option.orElse_eq_or, Option.or_eq_some_iff]
      at resolved
    rcases resolved with own | ⟨_, inside⟩
    · exact ⟨_, .self _, own⟩
    · obtain ⟨g, mem, u, there, own⟩ := exists_table_of_resolveThroughIn? groups inside
      exact ⟨u, .group mem there, own⟩

theorem exists_table_of_resolveThroughIn? :
    ∀ (tables : List RouteTable), resolveThroughIn? enters tables request = some found →
      ∃ g ∈ tables, ∃ u, g.HasTable u ∧ u.resolveOwn? request = some found
  | [], resolved => by cases resolved
  | t :: rest, resolved => by
    rw [resolveThroughIn?, Option.orElse_eq_orElse, Option.orElse_eq_or, Option.or_eq_some_iff]
      at resolved
    rcases resolved with first | ⟨_, later⟩
    · split at first
      · obtain ⟨u, there, own⟩ := exists_table_of_resolveThrough? t first
        exact ⟨t, List.mem_cons_self, u, there, own⟩
      · cases first
    · obtain ⟨g, mem, u, there, own⟩ := exists_table_of_resolveThroughIn? rest later
      exact ⟨g, List.mem_cons_of_mem t mem, u, there, own⟩

end

end Through

/-- What a table resolves is found by one of the tables in it. -/
theorem exists_table_of_resolve? {found : Resolved} {t : RouteTable}
    (resolved : t.resolve? request = some found) :
    ∃ u, t.HasTable u ∧ u.resolveOwn? request = some found := by
  rw [resolve?_eq_resolveThrough?] at resolved
  exact exists_table_of_resolveThrough? t resolved

end RouteTable

namespace RouterPlan

variable {p : RouterPlan} {r : Router} {t : RouteTable}

/-- Every table of a router is filled by a level of its plan. -/
theorem exists_nested_of_build (built : p.build = .ok r) (inside : r.table.HasTable t) :
    ∃ path last, p.routes.Nested path last ∧
      RouteLevel.Fills p.settings (p.routes.base ++ path.flatMap RouteLevel.base)
        (p.routes.middleware ++ path.flatMap RouteLevel.middleware) last t :=
  (RouteLevel.fills_of_compile (compile_of_build built)).exists_nested inside

end RouterPlan

end Signpost
