import Signpost.Proofs.Router.Resolution
import Signpost.Proofs.Store.Override
import Signpost.Router.Live

/-!
# What an added route changes

A live router is built anew with every route that is added, with new stores and
new tables of hashes.  What a request resolves to changes only to the route
that was added, even if that route stands in the place of another
(`LiveRouter.resolve?_of_add`): each tier of the root level keeps what it found
or finds the new route, and the groups are compiled as before.
-/

namespace Signpost

namespace CaseMode

def staticTier : CaseMode → RouteTier
  | sensitive => .staticSensitive
  | insensitive => .staticInsensitive

def dynamicTier : CaseMode → RouteTier
  | sensitive => .dynamicSensitive
  | insensitive => .dynamicInsensitive

end CaseMode

/-- What a request resolves to that is answered by the added route: the route stands below the base
of the plan and behind its middleware, and it takes the request. -/
inductive Addition.Answered (p : RouterPlan) (request : Request) : Addition → Resolved → Prop
  | fixed {r : StaticRoute} {response : RenderedResponse} :
    (r.placed p.settings p.routes.base).template.compile = .ok response →
    r.mode.key request.startLine = (r.placed p.settings p.routes.base).startLine →
    Answered p request (.fixed r) (.fixed response r.mode.staticTier)
  | dynamic {r : DynamicResponder} :
    (r.placed p.settings p.routes.base p.routes.middleware).route.takes request = true →
    Answered p request (.dynamic r)
      (.dynamic
        (DynamicStore.matchOf (r.placed p.settings p.routes.base p.routes.middleware)
          request.segments)
        r.route.mode.dynamicTier)

/-! ## One level -/

/-- A line that is registered is found, and every other line as before. -/
theorem LineStore.keptOr_register (store : LineStore RenderedResponse) (line other : Octets)
    (mode mode' : CaseMode) (response : RenderedResponse) :
    KeptOr (fun found => found = response ∧ mode' = mode ∧ other = tierKey line mode)
      (store.respond? other mode')
      ((store.register line mode response).2.respond? other mode') := by
  rw [respond?_register]
  split
  · next here => exact .new ⟨rfl, here⟩
  · exact .kept

/-- A table keeps what it finds if its tiers do and its groups are the same. -/
theorem RouteTable.keptOr_resolve? {t t' : RouteTable} {request : Request}
    {isNew : Resolved → Prop}
    (static : ∀ mode : CaseMode, KeptOr (fun response => isNew (.fixed response mode.staticTier))
      (t.statics.respond? (mode.key request.startLine) mode)
      (t'.statics.respond? (mode.key request.startLine) mode))
    (sensitive : KeptOr (fun found => isNew (.dynamic found .dynamicSensitive))
      (t.dynamicSensitive.resolve? request) (t'.dynamicSensitive.resolve? request))
    (insensitive : KeptOr (fun found => isNew (.dynamic found .dynamicInsensitive))
      (t.dynamicInsensitive.resolve? request) (t'.dynamicInsensitive.resolve? request))
    (groups : t'.groups = t.groups) :
    KeptOr isNew (t.resolve? request) (t'.resolve? request) := by
  rw [resolve?_eq, resolve?_eq, groups, resolveOwn?_eq, resolveOwn?_eq]
  refine .orElse (.orElse ?_ (.orElse ?_ (.orElse ?_ ?_))) .kept
  · exact (static .sensitive).map fun _ new => new
  · exact (static .insensitive).map fun _ new => new
  · exact sensitive.map fun _ new => new
  · exact insensitive.map fun _ new => new

namespace RouteLevel

variable {c : CompileSettings} {base : List String} {chain inherited : MiddlewareChain}
  {level : RouteLevel} {above : List String} {t t' : RouteTable}

/-- The stores of a level that is compiled hold routes of their own case mode only. -/
theorem uniform_compileDynamics {dynamics : List DynamicResponder}
    {stores : DynamicStore × DynamicStore}
    (compiled : dynamics.foldlM (compileDynamic c base chain)
      ({ mode := .sensitive }, { mode := .insensitive }) = .ok stores) :
    stores.1.Uniform ∧ stores.2.Uniform := by
  refine foldlM_append (P := fun _ stores => stores.1.Uniform ∧ stores.2.Uniform) ?_ [] dynamics
    ⟨DynamicStore.uniform_empty .sensitive, DynamicStore.uniform_empty .insensitive⟩ compiled
  rintro done stores r stores' ⟨sensitive, insensitive⟩ added
  obtain ⟨store, _, registered, rfl⟩ | ⟨store, _, registered, rfl⟩ := compileDynamic_cases added
  · exact ⟨sensitive.register registered, insensitive⟩
  · exact ⟨sensitive, insensitive.register registered⟩

/-- A static route that is added to a level is compiled after all others, into the same store. -/
theorem exists_of_compile_addStatic {r : StaticRoute}
    (compiled : level.compile c above inherited = .ok t)
    (compiled' : (level.addStatic r).compile c above inherited = .ok t') :
    ∃ lines lines', t.statics = .compile lines c.width c.minimal ∧
      t' = { t with statics := .compile lines' c.width c.minimal } ∧
      compileStatic c (above ++ level.base) lines r = .ok lines' := by
  obtain ⟨lines, stores, tables, linesEq, storesEq, tablesEq, rfl⟩ := exists_of_compile compiled
  obtain ⟨lines', _, _, linesEq', storesEq', tablesEq', rfl⟩ := exists_of_compile compiled'
  cases storesEq.symm.trans storesEq'
  cases tablesEq.symm.trans tablesEq'
  exact ⟨lines, lines', rfl, rfl, last_of_foldlM_concat linesEq linesEq'⟩

/-- The same of a dynamic route. -/
theorem exists_of_compile_addDynamic {r : DynamicResponder}
    (compiled : level.compile c above inherited = .ok t)
    (compiled' : (level.addDynamic r).compile c above inherited = .ok t') :
    ∃ stores' : DynamicStore × DynamicStore,
      t' = { t with dynamicSensitive := stores'.1, dynamicInsensitive := stores'.2 } ∧
      t.dynamicSensitive.Uniform ∧ t.dynamicInsensitive.Uniform ∧
      compileDynamic c (above ++ level.base) (inherited ++ level.middleware)
        (t.dynamicSensitive, t.dynamicInsensitive) r = .ok stores' := by
  obtain ⟨lines, stores, tables, linesEq, storesEq, tablesEq, rfl⟩ := exists_of_compile compiled
  obtain ⟨_, stores', _, linesEq', storesEq', tablesEq', rfl⟩ := exists_of_compile compiled'
  cases linesEq.symm.trans linesEq'
  cases tablesEq.symm.trans tablesEq'
  obtain ⟨sensitive, insensitive⟩ := uniform_compileDynamics storesEq
  exact ⟨stores', rfl, sensitive, insensitive, last_of_foldlM_concat storesEq storesEq'⟩

theorem keptOr_addStatic {r : StaticRoute} (compiled : level.compile c above inherited = .ok t)
    (compiled' : (level.addStatic r).compile c above inherited = .ok t') (request : Request) :
    KeptOr (fun found => ∃ response,
        (r.placed c (above ++ level.base)).template.compile = .ok response ∧
        r.mode.key request.startLine = (r.placed c (above ++ level.base)).startLine ∧
        found = .fixed response r.mode.staticTier)
      (t.resolve? request) (t'.resolve? request) := by
  obtain ⟨lines, lines', statics, rfl, last⟩ := exists_of_compile_addStatic compiled compiled'
  obtain ⟨response, _, rendered, rfl, _⟩ := exists_of_compileStatic last
  have same := fun lines : LineStore RenderedResponse =>
    (PerfectStore.holds_compile lines c.width c.minimal).respond?_eq
  refine RouteTable.keptOr_resolve? (fun mode => ?_) .kept .kept rfl
  rw [statics, same, same]
  refine (LineStore.keptOr_register ..).mono ?_
  rintro _ ⟨rfl, rfl, line⟩
  rw [StaticRoute.tierKey_startLine] at line
  exact ⟨_, rendered, line, rfl⟩

theorem keptOr_addDynamic {r : DynamicResponder}
    (compiled : level.compile c above inherited = .ok t)
    (compiled' : (level.addDynamic r).compile c above inherited = .ok t') (request : Request) :
    KeptOr (fun found =>
        (r.placed c (above ++ level.base) (inherited ++ level.middleware)).route.takes request =
          true ∧
        found = .dynamic
          (DynamicStore.matchOf
            (r.placed c (above ++ level.base) (inherited ++ level.middleware)) request.segments)
          r.route.mode.dynamicTier)
      (t.resolve? request) (t'.resolve? request) := by
  obtain ⟨_, rfl, uniform, uniform', last⟩ := exists_of_compile_addDynamic compiled compiled'
  obtain ⟨store, mode, registered, rfl⟩ | ⟨store, mode, registered, rfl⟩ :=
    compileDynamic_cases last
  · refine RouteTable.keptOr_resolve? (fun _ => .kept) ?_ .kept rfl
    refine (DynamicStore.keptOr_register uniform registered request).mono ?_
    rintro _ ⟨rfl, takes⟩
    exact ⟨takes, by rw [mode]; rfl⟩
  · refine RouteTable.keptOr_resolve? (fun _ => .kept) .kept ?_ rfl
    refine (DynamicStore.keptOr_register uniform' registered request).mono ?_
    rintro _ ⟨rfl, takes⟩
    exact ⟨takes, by rw [mode]; rfl⟩

end RouteLevel

/-! ## Live routers -/

theorem RouterPlan.compile_of_build {p : RouterPlan} {r : Router} (built : p.build = .ok r) :
    p.routes.compile p.settings [] [] = .ok r.table := by
  obtain ⟨t, compiled, built⟩ := exists_of_bind_eq_ok built
  obtain ⟨notFound, _, built⟩ := exists_of_bind_eq_ok built
  cases built
  exact compiled

namespace LiveRouter

variable {l l' : LiveRouter} {a : Addition}

theorem plan_of_ofPlan {plan : RouterPlan} (started : ofPlan plan = .ok l) : l.plan = plan := by
  unfold ofPlan at started
  split at started
  · cases started
    rfl
  · cases started

/-- A route that is added is declared after all others. -/
theorem plan_of_add (added : l.add a = .ok l') : l'.plan = a.declare l.plan :=
  plan_of_ofPlan added

/-- A route that is refused is one that the plan cannot be built with. -/
theorem build_of_add_eq_error {e : RouteError} (refused : l.add a = .error e) :
    (a.declare l.plan).build = .error e := by
  unfold add update ofPlan at refused
  split at refused
  · cases refused
  · next failed =>
    cases refused
    exact failed

/-- When a route has been added, a request resolves to what it did before, or to that route; and to
that route only if it takes the request. -/
theorem resolve?_of_add (added : l.add a = .ok l') (request : Request) :
    KeptOr (a.Answered l.plan request) (l.current.table.resolve? request)
      (l'.current.table.resolve? request) := by
  have before := RouterPlan.compile_of_build l.built
  have after := RouterPlan.compile_of_build l'.built
  rw [plan_of_add added] at after
  cases a with
  | fixed r =>
    refine (RouteLevel.keptOr_addStatic before after request).mono ?_
    rintro _ ⟨response, rendered, line, rfl⟩
    exact .fixed rendered line
  | dynamic r =>
    refine (RouteLevel.keptOr_addDynamic before after request).mono ?_
    rintro _ ⟨takes, rfl⟩
    exact .dynamic takes

/-- A plan that lets routes be replaced, with a route for users. -/
def profilePlan : RouterPlan where
  routes := (RouteLevel.group "/").addPath .get "/users/:id" fun _ response => .ok response
  allowOverride := true
  date := []

/-- A route of the same shape, under another name. -/
def profileAddition : Addition :=
  .dynamic {
    route := { path := [.literal "users", .parameter "name"] }
    handler := fun _ response => .ok (response.withStatus Status.notFound) }

def profileRead : Request where
  method := .get
  version := .http11
  startLine := Octets.ofText "GET /users/7 HTTP/1.1"
  path := Octets.ofText "/users/7"
  queryOctets := none
  segments := [Octets.ofText "users", Octets.ofText "7"]
  headers := []
  headLength := 0
  body := []

/-- Whether a request resolves to a dynamic route with these components. -/
def resolvesTo (path : List PathComponent) (l : LiveRouter) (request : Request) : Bool :=
  match l.current.table.resolve? request with
  | some (.dynamic found _) => found.responder.route.path == path
  | _ => false

theorem resolvesTo_of_add_profileAddition :
    (match ofPlan profilePlan with
      | .error _ => false
      | .ok l =>
        resolvesTo [.literal "users", .parameter "id"] l profileRead &&
          match l.add profileAddition with
          | .error _ => false
          | .ok l' => resolvesTo [.literal "users", .parameter "name"] l' profileRead) = true := by
  decide +kernel

theorem resolve?_of_add_profileAddition :
    ∃ l l' : LiveRouter, l.plan = profilePlan ∧ l.add profileAddition = .ok l' ∧
      resolvesTo [.literal "users", .parameter "id"] l profileRead = true ∧
      resolvesTo [.literal "users", .parameter "name"] l' profileRead = true ∧
      KeptOr (profileAddition.Answered profilePlan profileRead)
        (l.current.table.resolve? profileRead) (l'.current.table.resolve? profileRead) := by
  have resolves := resolvesTo_of_add_profileAddition
  cases started : ofPlan profilePlan with
  | error e =>
    rw [started] at resolves
    cases resolves
  | ok l =>
    have plan := plan_of_ofPlan started
    simp only [started, Bool.and_eq_true] at resolves
    obtain ⟨before, after⟩ := resolves
    cases added : l.add profileAddition with
    | error e =>
      rw [added] at after
      cases after
    | ok l' =>
      rw [added] at after
      refine ⟨l, l', plan, added, before, after, ?_⟩
      rw [← plan]
      exact resolve?_of_add added profileRead

end LiveRouter

end Signpost
