import Signpost.Proofs.Router.Collisions
import Signpost.Proofs.Router.Origin
import Signpost.Proofs.Store.History

/-!
# No declared route is lost

Where no route may replace another, every registration makes a store larger by
one, and the tables of hashes have as many lines as the stores they are made
from.  So a table that is compiled has as many routes as its level and all
groups in it (`RouteLevel.size_compile`), and none of these has a fault
(`RouteLevel.sound_of_compile`).

Levels are declared by calls (`Declaration`), and a call on a group is a call on
the level that the group becomes.  A level has no fault anywhere exactly if all
calls were valid, and then it has a route for each call that declares one
(`Declaration.sound_declareAll_iff`, `Declaration.routeCount_declareAll`).
-/

namespace Signpost

namespace RouteLevel

mutual

/-- The number of routes that are declared on a level and in its groups. -/
def routeCount : RouteLevel → Nat
  | ⟨_, statics, dynamics, _, groups, _, _⟩ =>
    statics.length + dynamics.length + routeCountAll groups

def routeCountAll : List RouteLevel → Nat
  | [] => 0
  | level :: rest => routeCount level + routeCountAll rest

end

/-- No declaration on a level or in its groups was in error. -/
def Sound (level : RouteLevel) : Prop :=
  ∀ path last, level.Nested path last → last.fault = none

end RouteLevel

/-- A call that declares something on a level. -/
inductive Declaration where
  | fixed (route : StaticRoute)
  | dynamic (responder : DynamicResponder)
  /-- A handler for a path that is given as text. -/
  | handled (method : Method) (path : String) (handler : Handler)
  | middleware (m : Middleware)
  /-- A group, with the calls that were made on it. -/
  | group (base : String) (calls : List Declaration)

namespace Declaration

mutual

/-- The level after a call. -/
def declare : Declaration → RouteLevel → RouteLevel
  | fixed route, level => level.addStatic route
  | dynamic responder, level => level.addDynamic responder
  | handled method path handler, level => level.addPath method path handler
  | middleware m, level => level.addMiddleware m
  | group base calls, level => level.addGroup (declareAll calls (RouteLevel.group base))

/-- The level after some calls, in order. -/
def declareAll : List Declaration → RouteLevel → RouteLevel
  | [], level => level
  | call :: rest, level => declareAll rest (call.declare level)

end

mutual

/-- A path that is given as text can be read, the base of a group is rooted and has only literal
segments, and the calls that were made on the group are valid. -/
def IsValid : Declaration → Prop
  | fixed _ => True
  | dynamic _ => True
  | handled method path _ => ∃ route, DynamicRoute.ofPath method path = .ok route
  | middleware _ => True
  | group base calls => base.toList.head? = some '/' ∧
      (∀ segment ∈ RoutePath.segments base, RouteLevel.isPlaceholder segment = false) ∧
      AllValid calls

def AllValid : List Declaration → Prop
  | [] => True
  | call :: rest => call.IsValid ∧ AllValid rest

end

mutual

/-- The number of routes that a call declares. -/
def routeCount : Declaration → Nat
  | fixed _ => 1
  | dynamic _ => 1
  | handled _ _ _ => 1
  | middleware _ => 0
  | group _ calls => routeCountAll calls

def routeCountAll : List Declaration → Nat
  | [] => 0
  | call :: rest => call.routeCount + routeCountAll rest

end

end Declaration

/-! ## Stores -/

theorem LineStore.size_register {store : LineStore RenderedResponse} {line : Octets}
    {mode : CaseMode} {response : RenderedResponse}
    (free : (store.register line mode response).1 = none) :
    (store.register line mode response).2.size = store.size + 1 := by
  rw [register_fst] at free
  have larger : ((store.entries mode).put (tierKey line mode) response).length =
      (store.entries mode).length + 1 := by
    rw [Tier.length_put, free]
    rfl
  cases mode with
  | sensitive =>
    have both := congrArg (· + store.insensitive.length) larger
    exact both.trans (Nat.add_right_comm _ _ _)
  | insensitive => exact congrArg (store.sensitive.length + ·) larger

theorem DynamicStore.size_register {s s' : DynamicStore} {r : DynamicResponder}
    (done : s.register r false = .ok s') : s'.size = s.size + 1 := by
  cases registered_of_register done with
  | parameterless _ free =>
    have new : (s.parameterless.get? r.route.lineKey).isSome = false := by simpa using free
    rw [size, size]
    dsimp only
    rw [Tier.length_put, if_neg (Bool.eq_false_iff.mp new)]
    omega
  | openEnded _ _ placed =>
    rw [place_eq_append placed, size, size]
    dsimp only
    rw [List.length_append, List.length_singleton]
    omega
  | bucket _ _ placed =>
    have larger := length_flatten_withBucket s.buckets r.route.path.length
      (s.buckets[r.route.path.length]?.getD [] ++ [r])
    rw [List.length_append, List.length_singleton] at larger
    rw [place_eq_append placed, size, size]
    dsimp only
    omega

/-! ## Levels -/

namespace RouteTable

theorem size_eq (t : RouteTable) : t.size = t.ownSize + sizeAll t.groups := by
  obtain ⟨base, statics, sensitive, insensitive, groups⟩ := t
  rw [size]

end RouteTable

namespace RouteLevel

variable {c : CompileSettings} {base above : List String} {chain inherited : MiddlewareChain}
  {level last : RouteLevel} {path : List RouteLevel} {t : RouteTable}

theorem size_compileStatics (strict : c.allowOverride = false) {statics : List StaticRoute}
    {store : LineStore RenderedResponse}
    (compiled : statics.foldlM (compileStatic c base) {} = .ok store) :
    store.size = statics.length := by
  refine foldlM_append
    (P := fun done (store : LineStore RenderedResponse) => store.size = done.length)
    ?_ [] statics rfl compiled
  intro done store r store' size added
  obtain ⟨response, _, _, rfl, free⟩ := exists_of_compileStatic added
  rw [LineStore.size_register (free strict), size, List.length_append, List.length_singleton]

theorem size_compileDynamics (strict : c.allowOverride = false) {dynamics : List DynamicResponder}
    {stores : DynamicStore × DynamicStore}
    (compiled : dynamics.foldlM (compileDynamic c base chain)
      ({ mode := .sensitive }, { mode := .insensitive }) = .ok stores) :
    stores.1.size + stores.2.size = dynamics.length := by
  refine foldlM_append
    (P := fun done (stores : DynamicStore × DynamicStore) =>
      stores.1.size + stores.2.size = done.length)
    ?_ [] dynamics rfl compiled
  intro done stores r stores' size added
  rw [List.length_append, List.length_singleton, ← size]
  obtain ⟨store, _, registered, rfl⟩ | ⟨store, _, registered, rfl⟩ := compileDynamic_cases added
  · rw [strict] at registered
    rw [DynamicStore.size_register registered]
    exact Nat.add_right_comm _ _ _
  · rw [strict] at registered
    rw [DynamicStore.size_register registered]
    rfl

theorem Fills.ownSize (strict : c.allowOverride = false) (fills : Fills c base chain level t) :
    t.ownSize = level.statics.length + level.dynamics.length := by
  obtain ⟨lines, linesEq, statics⟩ := fills.statics
  have held := (PerfectStore.holds_compile lines c.width c.minimal).size_eq
  rw [RouteTable.ownSize, statics, held, size_compileStatics strict linesEq, Nat.add_assoc,
    size_compileDynamics strict fills.dynamics]

mutual

/-- A table has as many routes as were declared on its level and in the groups of it. -/
theorem size_compile (strict : c.allowOverride = false) :
    ∀ (level : RouteLevel) {above : List String} {inherited : MiddlewareChain} {t : RouteTable},
      level.compile c above inherited = .ok t → t.size = level.routeCount
  | ⟨own, statics, dynamics, middleware, groups, fault, segments⟩, above, inherited, t,
      compiled => by
    have fills := fills_of_compile compiled
    rw [RouteTable.size_eq, fills.ownSize strict, sizeAll_compileAll strict groups fills.groups,
      routeCount]

theorem sizeAll_compileAll (strict : c.allowOverride = false) :
    ∀ (levels : List RouteLevel) {above : List String} {inherited : MiddlewareChain}
      {tables : List RouteTable}, compileAll c levels above inherited = .ok tables →
      RouteTable.sizeAll tables = routeCountAll levels
  | [], above, inherited, tables, compiled => by
    rw [compileAll] at compiled
    cases compiled
    rfl
  | level :: rest, above, inherited, tables, compiled => by
    rw [compileAll] at compiled
    obtain ⟨t, tableEq, compiled⟩ := exists_of_bind_eq_ok compiled
    obtain ⟨others, othersEq, compiled⟩ := exists_of_bind_eq_ok compiled
    cases compiled
    rw [RouteTable.sizeAll, size_compile strict level tableEq,
      sizeAll_compileAll strict rest othersEq, routeCountAll]

end

theorem fault_eq_none_of_compile (compiled : level.compile c above inherited = .ok t) :
    level.fault = none := by
  obtain ⟨own, statics, dynamics, middleware, groups, fault, segments⟩ := level
  cases fault with
  | none => rfl
  | some e =>
    rw [compile] at compiled
    cases compiled

/-- With a level all levels in it are compiled. -/
theorem Nested.exists_compile (nested : level.Nested path last)
    (compiled : level.compile c above inherited = .ok t) :
    ∃ above inherited u, last.compile c above inherited = .ok u := by
  induction nested generalizing above inherited t with
  | self level => exact ⟨above, inherited, t, compiled⟩
  | group mem _ ih =>
    obtain ⟨u, _, inner⟩ := exists_of_compileAll (fills_of_compile compiled).groups mem
    exact ih inner

theorem sound_of_compile (compiled : level.compile c above inherited = .ok t) : level.Sound := by
  intro path last nested
  obtain ⟨_, _, _, inner⟩ := nested.exists_compile compiled
  exact fault_eq_none_of_compile inner

end RouteLevel

/-! ## Calls -/

namespace RouteLevel

variable {level inner : RouteLevel}

theorem sound_iff {level : RouteLevel} :
    level.Sound ↔ level.fault = none ∧ ∀ inner ∈ level.groups, inner.Sound := by
  constructor
  · intro sound
    refine ⟨sound [] level (.self level), ?_⟩
    intro inner mem path last nested
    exact sound (inner :: path) last (.group mem nested)
  · rintro ⟨own, inside⟩ path last nested
    cases nested with
    | self => exact own
    | group mem nested => exact inside _ mem _ _ nested

/-- Whether there is a fault depends on that of the level and on its groups. -/
theorem sound_congr (fault : level.fault = inner.fault) (groups : level.groups = inner.groups) :
    level.Sound ↔ inner.Sound := by
  rw [sound_iff, fault, groups, ← sound_iff]

theorem sound_addGroup_iff : (level.addGroup inner).Sound ↔ level.Sound ∧ inner.Sound := by
  have own : level.Sound ↔ _ := sound_iff
  rw [sound_iff, own, addGroup, List.forall_mem_append, List.forall_mem_singleton, and_assoc]

theorem sound_group_iff (base : String) : (group base).Sound ↔ base.toList.head? = some '/' ∧
    ∀ segment ∈ RoutePath.segments base, isPlaceholder segment = false := by
  rw [sound_iff, group]
  simp

theorem sound_addPath_iff (level : RouteLevel) (method : Method) (path : String)
    (handler : Handler) : (level.addPath method path handler).Sound ↔
      level.Sound ∧ ∃ route, DynamicRoute.ofPath method path = .ok route := by
  rw [addPath]
  cases DynamicRoute.ofPath method path with
  | ok route =>
    have same : (level.addDynamic { route, handler }).Sound ↔ level.Sound := sound_congr rfl rfl
    exact same.trans (and_iff_left ⟨route, rfl⟩).symm
  | error e =>
    apply iff_of_false
    · intro sound
      have recorded : (level.fault <|> some e) = none := (sound_iff.mp sound).1
      rw [Option.orElse_eq_orElse, Option.orElse_eq_or, Option.or_eq_none_iff] at recorded
      cases recorded.2
    · intro both
      obtain ⟨_, route, read⟩ := both
      cases read

theorem routeCount_eq (level : RouteLevel) : level.routeCount =
    level.statics.length + level.dynamics.length + routeCountAll level.groups := by
  obtain ⟨base, statics, dynamics, middleware, groups, fault, segments⟩ := level
  rw [routeCount]

theorem routeCountAll_concat (levels : List RouteLevel) (level : RouteLevel) :
    routeCountAll (levels ++ [level]) = routeCountAll levels + level.routeCount := by
  induction levels with
  | nil => exact Nat.add_comm _ _
  | cons first rest ih => rw [List.cons_append, routeCountAll, routeCountAll, ih, Nat.add_assoc]

theorem routeCount_addStatic (level : RouteLevel) (r : StaticRoute) :
    (level.addStatic r).routeCount = level.routeCount + 1 := by
  rw [routeCount_eq, level.routeCount_eq, addStatic]
  dsimp only
  rw [List.length_append, List.length_singleton]
  omega

theorem routeCount_addDynamic (level : RouteLevel) (r : DynamicResponder) :
    (level.addDynamic r).routeCount = level.routeCount + 1 := by
  rw [routeCount_eq, level.routeCount_eq, addDynamic]
  dsimp only
  rw [List.length_append, List.length_singleton]
  omega

theorem routeCount_addGroup (level inner : RouteLevel) :
    (level.addGroup inner).routeCount = level.routeCount + inner.routeCount := by
  rw [routeCount_eq, level.routeCount_eq, addGroup]
  dsimp only
  rw [routeCountAll_concat]
  exact (Nat.add_assoc _ _ _).symm

end RouteLevel

namespace Declaration

mutual

/-- A call brings no fault exactly if it is valid. -/
theorem sound_declare_iff : ∀ (call : Declaration) (level : RouteLevel),
    (call.declare level).Sound ↔ level.Sound ∧ call.IsValid
  | fixed route, level => by
    rw [declare, IsValid, and_true]
    exact RouteLevel.sound_congr rfl rfl
  | dynamic responder, level => by
    rw [declare, IsValid, and_true]
    exact RouteLevel.sound_congr rfl rfl
  | handled method path handler, level => by
    rw [declare, IsValid]
    exact level.sound_addPath_iff method path handler
  | middleware m, level => by
    rw [declare, IsValid, and_true]
    exact RouteLevel.sound_congr rfl rfl
  | group base calls, level => by
    rw [declare, IsValid, RouteLevel.sound_addGroup_iff, sound_declareAll_iff calls,
      RouteLevel.sound_group_iff, and_assoc]

theorem sound_declareAll_iff : ∀ (calls : List Declaration) (level : RouteLevel),
    (declareAll calls level).Sound ↔ level.Sound ∧ AllValid calls
  | [], level => by rw [declareAll, AllValid, and_true]
  | call :: rest, level => by
    rw [declareAll, AllValid, sound_declareAll_iff rest, sound_declare_iff call, and_assoc]

end

mutual

/-- A valid call adds the routes that it declares. -/
theorem routeCount_declare : ∀ (call : Declaration) (level : RouteLevel), call.IsValid →
    (call.declare level).routeCount = level.routeCount + call.routeCount
  | fixed route, level, _ => level.routeCount_addStatic route
  | dynamic responder, level, _ => level.routeCount_addDynamic responder
  | handled method path handler, level, valid => by
    obtain ⟨route, read⟩ := valid
    rw [declare, RouteLevel.addPath, read]
    exact level.routeCount_addDynamic { route, handler }
  | middleware m, level, _ => by
    rw [declare, RouteLevel.addMiddleware, RouteLevel.routeCount_eq, RouteLevel.routeCount_eq level]
    rfl
  | group base calls, level, valid => by
    have inside := routeCount_declareAll calls (RouteLevel.group base) valid.2.2
    have empty : (RouteLevel.group base).routeCount = 0 := RouteLevel.routeCount_eq _
    rw [empty, Nat.zero_add] at inside
    rw [declare, level.routeCount_addGroup, inside, routeCount]

theorem routeCount_declareAll : ∀ (calls : List Declaration) (level : RouteLevel),
    AllValid calls →
    (declareAll calls level).routeCount = level.routeCount + routeCountAll calls
  | [], level, _ => by rw [declareAll, routeCountAll, Nat.add_zero]
  | call :: rest, level, valid => by
    rw [declareAll, routeCountAll, routeCount_declareAll rest _ valid.2,
      routeCount_declare call level valid.1, Nat.add_assoc]

end

end Declaration

/-! ## Whole routers -/

namespace RouterPlan

variable {p : RouterPlan} {r : Router}

/-- The static routes of every level have passed their check, and no two routes of a level
collide. -/
theorem apart_of_nested (strict : p.allowOverride = false) (built : p.build = .ok r)
    {path : List RouteLevel} {level : RouteLevel} (nested : p.routes.Nested path level) :
    (∀ route ∈ level.statics, route.check = .ok ()) ∧
      (level.statics.Pairwise fun a b => ¬(a.mode = b.mode ∧ a.startLine = b.startLine)) ∧
      level.dynamics.Pairwise fun a b =>
        ¬(a.route.mode = b.route.mode ∧ a.route.identity = b.route.identity) := by
  obtain ⟨_, _, _, compiled⟩ := nested.exists_compile (compile_of_build built)
  have fills := RouteLevel.fills_of_compile compiled
  obtain ⟨lines, linesEq, _⟩ := fills.statics
  exact ⟨(RouteLevel.lists_compileStatics strict linesEq).2,
    RouteLevel.pairwise_of_compileStatics strict linesEq,
    RouteLevel.pairwise_of_compileDynamics strict fills.dynamics⟩

/-- Where no route may replace another, a router that is built has every route that was declared,
and no declaration at any depth was in error.  Of two routes on one level with one line, or with one
method, version and shape, none is lost either: the router cannot be built. -/
theorem census_of_build (strict : p.allowOverride = false) :
    (∀ r, p.build = .ok r →
      (∀ path level, p.routes.Nested path level →
        level.fault = none ∧ ∀ route ∈ level.statics, route.check = .ok ()) ∧
      r.routeCount = p.routes.routeCount) ∧
    (∀ calls r, p.routes = Declaration.declareAll calls .root → p.build = .ok r →
      Declaration.AllValid calls ∧ r.routeCount = Declaration.routeCountAll calls) ∧
    ∀ path level, p.routes.Nested path level →
      (∀ a b, [a, b].Sublist level.statics → a.mode = b.mode → a.startLine = b.startLine →
        ∃ e, p.build = .error e) ∧
      ∀ a b, [a, b].Sublist level.dynamics → a.route.mode = b.route.mode →
        a.route.identity = b.route.identity → ∃ e, p.build = .error e := by
  have counted : ∀ r, p.build = .ok r → r.routeCount = p.routes.routeCount := by
    intro r built
    exact RouteLevel.size_compile strict p.routes (compile_of_build built)
  refine ⟨?_, ?_, ?_⟩
  · intro r built
    refine ⟨?_, counted r built⟩
    intro path level nested
    have sound := RouteLevel.sound_of_compile (compile_of_build built)
    exact ⟨sound path level nested, (apart_of_nested strict built nested).1⟩
  · intro calls r declared built
    have sound := RouteLevel.sound_of_compile (compile_of_build built)
    rw [declared, Declaration.sound_declareAll_iff] at sound
    refine ⟨sound.2, ?_⟩
    rw [counted r built, declared, Declaration.routeCount_declareAll calls _ sound.2]
    exact Nat.zero_add _
  · intro path level nested
    cases built : p.build with
    | error e => exact ⟨fun _ _ _ _ _ => ⟨e, rfl⟩, fun _ _ _ _ _ => ⟨e, rfl⟩⟩
    | ok r =>
      obtain ⟨_, statics, dynamics⟩ := apart_of_nested strict built nested
      rw [List.pairwise_iff_forall_sublist] at statics dynamics
      constructor
      · intro a b both own same
        exact absurd ⟨own, same⟩ (statics both)
      · intro a b both own same
        exact absurd ⟨own, same⟩ (dynamics both)

/-- Calls that declare four routes on three levels. -/
def fourRoutes : List Declaration :=
  [.fixed { path := "/", template := .text "home" },
    .handled .get "/users/:id" fun _ response => .ok response,
    .group "/api" [.middleware fun _ response => (.pass, response),
      .handled .get "/files/*" fun _ response => .ok response,
      .group "/v1" [.fixed { path := "/", template := .text "first" }]]]

/-- A route with a parameter of some name. -/
def namedUser (name : String) : DynamicResponder where
  route := { path := [.literal "users", .parameter name] }
  handler := fun _ response => .ok response

/-- Calls that declare a route twice in a group. -/
def twiceDeclared : List Declaration :=
  [.group "/api" [.dynamic (namedUser "id"), .dynamic (namedUser "name")]]

def calledPlan (calls : List Declaration) : RouterPlan where
  routes := Declaration.declareAll calls .root
  date := []

theorem census_of_build_calledPlan :
    (calledPlan fourRoutes).allowOverride = false ∧
      (∃ r, (calledPlan fourRoutes).build = .ok r ∧ Declaration.AllValid fourRoutes ∧
        r.routeCount = 4) ∧
      ∃ e, (calledPlan twiceDeclared).build = .error e := by
  have strict : ∀ calls, (calledPlan calls).allowOverride = false := fun _ => rfl
  refine ⟨strict fourRoutes, ?_, ?_⟩
  · have succeeds : (calledPlan fourRoutes).builds (fun _ => true) = true := by decide +kernel
    obtain ⟨r, built, _⟩ := exists_of_builds succeeds
    exact ⟨r, built, (census_of_build (strict fourRoutes)).2.1 fourRoutes r rfl built⟩
  · have nested : (calledPlan twiceDeclared).routes.Nested [_] _ :=
      .group List.mem_cons_self (.self _)
    exact ((census_of_build (strict twiceDeclared)).2.2 _ _ nested).2 (namedUser "id")
      (namedUser "name") (List.Sublist.refl _) rfl rfl

end RouterPlan

end Signpost
