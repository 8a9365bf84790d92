import Signpost.Proofs.Router.Search

/-!
# Compiled levels answer like their declarations

The stores of a compiled level list its routes in the order of declaration
(`lists_compileStatics`, `listsBoth_compileDynamics`), because a route that
would replace another is refused.  So the four tiers of a table, asked in turn,
find what the search over the routes of its level finds
(`answers_resolveOwn?`).
-/

namespace Signpost

/-! ## What declarations become -/

/-- The response of a static route, if there is a route. -/
inductive Compiled : Option StaticRoute → Option RenderedResponse → Prop
  | none : Compiled none none
  | some {route : StaticRoute} {response : RenderedResponse} :
    route.template.compile = .ok response → Compiled (some route) (some response)

/-- What a declaration becomes in a table. -/
inductive Answers : Option Declared → Option Resolved → Prop
  | none : Answers none none
  | fixed {route : StaticRoute} {response : RenderedResponse} {tier : RouteTier} :
    route.template.compile = .ok response →
    Answers (some (.fixed route tier)) (some (.fixed response tier))
  | dynamic {found : DynamicMatch} {tier : RouteTier} :
    Answers (some (.dynamic found tier)) (some (.dynamic found tier))

theorem Compiled.answers {route? : Option StaticRoute} {response? : Option RenderedResponse}
    (compiled : Compiled route? response?) (tier : RouteTier) :
    Answers (route?.map (.fixed · tier)) (response?.map (.fixed · tier)) := by
  cases compiled with
  | none => exact .none
  | some rendered => exact .fixed rendered

theorem answers_dynamic (found? : Option DynamicMatch) (tier : RouteTier) :
    Answers (found?.map (.dynamic · tier)) (found?.map (.dynamic · tier)) := by
  cases found? with
  | none => exact .none
  | some found => exact .dynamic

/-- Searches in turn answer like lookups in turn. -/
theorem Answers.orElse {a b : Option Declared} {a' b' : Option Resolved} (first : Answers a a')
    (second : Answers b b') : Answers (a <|> b) (a' <|> b') := by
  cases first with
  | none => exact second
  | fixed rendered => exact .fixed rendered
  | dynamic => exact .dynamic

/-! ### Static routes -/

namespace StaticRoute

theorem tierKey_startLine (r : StaticRoute) : tierKey r.startLine r.mode = r.startLine := by
  unfold startLine
  cases r.mode with
  | sensitive => rfl
  | insensitive => exact Octets.lower_lower _

end StaticRoute

theorem firstStatic?_append (mode : CaseMode) (line : Octets) (routes more : List StaticRoute) :
    firstStatic? mode line (routes ++ more) =
      (firstStatic? mode line routes).or (firstStatic? mode line more) :=
  List.find?_append

theorem firstStatic?_cons (mode : CaseMode) (line : Octets) (r : StaticRoute)
    (routes : List StaticRoute) : firstStatic? mode line (r :: routes) =
      if mode = r.mode ∧ line = r.startLine then some r else firstStatic? mode line routes := by
  rw [firstStatic?, List.find?_cons]
  by_cases same : mode = r.mode ∧ line = r.startLine
  · rw [if_pos same, same.1, same.2, beq_self_eq_true, beq_self_eq_true]
    rfl
  · have other : (r.mode == mode && r.startLine == line) = false := by
      rw [Bool.eq_false_iff]
      intro both
      rw [Bool.and_eq_true, beq_iff_eq, beq_iff_eq] at both
      exact same ⟨both.1.symm, both.2.symm⟩
    rw [if_neg same, other]
    rfl

/-- The store holds the responses of these routes under their lines. -/
def LineStore.Lists (store : LineStore RenderedResponse) (routes : List StaticRoute) : Prop :=
  ∀ mode line, Compiled (firstStatic? mode line routes) (store.respond? line mode)

namespace LineStore

variable {store store' : LineStore RenderedResponse} {routes : List StaticRoute}

theorem lists_empty : Lists {} [] := by
  intro mode line
  cases mode with
  | sensitive => exact .none
  | insensitive => exact .none

theorem register_fst (store : LineStore RenderedResponse) (line : Octets) (mode : CaseMode)
    (response : RenderedResponse) :
    (store.register line mode response).1 = (store.entries mode).get? (tierKey line mode) := by
  cases mode <;> rfl

theorem respond?_register (store : LineStore RenderedResponse) (line other : Octets)
    (mode mode' : CaseMode) (response : RenderedResponse) :
    (store.register line mode response).2.respond? other mode' =
      if mode' = mode ∧ other = tierKey line mode then some response
      else store.respond? other mode' := by
  rw [respond?, entries_register]
  by_cases same : mode' = mode
  · rw [if_pos same, Tier.get?_put]
    simp only [same, true_and]
    rfl
  · rw [if_neg same, if_neg (fun both => same both.1)]
    rfl

theorem respond?_register_startLine (store : LineStore RenderedResponse) (r : StaticRoute)
    (response : RenderedResponse) (line : Octets) (mode : CaseMode) :
    (store.register r.startLine r.mode response).2.respond? line mode =
      if mode = r.mode ∧ line = r.startLine then some response else store.respond? line mode := by
  rw [respond?_register, r.tierKey_startLine]

/-- A response that is registered without replacing another belongs to the last route. -/
theorem Lists.register (lists : store.Lists routes) {r : StaticRoute}
    {response : RenderedResponse} (rendered : r.template.compile = .ok response)
    (free : (store.register r.startLine r.mode response).1 = none) :
    Lists (store.register r.startLine r.mode response).2 (routes ++ [r]) := by
  intro mode line
  have old := lists mode line
  rw [register_fst, r.tierKey_startLine] at free
  rw [respond?_register_startLine, firstStatic?_append, firstStatic?_cons]
  by_cases same : mode = r.mode ∧ line = r.startLine
  · obtain ⟨rfl, rfl⟩ := same
    rw [respond?, free] at old
    rw [if_pos ⟨rfl, rfl⟩, if_pos ⟨rfl, rfl⟩]
    generalize firstStatic? r.mode r.startLine routes = earlier at old
    cases old
    exact .some rendered
  · have none : firstStatic? mode line [] = none := rfl
    rw [if_neg same, if_neg same, none, Option.or_none]
    exact old

/-- A response that is registered, be it in the place of another, is found before all others. -/
theorem Lists.register_cons (lists : store.Lists routes) {r : StaticRoute}
    {response : RenderedResponse} (rendered : r.template.compile = .ok response) :
    Lists (store.register r.startLine r.mode response).2 (r :: routes) := by
  intro mode line
  rw [respond?_register_startLine, firstStatic?_cons]
  split
  · exact .some rendered
  · exact lists mode line

end LineStore

variable {c : CompileSettings} {base : List String}

namespace RouteLevel

/-- A static route that is added has passed its check, and its response stands under its line; no
other did before, if that is not allowed. -/
theorem exists_of_compileStatic {store store' : LineStore RenderedResponse} {r : StaticRoute}
    (compiled : compileStatic c base store r = .ok store') :
    ∃ response, r.check = .ok () ∧ (r.placed c base).template.compile = .ok response ∧
      store' =
        (store.register (r.placed c base).startLine (r.placed c base).mode response).2 ∧
      (c.allowOverride = false →
        (store.register (r.placed c base).startLine (r.placed c base).mode response).1 = none) := by
  unfold compileStatic at compiled
  obtain ⟨_, checked, compiled⟩ := exists_of_bind_eq_ok compiled
  obtain ⟨response, rendered, compiled⟩ := exists_of_bind_eq_ok compiled
  refine ⟨response, checked, eq_ok_of_mapError_eq_ok rendered, ?_⟩
  dsimp only at compiled
  split at compiled
  · cases compiled
  · next placed =>
    cases compiled
    refine ⟨rfl, ?_⟩
    intro strict
    simpa [strict] using placed

theorem lists_compileStatic (strict : c.allowOverride = false)
    {store store' : LineStore RenderedResponse} {routes : List StaticRoute} {r : StaticRoute}
    (lists : store.Lists routes)
    (compiled : compileStatic c base store r = .ok store') :
    store'.Lists (routes ++ [r.placed c base]) ∧ r.check = .ok () := by
  obtain ⟨response, checked, rendered, rfl, free⟩ := exists_of_compileStatic compiled
  exact ⟨lists.register rendered (free strict), checked⟩

/-- All static routes of a level are in its store, and have passed their check. -/
theorem lists_compileStatics (strict : c.allowOverride = false) {statics : List StaticRoute}
    {store : LineStore RenderedResponse}
    (compiled : statics.foldlM (compileStatic c base) {} = .ok store) :
    store.Lists (statics.map (·.placed c base)) ∧ ∀ r ∈ statics, r.check = .ok () := by
  refine foldlM_append
    (P := fun done store => store.Lists (done.map (·.placed c base)) ∧
      ∀ r ∈ done, r.check = .ok ()) ?_ [] statics ⟨LineStore.lists_empty, by simp⟩ compiled
  rintro done store r store' ⟨lists, checked⟩ added
  obtain ⟨next, sound⟩ := lists_compileStatic strict lists added
  rw [List.map_append, List.map_singleton]
  refine ⟨next, ?_⟩
  intro other mem
  rcases List.mem_append.mp mem with old | last
  · exact checked other old
  · rw [List.mem_singleton.mp last]
    exact sound

/-- The store of either case mode holds the routes of that mode. -/
structure ListsBoth (routes : List DynamicResponder) (stores : DynamicStore × DynamicStore) :
    Prop where
  mode_sensitive : stores.1.mode = .sensitive
  mode_insensitive : stores.2.mode = .insensitive
  sensitive : stores.1.Lists (ofMode .sensitive routes)
  insensitive : stores.2.Lists (ofMode .insensitive routes)

/-- A dynamic route that is added is registered in the store of its case mode. -/
theorem compileDynamic_cases {chain : MiddlewareChain}
    {stores stores' : DynamicStore × DynamicStore} {r : DynamicResponder}
    (compiled : compileDynamic c base chain stores r = .ok stores') :
    (∃ store, r.route.mode = .sensitive ∧
      stores.1.register (r.placed c base chain) c.allowOverride = .ok store ∧
      stores' = (store, stores.2)) ∨
    ∃ store, r.route.mode = .insensitive ∧
      stores.2.register (r.placed c base chain) c.allowOverride = .ok store ∧
      stores' = (stores.1, store) := by
  unfold compileDynamic at compiled
  obtain ⟨_, _, compiled⟩ := exists_of_bind_eq_ok compiled
  split at compiled
  · next mode =>
    obtain ⟨store, registered, compiled⟩ := exists_of_bind_eq_ok compiled
    cases compiled
    exact .inl ⟨store, mode, registered, rfl⟩
  · next mode =>
    obtain ⟨store, registered, compiled⟩ := exists_of_bind_eq_ok compiled
    cases compiled
    exact .inr ⟨store, mode, registered, rfl⟩

theorem listsBoth_compileDynamic (strict : c.allowOverride = false) {chain : MiddlewareChain}
    {stores stores' : DynamicStore × DynamicStore} {routes : List DynamicResponder}
    {r : DynamicResponder} (lists : ListsBoth routes stores)
    (compiled : compileDynamic c base chain stores r = .ok stores') :
    ListsBoth (routes ++ [r.placed c base chain]) stores' := by
  obtain ⟨store, mode, registered, rfl⟩ | ⟨store, mode, registered, rfl⟩ :=
    compileDynamic_cases compiled
  · rw [strict] at registered
    refine ⟨?_, lists.mode_insensitive, ?_, ?_⟩
    · rw [DynamicStore.mode_register registered, lists.mode_sensitive]
    · simpa [ofMode, DynamicResponder.placed, mode] using lists.sensitive.register registered
    · simpa [ofMode, DynamicResponder.placed, mode] using lists.insensitive
  · rw [strict] at registered
    refine ⟨lists.mode_sensitive, ?_, ?_, ?_⟩
    · rw [DynamicStore.mode_register registered, lists.mode_insensitive]
    · simpa [ofMode, DynamicResponder.placed, mode] using lists.sensitive
    · simpa [ofMode, DynamicResponder.placed, mode] using lists.insensitive.register registered

theorem listsBoth_empty :
    ListsBoth [] ({ mode := .sensitive }, { mode := .insensitive }) where
  mode_sensitive := rfl
  mode_insensitive := rfl
  sensitive := DynamicStore.lists_empty .sensitive
  insensitive := DynamicStore.lists_empty .insensitive

/-- All dynamic routes of a level are in the store of their case mode. -/
theorem listsBoth_compileDynamics (strict : c.allowOverride = false) {chain : MiddlewareChain}
    {dynamics : List DynamicResponder} {stores : DynamicStore × DynamicStore}
    (compiled : dynamics.foldlM (compileDynamic c base chain)
      ({ mode := .sensitive }, { mode := .insensitive }) = .ok stores) :
    ListsBoth (dynamics.map (·.placed c base chain)) stores :=
  foldlM_append (P := fun done => ListsBoth (done.map (·.placed c base chain)))
    (fun lists added => by
      rw [List.map_append]
      exact listsBoth_compileDynamic strict lists added)
    [] dynamics listsBoth_empty compiled

end RouteLevel

/-! ## Whole levels -/

namespace RouteTable

/-- The tiers of a level are asked in turn. -/
theorem resolveOwn?_eq (t : RouteTable) (request : Request) :
    t.resolveOwn? request =
      ((t.statics.respond? request.startLine .sensitive).map (.fixed · .staticSensitive) <|>
      (t.statics.respond? request.startLine.lower .insensitive).map
        (.fixed · .staticInsensitive) <|>
      (t.dynamicSensitive.resolve? request).map (.dynamic · .dynamicSensitive) <|>
      (t.dynamicInsensitive.resolve? request).map (.dynamic · .dynamicInsensitive)) := by
  rw [resolveOwn?, Request.startLineLowercased]
  cases t.statics.respond? request.startLine .sensitive with
  | some response => rfl
  | none =>
    cases t.statics.respond? request.startLine.lower .insensitive with
    | some response => rfl
    | none =>
      cases t.dynamicSensitive.resolve? request with
      | some found => rfl
      | none => rfl

theorem resolve?_eq (t : RouteTable) (request : Request) :
    t.resolve? request = (t.resolveOwn? request <|> resolveIn? t.groups request) := by
  obtain ⟨base, statics, sensitive, insensitive, groups⟩ := t
  rw [resolve?]
  cases resolveOwn? ⟨base, statics, sensitive, insensitive, groups⟩ request with
  | some found => rfl
  | none => rfl

theorem resolveIn?_cons (t : RouteTable) (rest : List RouteTable) (request : Request) :
    resolveIn? (t :: rest) request =
      ((if t.covers request then t.resolve? request else none) <|> resolveIn? rest request) := by
  rw [resolveIn?]
  split
  · cases t.resolve? request with
    | some found => rfl
    | none => rfl
  · rfl

/-- The four tiers of a compiled level answer like the routes of the level. -/
theorem answers_resolveOwn? {lines : LineStore RenderedResponse}
    {stores : DynamicStore × DynamicStore} {statics : List StaticRoute}
    {dynamics : List DynamicResponder} (lists : lines.Lists statics)
    (both : RouteLevel.ListsBoth dynamics stores) (request : Request) {t : RouteTable}
    {width : KeyWidth} {minimal : Bool} (compiled : t.statics = .compile lines width minimal)
    (sensitive : t.dynamicSensitive = stores.1) (insensitive : t.dynamicInsensitive = stores.2) :
    Answers (searchOwn statics dynamics request) (t.resolveOwn? request) := by
  have same := (PerfectStore.holds_compile lines width minimal).respond?_eq
  rw [resolveOwn?_eq, compiled, same, same, sensitive, insensitive,
    both.sensitive.resolve?_eq, both.insensitive.resolve?_eq, both.mode_sensitive,
    both.mode_insensitive]
  exact ((lists .sensitive _).answers _).orElse (((lists .insensitive _).answers _).orElse
    ((answers_dynamic _ _).orElse (answers_dynamic _ _)))

end RouteTable

end Signpost
