import Signpost.Proofs.Middleware.Overrides
import Signpost.Proofs.Router.MiddlewareOrder
import Signpost.Proofs.Store.History

/-!
# Which templates the static rules reach

Everything that a router holds in its tables goes back to a declared route, and
has been made from the template of that route with all static rules applied to
it, in order (`RouterPlan.Holding`).  The same holds of a fixed not-found
response.  The template of a not-found handler is left out: it stays as it was
declared, and so without the headers of a security policy
(`RouterPlan.edited_of_build`, `RouterPlan.notFound_unedited`).
-/

namespace Signpost

/-- A template in the version of its route. -/
def RouteTemplate.inVersion (t : RouteTemplate) (version : Version) : RouteTemplate :=
  { t with head := { t.head with version } }

/-- A declared template has become another by all rules of a plan.  Where a security policy without
a filter stands among them, each of its headers has been put there exactly once. -/
structure RouterPlan.Edited (p : RouterPlan) (method : Method) (declared edited : RouteTemplate) :
    Prop where
  applied : edited = StaticRule.applyAll p.rules method declared
  secured : ∀ (before : List StaticRule) (policy : SecurityPolicy) (after : List StaticRule),
    p.rules = before ++ policy.rule {} :: after →
      (∃ secured, policy.Secures secured.head ∧
        edited = StaticRule.applyAll after method secured) ∧
      ∀ overrides : List HeadOverride, after = overrides.map HeadOverride.rule →
        ∀ header ∈ policy.headers, ∃ value, edited.head.values header.1 = [value] ∧
          ((∀ o ∈ overrides, header.1 ∉ o.headers.map Prod.fst) → value = header.2)

theorem RouterPlan.edited_applyAll (p : RouterPlan) (method : Method) (declared : RouteTemplate) :
    p.Edited method declared (StaticRule.applyAll p.rules method declared) where
  applied := rfl
  secured := by
    intro before policy after rules
    rw [rules]
    exact SecurityPolicy.secured_applyAll before after policy method declared

/-- The store of a case mode. -/
def RouteTable.dynamicOf (t : RouteTable) : CaseMode → DynamicStore :=
  RouteLevel.inMode (t.dynamicSensitive, t.dynamicInsensitive)

/-- All that a table holds goes back to routes of a level, below a base and behind a chain of
middleware: a static response to the last route that was declared for its line, and a dynamic route
to one that was declared.  The rules of the plan have been applied to the templates of all of
them. -/
structure RouterPlan.Holding (p : RouterPlan) (base : List String) (chain : MiddlewareChain)
    (level : RouteLevel) (t : RouteTable) : Prop where
  fixed : ∀ mode, ∀ response ∈ (t.statics.tier mode).values, ∃ line declared edited,
    t.statics.respond? line mode = some response ∧ declared ∈ level.statics ∧
    firstStatic? mode line (level.statics.map (·.placed p.settings base)).reverse =
      some (declared.placed p.settings base) ∧
    p.Edited declared.method (declared.template.inVersion declared.version) edited ∧
    edited.compile = .ok response
  dynamic : ∀ mode part, ∀ responder ∈ (t.dynamicOf mode).routes part, ∃ declared ∈ level.dynamics,
    declared.route.mode = mode ∧ responder = declared.placed p.settings base chain ∧
    p.Edited declared.route.method (declared.route.template.inVersion declared.route.version)
      responder.route.template

/-! ## What stands in the stores -/

/-- Every value of a tier is found under a line. -/
theorem PerfectTier.Coherent.exists_line {α : Type} {t : PerfectTier α} (coherent : t.Coherent)
    {value : α} (mem : value ∈ t.values) : ∃ line, t.get? line = some value := by
  obtain ⟨position, there⟩ := List.mem_iff_getElem?.mp mem
  have inside : position < t.lines.length := by
    rw [← coherent.values_length]
    exact (List.getElem?_eq_some_iff.mp there).1
  have known := (coherent.get?_positions _ position).mpr (List.getElem?_eq_getElem inside)
  refine ⟨t.lines[position], ?_⟩
  rw [coherent.get?_eq, known]
  exact there

/-- A registration brings no route into a part but the one that is registered. -/
theorem DynamicStore.mem_routes_of_register {s s' : DynamicStore} {r other : DynamicResponder}
    {allowOverride : Bool} (done : s.register r allowOverride = .ok s') {part : StorePart}
    (mem : other ∈ s'.routes part) : other ∈ s.routes part ∨ other = r := by
  cases registered_of_register done with
  | parameterless _ _ =>
    cases part with
    | plain =>
      obtain ⟨entry, there, rfl⟩ := List.mem_map.mp mem
      rcases Tier.mem_of_mem_put there with old | rfl
      · exact .inl (List.mem_map_of_mem old)
      · exact .inr rfl
    | bucket count => exact .inl mem
    | openEnded => exact .inl mem
  | openEnded _ _ placed =>
    cases part with
    | plain => exact .inl mem
    | bucket count => exact .inl mem
    | openEnded => exact mem_place placed mem
  | bucket _ _ placed =>
    cases part with
    | plain => exact .inl mem
    | bucket count =>
      rw [routes, getElem?_withBucket] at mem
      split at mem
      · next own =>
        rw [own]
        exact mem_place placed mem
      · exact .inl mem
    | openEnded => exact .inl mem

namespace RouteLevel

variable {c : CompileSettings} {base : List String} {chain : MiddlewareChain}

/-- The store of a level answers with the last route that was declared for a line. -/
theorem lists_reverse_compileStatics {statics : List StaticRoute}
    {store : LineStore RenderedResponse}
    (compiled : statics.foldlM (compileStatic c base) {} = .ok store) :
    store.Lists (statics.map (·.placed c base)).reverse := by
  refine foldlM_append
    (P := fun done (store : LineStore RenderedResponse) =>
      store.Lists (done.map (·.placed c base)).reverse)
    ?_ [] statics LineStore.lists_empty compiled
  intro done store r store' lists added
  obtain ⟨response, _, rendered, rfl, _⟩ := exists_of_compileStatic added
  rw [List.map_append, List.map_singleton, List.reverse_concat]
  exact lists.register_cons rendered

/-- What stands in the stores of a level was declared on it, for their case mode. -/
theorem exists_declared_of_mem_compileDynamics {dynamics : List DynamicResponder}
    {stores : DynamicStore × DynamicStore}
    (compiled : dynamics.foldlM (compileDynamic c base chain)
      ({ mode := .sensitive }, { mode := .insensitive }) = .ok stores) (mode : CaseMode)
    (part : StorePart) (responder : DynamicResponder)
    (mem : responder ∈ (inMode stores mode).routes part) :
    ∃ declared ∈ dynamics, declared.route.mode = mode ∧
      responder = declared.placed c base chain := by
  refine foldlM_append
    (P := fun done stores => ∀ mode part, ∀ responder ∈ (inMode stores mode).routes part,
      ∃ declared ∈ done, declared.route.mode = mode ∧ responder = declared.placed c base chain)
    ?_ [] dynamics ?_ compiled mode part responder mem
  · intro done stores r stores' origin added mode part responder mem
    obtain ⟨registered, others⟩ := inMode_compileDynamic added
    have earlier : responder ∈ (inMode stores mode).routes part →
        ∃ declared ∈ done ++ [r], declared.route.mode = mode ∧
          responder = declared.placed c base chain := by
      intro old
      obtain ⟨declared, there, parts⟩ := origin mode part responder old
      exact ⟨declared, List.mem_append_left _ there, parts⟩
    by_cases own : mode = r.route.mode
    · rw [own] at mem
      rcases DynamicStore.mem_routes_of_register registered mem with old | new
      · exact earlier (own ▸ old)
      · exact ⟨r, List.mem_append_right _ List.mem_cons_self, own.symm, new⟩
    · rw [others mode own] at mem
      exact earlier mem
  · intro mode part responder mem
    cases mode <;> cases part <;> cases mem

end RouteLevel

/-! ## Whole routers -/

namespace RouterPlan

variable {p : RouterPlan} {r : Router}

/-- A table holds routes of the level that fills it, as the rules have left them. -/
theorem holding_of_fills {base : List String} {chain : MiddlewareChain} {level : RouteLevel}
    {t : RouteTable} (fills : RouteLevel.Fills p.settings base chain level t) :
    p.Holding base chain level t where
  fixed := by
    intro mode response mem
    obtain ⟨lines, linesEq, statics⟩ := fills.statics
    have holds := PerfectStore.holds_compile lines p.settings.width p.settings.minimal
    rw [statics] at mem ⊢
    obtain ⟨line, found⟩ := (holds mode).coherent.exists_line mem
    have listed := RouteLevel.lists_reverse_compileStatics linesEq mode line
    rw [← holds.respond?_eq, PerfectStore.respond?, found] at listed
    generalize first : firstStatic? mode line
      (level.statics.map (·.placed p.settings base)).reverse = placed? at listed
    cases listed with
    | some rendered =>
      have mem := List.mem_reverse.mp (List.mem_of_find?_eq_some first)
      obtain ⟨declared, there, rfl⟩ := List.mem_map.mp mem
      exact ⟨line, declared, _, found, there, first, p.edited_applyAll _ _, rendered⟩
  dynamic := by
    intro mode part responder mem
    obtain ⟨declared, there, own, rfl⟩ :=
      RouteLevel.exists_declared_of_mem_compileDynamics fills.dynamics mode part responder mem
    exact ⟨declared, there, own, rfl, p.edited_applyAll _ _⟩

theorem exists_planned_of_build (built : p.build = .ok r) {notFound : NotFound}
    (there : r.notFound = some notFound) :
    ∃ planned, p.notFound = some planned ∧ p.compileNotFound planned = .ok notFound := by
  have compiled := mapM_compileNotFound_of_build built
  rw [there] at compiled
  cases planned : p.notFound with
  | none =>
    rw [planned] at compiled
    cases compiled
  | some plan =>
    rw [planned, Option.mapM_some] at compiled
    obtain ⟨own, compiled, same⟩ := exists_of_map_eq_ok compiled
    cases same
    exact ⟨plan, rfl, compiled⟩

/-- All that a router answers from has been through the static rules of its plan: every route on
every level, and the fixed not-found response.  Only the template of a not-found handler has not,
which makes no difference exactly if the rules leave it as it is. -/
theorem edited_of_build (built : p.build = .ok r) :
    (∀ t, r.table.HasTable t → ∃ path level, p.routes.Nested path level ∧
      p.Holding (p.routes.base ++ path.flatMap RouteLevel.base)
        (p.routes.middleware ++ path.flatMap RouteLevel.middleware) level t) ∧
    (∀ response, r.notFound = some (.fixed response) → ∃ declared edited,
      p.notFound = some (.fixed declared) ∧ p.Edited .get declared edited ∧
      edited.compile = .ok response) ∧
    ∀ responder, r.notFound = some (.dynamic responder) →
      (∃ handler, p.notFound = some (.handled handler) ∧ responder.handler = handler) ∧
      responder.route.template = RouteTemplate.ofStatus Status.notFound ∧
      (p.Edited responder.route.method (RouteTemplate.ofStatus Status.notFound)
          responder.route.template ↔
        StaticRule.applyAll p.rules .get (RouteTemplate.ofStatus Status.notFound) =
          RouteTemplate.ofStatus Status.notFound) := by
  refine ⟨?_, ?_, ?_⟩
  · intro t inside
    obtain ⟨path, level, nested, fills⟩ := exists_nested_of_build built inside
    exact ⟨path, level, nested, holding_of_fills fills⟩
  · intro response fixed
    obtain ⟨planned, there, compiled⟩ := exists_planned_of_build built fixed
    cases planned with
    | fixed template =>
      obtain ⟨own, rendered, same⟩ := exists_of_map_eq_ok compiled
      cases same
      exact ⟨template, _, there, p.edited_applyAll _ _, eq_ok_of_mapError_eq_ok rendered⟩
    | handled handler => cases compiled
  · intro responder handled
    obtain ⟨planned, there, compiled⟩ := exists_planned_of_build built handled
    cases planned with
    | fixed template =>
      obtain ⟨_, _, same⟩ := exists_of_map_eq_ok compiled
      cases same
    | handled handler =>
      cases compiled
      refine ⟨⟨handler, there, rfl⟩, rfl, ?_⟩
      constructor
      · intro edited
        exact edited.applied.symm
      · intro left
        have edited := p.edited_applyAll .get (RouteTemplate.ofStatus Status.notFound)
        rw [left] at edited
        exact edited

/-- A policy among other rules. -/
def guardingRules : List StaticRule :=
  [HeadOverride.rule { headers := [(.standard .xFrameOptions, "ALLOWALL")] },
    SecurityPolicy.rule {} {},
    HeadOverride.rule { filter := { methods := [.post] }, status := some ⟨201⟩ }]

/-- A plan with guarding rules, a fixed route, and a route with a parameter in a group. -/
def guardedPlan : RouterPlan where
  routes :=
    (RouteLevel.root.addStatic { path := "/", template := .text "home" }).addGroup
      ((RouteLevel.group "/api").addPath .get "/users/:id" fun _ response => .ok response)
  rules := guardingRules
  notFound := some (.fixed (.text "nothing here"))
  date := []

/-- Whether a router has a static response, a route with three components in its first group, and a
not-found response. -/
def isFurnished (r : Router) : Bool :=
  (r.table.statics.tier .sensitive).values.length == 1 &&
    (match r.table.groups with
      | t :: _ => (t.dynamicSensitive.routes (.bucket 3)).length == 1
      | [] => false) &&
    (match r.notFound with
      | some (.fixed _) => true
      | _ => false)

theorem edited_of_build_guardedPlan :
    ∃ r t, guardedPlan.build = .ok r ∧ r.table.HasTable t ∧
      (∃ response ∈ (r.table.statics.tier .sensitive).values, ∃ edited : RouteTemplate,
        edited.compile = .ok response ∧ SecurityPolicy.Secures {} edited.head) ∧
      (∃ responder ∈ t.dynamicSensitive.routes (.bucket 3),
        SecurityPolicy.Secures {} responder.route.template.head) ∧
      ∃ (response : RenderedResponse) (edited : RouteTemplate),
        r.notFound = some (.fixed response) ∧ edited.compile = .ok response ∧
        SecurityPolicy.Secures {} edited.head := by
  have secures : ∀ {method declared edited}, guardedPlan.Edited method declared edited →
      SecurityPolicy.Secures {} edited.head := by
    intro method declared edited passed header mem
    obtain ⟨value, last, kept⟩ :=
      (passed.secured [_] {} [_] rfl).2 [{ filter := { methods := [.post] }, status := some ⟨201⟩ }]
        rfl header mem
    rw [last, kept (by simp)]
  have succeeds : guardedPlan.builds isFurnished = true := by decide +kernel
  obtain ⟨r, built, furnished⟩ := exists_of_builds succeeds
  rw [isFurnished, Bool.and_eq_true, Bool.and_eq_true, beq_iff_eq] at furnished
  obtain ⟨⟨fixed, grouped⟩, notFound⟩ := furnished
  obtain ⟨tables, unmatched, _⟩ := edited_of_build built
  obtain ⟨response, values⟩ := List.length_eq_one_iff.mp fixed
  split at grouped
  · next t rest groups =>
    obtain ⟨responder, routes⟩ := List.length_eq_one_iff.mp (beq_iff_eq.mp grouped)
    split at notFound
    · next response' planned =>
      have inside : r.table.HasTable t := .group (groups ▸ List.mem_cons_self) (.self t)
      obtain ⟨_, _, _, root⟩ := tables r.table (.self r.table)
      obtain ⟨_, _, _, group⟩ := tables t inside
      have mem : response ∈ (r.table.statics.tier .sensitive).values :=
        values ▸ List.mem_singleton_self response
      have mem' : responder ∈ t.dynamicSensitive.routes (.bucket 3) :=
        routes ▸ List.mem_singleton_self responder
      obtain ⟨_, _, edited, _, _, _, passed, rendered⟩ := root.fixed .sensitive response mem
      obtain ⟨_, _, _, _, passed'⟩ := group.dynamic .sensitive (.bucket 3) responder mem'
      obtain ⟨_, edited', _, passed'', rendered'⟩ := unmatched response' planned
      exact ⟨r, t, built, inside, ⟨response, mem, edited, rendered, secures passed⟩,
        ⟨responder, mem', secures passed'⟩, response', edited', planned, rendered',
        secures passed''⟩
    · cases notFound
  · cases grouped

/-- A plan with nothing but a policy and a handler for all requests. -/
def strayPlan : RouterPlan where
  routes := .root
  rules := [SecurityPolicy.rule {} {}]
  notFound := some (.handled fun _ response => .ok response)
  date := []

/-- The policy does not reach what the handler starts from. -/
theorem notFound_unedited :
    ∃ r responder, strayPlan.build = .ok r ∧ r.notFound = some (.dynamic responder) ∧
      ¬strayPlan.Edited responder.route.method (RouteTemplate.ofStatus Status.notFound)
        responder.route.template ∧
      ¬SecurityPolicy.Secures {} responder.route.template.head := by
  obtain ⟨r, built⟩ : ∃ r, strayPlan.build = .ok r := ⟨_, rfl⟩
  have handled := notFound_of_build built rfl
  have bare : ¬SecurityPolicy.Secures {} (RouteTemplate.ofStatus Status.notFound).head := by
    intro secures
    have framed := secures (.standard .xFrameOptions, "DENY") (by decide)
    cases framed
  refine ⟨r, _, built, handled, ?_, bare⟩
  intro edited
  obtain ⟨secured, secures, same⟩ := (edited.secured [] {} [] rfl).1
  apply bare
  rw [show RouteTemplate.ofStatus Status.notFound = secured from same]
  exact secures

end RouterPlan

end Signpost
