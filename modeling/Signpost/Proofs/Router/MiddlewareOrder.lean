import Signpost.Proofs.Middleware.Gating
import Signpost.Proofs.Router.Origin
import Signpost.Router.Dispatch

/-!
# In which order a router runs middleware

The chain of a route that a router finds is that of the root level, then those of the groups around
the route from the outermost to the innermost, and then its own; the chain of a not-found handler is
that of the root level alone (`RouterPlan.serves_of_build`).  An attempt at a request runs the chain
from the template on, and writes only what the responder answers (`Router.Serves`).
-/

namespace Signpost

/-- A router answers a request with a responder: the responder calls its middleware and its handler
as a gate, and what it answers is written; if it fails, nothing is. -/
structure Router.Serves (r : Router) (request : Request) (responder : DynamicResponder)
    (parameters : List String) (outcome : Outcome) : Prop where
  gated : ∃ calls,
    responder.answerNoting request parameters = (calls, responder.answer request parameters) ∧
    responder.Gated request (responder.start parameters) calls
      (responder.answer request parameters) ∧
    calls.filterMap ResponderCall.middleware? <+: responder.middleware
  written : ∀ response s, responder.answer request parameters = .ok response →
    r.attempt request s =
      ((response.write r.date request.method.isHead s).1.map fun () => outcome,
        (response.write r.date request.method.isHead s).2)
  unwritten : ∀ e s, responder.answer request parameters = .error e →
    r.attempt request s = (.error e, s)

namespace Router

variable {r : Router} {request : Request} {responder : DynamicResponder} {parameters : List String}
  {outcome : Outcome}

/-- A router serves a request with a responder that it leaves the request to. -/
theorem serves_of_attempt (left : ∀ s, r.attempt request s =
    ((responder.respond request parameters r.date s).1.map fun () => outcome,
      (responder.respond request parameters r.date s).2)) :
    r.Serves request responder parameters outcome := by
  have noted := responder.gated_answerNoting request parameters
  constructor
  case gated =>
    refine ⟨(responder.answerNoting request parameters).1, ?_, noted, noted.called_isPrefix⟩
    rw [← DynamicResponder.answerNoting_snd]
  case written =>
    intro response s answered
    rw [left, DynamicResponder.respond, answered]
  case unwritten =>
    intro e s failed
    rw [left, DynamicResponder.respond, failed]
    rfl

theorem serves_of_resolve? {found : DynamicMatch} {tier : RouteTier}
    (resolved : r.table.resolve? request = some (.dynamic found tier)) :
    r.Serves request found.responder found.parameters (.responded tier) := by
  refine serves_of_attempt fun s => ?_
  rw [attempt, resolved]
  rfl

theorem serves_of_notFound (unmatched : r.table.resolve? request = none)
    (handled : r.notFound = some (.dynamic responder)) :
    r.Serves request responder [] .notFound := by
  refine serves_of_attempt fun s => ?_
  rw [attempt, unmatched]
  dsimp only
  rw [respondUnmatched, handled]

end Router

namespace RouterPlan

variable {p : RouterPlan} {r : Router} {request : Request}

/-- A route that is found stands on some level of the plan, and the levels around it have put their
middleware before its own. -/
theorem exists_declared_of_resolve? (built : p.build = .ok r) {found : DynamicMatch}
    {tier : RouteTier} (resolved : r.table.resolve? request = some (.dynamic found tier)) :
    ∃ path level declared, p.routes.Nested path level ∧ declared ∈ level.dynamics ∧
      found = DynamicStore.matchOf
        (declared.placed p.settings (p.routes.base ++ path.flatMap RouteLevel.base)
          (p.routes.middleware ++ path.flatMap RouteLevel.middleware)) request.segments := by
  obtain ⟨t, inside, own⟩ := RouteTable.exists_table_of_resolve? resolved
  obtain ⟨path, level, nested, fills⟩ := exists_nested_of_build built inside
  have answered := fills.answeredBy own
  generalize same : Resolved.dynamic found tier = answer at answered
  cases answered with
  | fixed => cases same
  | dynamic mem _ =>
    cases same
    exact ⟨path, level, _, nested, mem, rfl⟩

/-- The not-found response is made from what is planned for it. -/
theorem mapM_compileNotFound_of_build (built : p.build = .ok r) :
    p.notFound.mapM p.compileNotFound = .ok r.notFound := by
  obtain ⟨t, _, built⟩ := exists_of_bind_eq_ok built
  obtain ⟨notFound, compiled, built⟩ := exists_of_bind_eq_ok built
  cases built
  exact compiled

theorem notFound_of_build (built : p.build = .ok r) {handler : Handler}
    (planned : p.notFound = some (.handled handler)) :
    r.notFound = some (.dynamic
      { route := notFoundRoute, handler, middleware := p.routes.middleware }) := by
  have compiled := mapM_compileNotFound_of_build built
  rw [planned] at compiled
  exact (Except.ok.inj compiled).symm

/-- A router runs, for a dynamic route that it finds, the middleware of the root level, that of the
groups down to the route, and that of the route, as a gate to its handler; and for a not-found
handler that of the root level. -/
theorem serves_of_build (built : p.build = .ok r) (request : Request) :
    (∀ found tier, r.table.resolve? request = some (.dynamic found tier) →
      ∃ path level declared, p.routes.Nested path level ∧ declared ∈ level.dynamics ∧
        found.responder.middleware =
          p.routes.middleware ++ path.flatMap RouteLevel.middleware ++ declared.middleware ∧
        found.responder.handler = declared.handler ∧
        found.responder.route.template =
          p.settings.finish declared.route.version declared.route.method
            declared.route.template ∧
        found.responder.route.path =
          (p.routes.base ++ path.flatMap RouteLevel.base).map .literal ++ declared.route.path ∧
        found.parameters =
          (RoutePath.capture found.responder.route.path request.segments).map
            Utf8.decodeLenient ∧
        r.Serves request found.responder found.parameters (.responded tier)) ∧
    ∀ handler, p.notFound = some (.handled handler) →
      ∃ responder, r.notFound = some (.dynamic responder) ∧
        responder.middleware = p.routes.middleware ∧ responder.handler = handler ∧
        (r.table.resolve? request = none → r.Serves request responder [] .notFound) := by
  constructor
  · intro found tier resolved
    obtain ⟨path, level, declared, nested, mem, own⟩ := exists_declared_of_resolve? built resolved
    have served := Router.serves_of_resolve? resolved
    subst own
    exact ⟨path, level, declared, nested, mem, rfl, rfl, rfl, rfl, rfl, served⟩
  · intro handler planned
    have handled := notFound_of_build built planned
    exact ⟨_, handled, rfl, rfl, fun unmatched => Router.serves_of_notFound unmatched handled⟩

/-- Middleware that leaves a mark. -/
def marking (mark : String) : Middleware := fun _ response =>
  (.pass, { response with parameters := response.parameters ++ [mark] })

def closed : Middleware := fun _ response => (.stop, response)

/-- A plan with a mark on each level, and with a group that lets nothing pass. -/
def markedPlan : RouterPlan where
  routes :=
    (((RouteLevel.group "/").addMiddleware (marking "root")).addGroup
      (((RouteLevel.group "/api").addMiddleware (marking "group")).addDynamic {
        route := { path := [.literal "x", .parameter "id"] }
        handler := fun _ response => .ok response
        middleware := [marking "route", closed, marking "never"] }))
  notFound := some (.handled fun _ response => .ok response)
  date := []

def markedRead : Request := .bare .get (Octets.ofText "/api/x/7") .http11

/-- A request that no route of the plan takes. -/
def strayRead : Request := .bare .get (Octets.ofText "/x/7") .http11

/-- What the parameters of the answer to a request are, if it is found. -/
def parametersOf? (r : Router) (request : Request) : Option (List String) :=
  match r.table.resolve? request with
  | some (.dynamic found _) =>
    (found.responder.answer request found.parameters).toOption.map (·.parameters)
  | _ => none

/-- The marks are left in order, after the parameter, up to the middleware that stops the request.
The not-found handler is behind the root level alone. -/
theorem serves_of_build_markedPlan :
    ∃ r found tier unmatched, markedPlan.build = .ok r ∧
      r.table.resolve? markedRead = some (.dynamic found tier) ∧
      (found.responder.answer markedRead found.parameters).toOption.map (·.parameters) =
        some ["7", "root", "group", "route"] ∧
      r.Serves markedRead found.responder found.parameters (.responded tier) ∧
      unmatched.middleware = [marking "root"] ∧ r.Serves strayRead unmatched [] .notFound := by
  have answers : markedPlan.builds (fun r =>
      parametersOf? r markedRead == some ["7", "root", "group", "route"] &&
        (r.table.resolve? strayRead).isNone) = true := by
    decide +kernel
  obtain ⟨r, built, answers⟩ := exists_of_builds answers
  rw [Bool.and_eq_true, beq_iff_eq, parametersOf?] at answers
  obtain ⟨answers, stray⟩ := answers
  split at answers
  · next found tier resolved =>
    obtain ⟨_, _, _, _, _, _, _, _, _, _, served⟩ :=
      (serves_of_build built markedRead).1 found tier resolved
    obtain ⟨unmatched, _, chain, _, refused⟩ := (serves_of_build built strayRead).2 _ rfl
    refine ⟨r, found, tier, unmatched, built, resolved, answers, served, chain, ?_⟩
    exact refused (Option.isNone_iff_eq_none.mp stray)
  · cases answers

end RouterPlan

end Signpost
