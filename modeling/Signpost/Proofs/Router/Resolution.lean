import Signpost.Proofs.Router.Compiled

/-!
# A router resolves as its declarations say

The search over declarations and the lookup in tables agree on a whole tree of
levels, by induction over the groups.  That a table skips the groups whose base
the request does not have makes no difference, because a search in them finds
nothing (`Agree.covered`).
-/

namespace Signpost

open RouteTable (coversSegments coversSegments_of_append answers_resolveOwn? resolve?_eq
  resolveIn? resolveIn?_cons)

/-- What is found among declarations below a base agrees with what is found in tables; and it is
found only for requests that have the base. -/
structure Agree (base : List String) (request : Request) (declared? : Option Declared)
    (resolved? : Option Resolved) : Prop where
  answers : Answers declared? resolved?
  covered : ∀ declared, declared? = some declared →
    coversSegments base request.segments = true

namespace Agree

variable {base : List String} {request : Request} {a b : Option Declared} {a' b' : Option Resolved}

theorem none : Agree base request none none := ⟨.none, fun _ found => nomatch found⟩

theorem orElse (first : Agree base request a a') (second : Agree base request b b') :
    Agree base request (a <|> b) (a' <|> b') := by
  refine ⟨first.answers.orElse second.answers, ?_⟩
  intro declared found
  rw [Option.orElse_eq_orElse, Option.orElse_eq_or, Option.or_eq_some_iff] at found
  rcases found with found | ⟨_, found⟩
  · exact first.covered declared found
  · exact second.covered declared found

theorem of_append {more : List String} (agree : Agree (base ++ more) request a a') :
    Agree base request a a' :=
  ⟨agree.answers, fun declared found => coversSegments_of_append (agree.covered declared found)⟩

/-- A group may be left out where the request does not have its base. -/
theorem skip (agree : Agree base request a a') {asked : Bool}
    (passes : coversSegments base request.segments = true → asked = true) :
    Agree base request (if asked then a else Option.none)
      (if coversSegments base request.segments then a' else Option.none) := by
  by_cases covers : coversSegments base request.segments = true
  · rw [if_pos covers, if_pos (passes covers)]
    exact agree
  · have nothing : a = Option.none := by
      cases found : a with
      | none => rfl
      | some declared => exact absurd (agree.covered declared found) covers
    rw [if_neg covers, nothing, ite_self]
    exact none

end Agree

namespace RouteLevel

variable {c : CompileSettings} {asked : List String → Bool} {request : Request} {bytes : Octets}

theorem exists_of_compile {level : RouteLevel} {above : List String} {inherited : MiddlewareChain}
    {t : RouteTable} (compiled : level.compile c above inherited = .ok t) :
    ∃ lines stores tables,
      level.statics.foldlM (compileStatic c (above ++ level.base)) {} = .ok lines ∧
      level.dynamics.foldlM
        (compileDynamic c (above ++ level.base) (inherited ++ level.middleware))
        ({ mode := .sensitive }, { mode := .insensitive }) = .ok stores ∧
      compileAll c level.groups (above ++ level.base) (inherited ++ level.middleware) =
        .ok tables ∧
      t = {
        base := above ++ level.base
        statics := .compile lines c.width c.minimal
        dynamicSensitive := stores.1
        dynamicInsensitive := stores.2
        groups := tables } := by
  obtain ⟨own, statics, dynamics, middleware, groups, fault, segments⟩ := level
  cases fault with
  | some e =>
    rw [compile] at compiled
    cases compiled
  | none =>
    rw [compile] at compiled
    · obtain ⟨lines, linesEq, compiled⟩ := exists_of_bind_eq_ok compiled
      obtain ⟨stores, storesEq, compiled⟩ := exists_of_bind_eq_ok compiled
      obtain ⟨tables, tablesEq, compiled⟩ := exists_of_bind_eq_ok compiled
      cases compiled
      exact ⟨lines, stores, tables, linesEq, storesEq, tablesEq, rfl⟩
    · exact fun e recorded => nomatch recorded

theorem agree_own (strict : c.allowOverride = false)
    (parsed : Request.parse bytes = .ok (some request)) {level : RouteLevel}
    {above : List String} (segment : ∀ s ∈ above, RoutePath.IsSegment s)
    {inherited : MiddlewareChain} {t : RouteTable}
    (compiled : level.compile c above inherited = .ok t) :
    Agree (above ++ level.base) request
      (searchOwn (level.statics.map (·.placed c (above ++ level.base)))
        (level.dynamics.map
          (·.placed c (above ++ level.base) (inherited ++ level.middleware))) request)
      (t.resolveOwn? request) := by
  obtain ⟨lines, stores, tables, linesEq, storesEq, _, rfl⟩ := exists_of_compile compiled
  obtain ⟨lists, checked⟩ := lists_compileStatics strict linesEq
  have both := listsBoth_compileDynamics strict storesEq
  refine ⟨answers_resolveOwn? lists both request rfl rfl rfl, ?_⟩
  intro declared found
  refine coversSegments_of_searchOwn parsed ?_ checked found
  intro s mem
  rcases List.mem_append.mp mem with old | own
  · exact segment s old
  · exact level.base_segments s own

mutual

/-- A table agrees with the level it was compiled from. -/
theorem agree_compile (strict : c.allowOverride = false)
    (parsed : Request.parse bytes = .ok (some request))
    (passes : ∀ base, coversSegments base request.segments = true → asked base = true) :
    ∀ (level : RouteLevel) {above : List String} {inherited : MiddlewareChain} {t : RouteTable},
      (∀ s ∈ above, RoutePath.IsSegment s) → level.compile c above inherited = .ok t →
      Agree (above ++ level.base) request (level.search c asked request above inherited)
        (t.resolve? request)
  | ⟨own, statics, dynamics, middleware, groups, fault, segments⟩, above, inherited, t, segment,
      compiled => by
    have first := agree_own strict parsed segment compiled
    obtain ⟨lines, stores, tables, _, _, tablesEq, rfl⟩ := exists_of_compile compiled
    have below : ∀ s ∈ above ++ own, RoutePath.IsSegment s := by
      intro s mem
      rcases List.mem_append.mp mem with old | new
      · exact segment s old
      · exact segments s new
    have second := agree_compileAll strict parsed passes groups below tablesEq
    rw [search, resolve?_eq]
    exact first.orElse second

/-- Tables agree with the groups they were compiled from, in order. -/
theorem agree_compileAll (strict : c.allowOverride = false)
    (parsed : Request.parse bytes = .ok (some request))
    (passes : ∀ base, coversSegments base request.segments = true → asked base = true) :
    ∀ (levels : List RouteLevel) {above : List String} {inherited : MiddlewareChain}
      {tables : List RouteTable},
      (∀ s ∈ above, RoutePath.IsSegment s) → compileAll c levels above inherited = .ok tables →
      Agree above request (searchAll c asked request levels above inherited)
        (resolveIn? tables request)
  | [], above, inherited, tables, segment, compiled => by
    rw [compileAll] at compiled
    cases compiled
    rw [searchAll, resolveIn?]
    exact .none
  | level :: rest, above, inherited, tables, segment, compiled => by
    rw [compileAll] at compiled
    obtain ⟨t, tableEq, compiled⟩ := exists_of_bind_eq_ok compiled
    obtain ⟨others, othersEq, compiled⟩ := exists_of_bind_eq_ok compiled
    cases compiled
    have first := agree_compile strict parsed passes level segment tableEq
    have second := agree_compileAll strict parsed passes rest segment othersEq
    have base : t.base = above ++ level.base := by
      obtain ⟨_, _, _, _, _, _, rfl⟩ := exists_of_compile tableEq
      rfl
    rw [searchAll, resolveIn?_cons, RouteTable.covers, base]
    exact (first.skip (passes _)).of_append.orElse second

end

end RouteLevel

namespace RouterPlan

variable {asked : List String → Bool} {request : Request} {bytes : Octets}

/-- A router that was built without overriding resolves every request that was read to the
declaration that the search finds, or to nothing where it finds nothing.  It makes no difference
which groups the search passes over, as long as it asks those whose base the request has. -/
theorem resolve?_of_build {p : RouterPlan} (strict : p.allowOverride = false) {r : Router}
    (built : p.build = .ok r) (parsed : Request.parse bytes = .ok (some request))
    (passes : ∀ base, coversSegments base request.segments = true → asked base = true) :
    Answers (p.routes.search p.settings asked request [] []) (r.table.resolve? request) := by
  obtain ⟨t, compiled, built⟩ := exists_of_bind_eq_ok built
  obtain ⟨notFound, _, built⟩ := exists_of_bind_eq_ok built
  cases built
  exact (RouteLevel.agree_compile strict parsed passes p.routes (by simp) compiled).answers

/-- Whether a plan can be built, to a router that passes a check. -/
def builds (p : RouterPlan) (check : Router → Bool) : Bool :=
  match p.build with
  | .error _ => false
  | .ok r => check r

theorem exists_of_builds {p : RouterPlan} {check : Router → Bool} (passes : p.builds check = true) :
    ∃ r, p.build = .ok r ∧ check r = true := by
  unfold builds at passes
  split at passes
  · cases passes
  · next r built => exact ⟨r, built, passes⟩

/-- A plan with a fixed route, and a route with a parameter in a group. -/
def userPlan : RouterPlan where
  routes :=
    (RouteLevel.addStatic {} { path := "/", template := .text "home" }).addGroup
      ((RouteLevel.group "/api").addPath .get "/users/:id" fun _ response => .ok response)
  date := []

def userRequest : Octets := Octets.ofText "GET /api/users/7?full HTTP/1.1\r\n\r\n"

/-- The request as it is read. -/
def userRead : Request where
  method := .get
  version := .http11
  startLine := Octets.ofText "GET /api/users/7 HTTP/1.1"
  path := Octets.ofText "/api/users/7"
  queryOctets := some (Octets.ofText "full")
  segments := [Octets.ofText "api", Octets.ofText "users", Octets.ofText "7"]
  headers := []
  headLength := userRequest.length
  body := []

theorem search_userPlan :
    (match userPlan.routes.search userPlan.settings (fun _ => true) userRead [] [] with
      | some (.dynamic found tier) => found.parameters == ["7"] && tier == .dynamicSensitive
      | _ => false) = true := by
  decide +kernel

theorem resolve?_userPlan :
    userPlan.allowOverride = false ∧ Request.parse userRequest = .ok (some userRead) ∧
      ∃ r found, userPlan.build = .ok r ∧
        r.table.resolve? userRead = some (.dynamic found .dynamicSensitive) ∧
        found.parameters = ["7"] := by
  have strict : userPlan.allowOverride = false := rfl
  have parsed : Request.parse userRequest = .ok (some userRead) := rfl
  have succeeds : userPlan.builds (fun _ => true) = true := by decide +kernel
  obtain ⟨r, built, _⟩ := exists_of_builds succeeds
  refine ⟨strict, parsed, ?_⟩
  have answers := resolve?_of_build strict built parsed (fun _ _ => rfl)
  have searched := search_userPlan
  revert answers searched
  generalize userPlan.routes.search userPlan.settings (fun _ => true) userRead [] [] = declared?
  intro answers searched
  cases resolved : r.table.resolve? userRead with
  | none =>
    rw [resolved] at answers
    cases answers
    cases searched
  | some resolution =>
    rw [resolved] at answers
    cases answers with
    | fixed => cases searched
    | dynamic =>
      rw [Bool.and_eq_true, beq_iff_eq, beq_iff_eq] at searched
      obtain ⟨parameters, rfl⟩ := searched
      exact ⟨r, _, built, resolved, parameters⟩

end RouterPlan

end Signpost
