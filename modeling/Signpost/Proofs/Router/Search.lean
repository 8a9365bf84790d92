import Signpost.Proofs.Router.Covers
import Signpost.Proofs.Store.Answers
import Signpost.Proofs.Store.Override
import Signpost.Router.Router

/-!
# The search over declarations

`RouteLevel.search` looks for what answers a request in the declarations
themselves: on a level first, in four tiers, and then in its groups, in order.
It knows nothing of stores, keys, tables or buckets.
-/

namespace Signpost

/-- A declaration that answers a request, as it stands below the levels above it. -/
inductive Declared where
  | fixed (route : StaticRoute) (tier : RouteTier)
  | dynamic (found : DynamicMatch) (tier : RouteTier)

/-- The first static route of a case mode that has a line. -/
def firstStatic? (mode : CaseMode) (line : Octets) (routes : List StaticRoute) :
    Option StaticRoute :=
  routes.find? fun r => r.mode == mode && r.startLine == line

/-- The routes of a case mode, in order. -/
def ofMode (mode : CaseMode) (routes : List DynamicResponder) : List DynamicResponder :=
  routes.filter fun r => r.route.mode == mode

/-- What answers a request among the routes of one level. -/
def searchOwn (statics : List StaticRoute) (dynamics : List DynamicResponder)
    (request : Request) : Option Declared :=
  (firstStatic? .sensitive request.startLine statics).map (.fixed · .staticSensitive) <|>
  (firstStatic? .insensitive request.startLine.lower statics).map (.fixed · .staticInsensitive) <|>
  (firstDynamic? .sensitive request (ofMode .sensitive dynamics)).map
    (.dynamic · .dynamicSensitive) <|>
  (firstDynamic? .insensitive request (ofMode .insensitive dynamics)).map
    (.dynamic · .dynamicInsensitive)

namespace RouteLevel

mutual

/-- What answers a request on a level or in its groups.  `asked` says of a base whether groups at
that base are searched at all. -/
def search (c : CompileSettings) (asked : List String → Bool) (request : Request) :
    RouteLevel → List String → MiddlewareChain → Option Declared
  | ⟨own, statics, dynamics, middleware, groups, _, _⟩, above, inherited =>
    let base := above ++ own
    let chain := inherited ++ middleware
    searchOwn (statics.map (·.placed c base)) (dynamics.map (·.placed c base chain)) request <|>
      searchAll c asked request groups base chain

/-- What answers a request in the first group that has an answer. -/
def searchAll (c : CompileSettings) (asked : List String → Bool) (request : Request) :
    List RouteLevel → List String → MiddlewareChain → Option Declared
  | [], _, _ => none
  | level :: rest, above, inherited =>
    (if asked (above ++ level.base) then search c asked request level above inherited else none) <|>
      searchAll c asked request rest above inherited

end

end RouteLevel

/-! ## What is found below a base -/

section Below

variable {base : List String} {request : Request}

/-- A request with the line of a path below a base has the base before its segments. -/
theorem coversSegments_of_line {bytes : Octets} (parsed : Request.parse bytes = .ok (some request))
    (segment : ∀ s ∈ base, RoutePath.IsSegment s) {mode : CaseMode} {method : Method}
    {version : Version} {rest : Octets} (ends : rest = [] ∨ rest.head? = some Octets.slash)
    (same : mode.key (Request.lineOf method (RouteTable.beneath base rest) version) =
      mode.key request.startLine) :
    RouteTable.coversSegments base request.segments = true := by
  obtain ⟨line, pieces⟩ := Request.parse_canonical parsed
  have lowered := CaseMode.lower_eq_of_key_eq same
  rw [line] at lowered
  rw [pieces]
  have paths := ((Request.key_lineOf_eq_iff .insensitive).mp lowered).2.2
  exact RouteTable.coversSegments_of_path segment ends paths.symm

theorem head?_path_of_check {r : StaticRoute} (checked : r.check = .ok ()) :
    (Octets.ofText r.path).head? = some Octets.slash := by
  unfold StaticRoute.check StaticRoute.pathFault? at checked
  by_cases rooted : (Octets.ofText r.path).head? = some Octets.slash
  · exact rooted
  · simp [rooted] at checked

/-- A static route below a base stands under the line of no request that does not have the base. -/
theorem coversSegments_of_startLine {bytes : Octets}
    (parsed : Request.parse bytes = .ok (some request))
    (segment : ∀ s ∈ base, RoutePath.IsSegment s) {c : CompileSettings} {r : StaticRoute}
    (checked : r.check = .ok ())
    (line : r.mode.key request.startLine = (r.placed c base).startLine) :
    RouteTable.coversSegments base request.segments = true := by
  by_cases top : base = []
  · rw [top]
    rfl
  · rw [StaticRoute.startLine, Request.ofText_line, StaticRoute.placed,
      RouteLevel.ofText_joinPath _ top] at line
    refine coversSegments_of_line parsed segment ?_ line.symm
    split
    · exact .inl rfl
    · exact .inr (head?_path_of_check checked)

/-- A dynamic route below a base takes no request that does not have the base. -/
theorem coversSegments_of_takes {bytes : Octets}
    (parsed : Request.parse bytes = .ok (some request))
    (segment : ∀ s ∈ base, RoutePath.IsSegment s) {c : CompileSettings} {chain : MiddlewareChain}
    {r : DynamicResponder} (taken : (r.placed c base chain).route.takes request = true) :
    RouteTable.coversSegments base request.segments = true := by
  by_cases top : base = []
  · rw [top]
    rfl
  rw [DynamicRoute.takes] at taken
  split at taken
  · rw [beq_iff_eq, DynamicRoute.lineKey, DynamicRoute.startLine, Request.ofText_line,
      DynamicResponder.placed, RoutePath.ofText_render_below _ top] at taken
    refine coversSegments_of_line parsed segment ?_ taken
    cases r.route.path with
    | nil => exact .inl rfl
    | cons c cs => exact .inr rfl
  · rw [Bool.and_eq_true] at taken
    obtain ⟨_, taken⟩ := taken
    split at taken
    · exact RoutePath.coversSegments_of_matchesOpen taken
    · exact RoutePath.coversSegments_of_matchesOpen (RoutePath.matchesOpen_of_matchesExact taken)

theorem coversSegments_of_firstStatic? {bytes : Octets}
    (parsed : Request.parse bytes = .ok (some request))
    (segment : ∀ s ∈ base, RoutePath.IsSegment s) {c : CompileSettings}
    {statics : List StaticRoute} (checked : ∀ r ∈ statics, r.check = .ok ()) (mode : CaseMode)
    {r : StaticRoute} (found : firstStatic? mode (mode.key request.startLine)
      (statics.map (·.placed c base)) = some r) :
    RouteTable.coversSegments base request.segments = true := by
  have same := List.find?_some found
  rw [Bool.and_eq_true, beq_iff_eq, beq_iff_eq] at same
  obtain ⟨declared, mem, rfl⟩ := List.mem_map.mp (List.mem_of_find?_eq_some found)
  obtain ⟨rfl, line⟩ := same
  exact coversSegments_of_startLine parsed segment (checked declared mem) line.symm

/-- What the search finds among routes of one case mode takes the request. -/
theorem exists_of_firstDynamic? {mode : CaseMode} {routes : List DynamicResponder}
    {found : DynamicMatch} (first : firstDynamic? mode request (ofMode mode routes) = some found) :
    ∃ r ∈ routes, r.route.takes request = true := by
  simp only [firstDynamic?, Option.orElse_eq_orElse, Option.orElse_eq_or, Option.map_eq_some_iff,
    Option.or_eq_some_iff] at first
  obtain ⟨r, first, _⟩ := first
  have mem : r ∈ ofMode mode routes := by
    rcases first with plain | ⟨_, exact | ⟨_, opens⟩⟩
    · exact List.mem_of_find?_eq_some plain
    · exact List.mem_of_find?_eq_some exact
    · exact List.mem_of_find?_eq_some opens
  obtain ⟨mem, own⟩ := List.mem_filter.mp mem
  refine ⟨r, mem, ?_⟩
  rw [DynamicRoute.takes, eq_of_beq own]
  rcases first with plain | ⟨_, exact | ⟨_, opens⟩⟩
  · have same := List.find?_some plain
    rw [Bool.and_eq_true] at same
    rw [if_pos same.1, same.2]
  · have same := List.find?_some exact
    simp only [Bool.and_eq_true, Bool.not_eq_true'] at same
    simp [same]
  · have same := List.find?_some opens
    simp only [Bool.and_eq_true] at same
    have parametric : r.route.isParameterless = false := by
      rw [DynamicRoute.isParameterless, RoutePath.hasParameters_of_hasCatchAll same.1]
      rfl
    simp [same, parametric]

theorem coversSegments_of_firstDynamic? {bytes : Octets}
    (parsed : Request.parse bytes = .ok (some request))
    (segment : ∀ s ∈ base, RoutePath.IsSegment s) {c : CompileSettings} {chain : MiddlewareChain}
    {dynamics : List DynamicResponder} {mode : CaseMode} {found : DynamicMatch}
    (first : firstDynamic? mode request (ofMode mode (dynamics.map (·.placed c base chain))) =
      some found) :
    RouteTable.coversSegments base request.segments = true := by
  obtain ⟨r, mem, taken⟩ := exists_of_firstDynamic? first
  obtain ⟨declared, _, rfl⟩ := List.mem_map.mp mem
  exact coversSegments_of_takes parsed segment taken

theorem coversSegments_of_searchOwn {bytes : Octets}
    (parsed : Request.parse bytes = .ok (some request))
    (segment : ∀ s ∈ base, RoutePath.IsSegment s) {c : CompileSettings} {chain : MiddlewareChain}
    {statics : List StaticRoute} (checked : ∀ r ∈ statics, r.check = .ok ())
    {dynamics : List DynamicResponder} {declared : Declared}
    (found : searchOwn (statics.map (·.placed c base)) (dynamics.map (·.placed c base chain))
      request = some declared) :
    RouteTable.coversSegments base request.segments = true := by
  simp only [searchOwn, Option.orElse_eq_orElse, Option.orElse_eq_or, Option.or_eq_some_iff,
    Option.map_eq_some_iff] at found
  rcases found with ⟨r, found, _⟩ | ⟨_, ⟨r, found, _⟩ | ⟨_, ⟨r, found, _⟩ | ⟨_, r, found, _⟩⟩⟩
  · exact coversSegments_of_firstStatic? parsed segment checked .sensitive found
  · exact coversSegments_of_firstStatic? parsed segment checked .insensitive found
  · exact coversSegments_of_firstDynamic? parsed segment found
  · exact coversSegments_of_firstDynamic? parsed segment found

end Below

end Signpost
