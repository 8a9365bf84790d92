import Mathlib.Data.List.Forall2
import Signpost.Proofs.Router.Origin

/-!
# Routing without regard to letter case

If no route of a plan regards letter case, two requests whose paths differ in nothing but letter
case are resolved alike (`RouterPlan.resolve?_alike`).  Every lookup on the way, by line, by
components or by base, gives the same for segments in lower case (`matchesExact_lower`,
`coversSegments_lower` and so on), and what is captured is lowered with them.
-/

namespace Signpost

/-- Requests that are the same to routes that do not regard letter case. -/
structure Request.Alike (a b : Request) : Prop where
  method_eq : a.method = b.method
  version_eq : a.version = b.version
  startLine_eq : a.startLine.lower = b.startLine.lower
  segments_eq : a.segments.map Octets.lower = b.segments.map Octets.lower

/-- Matches of one responder, with parameters that are the same up to letter case. -/
structure DynamicMatch.Alike (a b : DynamicMatch) : Prop where
  responder_eq : a.responder = b.responder
  parameters : List.Forall₂ (fun p q => asciiEqFold p q = true) a.parameters b.parameters

/-- Answers of one responder in one tier, with parameters that are the same up to letter case. -/
inductive Resolved.Alike : Resolved → Resolved → Prop
  | fixed (response : RenderedResponse) (tier : RouteTier) :
    Alike (.fixed response tier) (.fixed response tier)
  | dynamic {found found' : DynamicMatch} (tier : RouteTier) : found.Alike found' →
    Alike (.dynamic found tier) (.dynamic found' tier)

/-! ## Lookups in lower case -/

theorem PathComponent.accepts_lower (c : PathComponent) (segment : Octets) :
    c.accepts .insensitive segment.lower = c.accepts .insensitive segment := by
  cases c with
  | literal text =>
    rw [accepts, accepts, CaseMode.same, CaseMode.same]
    exact congrArg (_ == ·) (Octets.lower_lower segment)
  | parameter name => rfl
  | catchAll => rfl

namespace RoutePath

theorem matchesExact_lower (path : List PathComponent) (segments : List Octets) :
    matchesExact .insensitive path (segments.map Octets.lower) =
      matchesExact .insensitive path segments := by
  induction path generalizing segments with
  | nil => cases segments <;> rfl
  | cons c cs ih =>
    cases segments with
    | nil => rfl
    | cons s ss => rw [List.map_cons, matchesExact, matchesExact, c.accepts_lower, ih]

theorem matchesOpen_lower (path : List PathComponent) (segments : List Octets) :
    matchesOpen .insensitive path (segments.map Octets.lower) =
      matchesOpen .insensitive path segments := by
  induction path generalizing segments with
  | nil => cases segments <;> rfl
  | cons c cs ih =>
    by_cases catches : c = .catchAll
    · rw [catches]
      rfl
    · cases segments with
      | nil => rfl
      | cons s ss =>
        rw [List.map_cons, matchesOpen_cons catches, matchesOpen_cons catches, c.accepts_lower, ih]

theorem capture_map (f : Octets → Octets) (path : List PathComponent) (segments : List Octets) :
    capture path (segments.map f) = (capture path segments).map f := by
  fun_induction capture path segments with
  | case1 segments => rfl
  | case2 cs segments => rfl
  | case3 c cs bounded =>
    rw [List.map_nil, capture]
    exact bounded
  | case4 name cs s ss ih => rw [List.map_cons, capture, ih, List.map_cons]
  | case5 text cs s ss ih => rw [List.map_cons, capture, ih]

end RoutePath

theorem RouteTable.coversSegments_lower (base : List String) (segments : List Octets) :
    coversSegments base (segments.map Octets.lower) = coversSegments base segments := by
  induction base generalizing segments with
  | nil => rfl
  | cons literal base ih =>
    cases segments with
    | nil => rfl
    | cons s ss =>
      rw [List.map_cons, coversSegments, coversSegments, Octets.eqFold, Octets.eqFold,
        Octets.lower_lower, ih]

/-! ## Requests that are alike -/

namespace Request

variable {a b : Request}

/-- Requests with the same method and version, and with the same path up to letter case. -/
theorem alike_of_parse {bytes bytes' : Octets} (parsed : parse bytes = .ok (some a))
    (parsed' : parse bytes' = .ok (some b)) (method : a.method = b.method)
    (version : a.version = b.version) (path : a.path.eqFold b.path = true) : a.Alike b := by
  obtain ⟨line, segments⟩ := parse_canonical parsed
  obtain ⟨line', segments'⟩ := parse_canonical parsed'
  have lowered : a.path.lower = b.path.lower := eq_of_beq path
  have pieces : ∀ octets : Octets,
      (fullPieces Octets.slash octets).map Octets.lower = fullPieces Octets.slash octets.lower :=
    fun octets => (fullPieces_map Octet.lower_eq_slash_iff octets).symm
  refine ⟨method, version, ?_, ?_⟩
  · rw [line, line']
    exact (key_lineOf_eq_iff .insensitive).mpr ⟨method, version, lowered⟩
  · rw [segments, segments', pieces, pieces, lowered]

variable (alike : a.Alike b)

include alike

theorem Alike.length_segments : a.segments.length = b.segments.length := by
  have lengths := congrArg List.length alike.segments_eq
  rwa [List.length_map, List.length_map] at lengths

theorem Alike.accepts_eq (route : DynamicRoute) : route.accepts a = route.accepts b := by
  rw [DynamicRoute.accepts, DynamicRoute.accepts, alike.method_eq, alike.version_eq]

theorem Alike.matchesExact_eq (path : List PathComponent) :
    RoutePath.matchesExact .insensitive path a.segments =
      RoutePath.matchesExact .insensitive path b.segments := by
  rw [← RoutePath.matchesExact_lower, alike.segments_eq, RoutePath.matchesExact_lower]

theorem Alike.matchesOpen_eq (path : List PathComponent) :
    RoutePath.matchesOpen .insensitive path a.segments =
      RoutePath.matchesOpen .insensitive path b.segments := by
  rw [← RoutePath.matchesOpen_lower, alike.segments_eq, RoutePath.matchesOpen_lower]

theorem Alike.covers_eq (t : RouteTable) : t.covers a = t.covers b := by
  rw [RouteTable.covers, RouteTable.covers, ← RouteTable.coversSegments_lower, alike.segments_eq,
    RouteTable.coversSegments_lower]

/-- What a responder captures is the same up to letter case. -/
theorem Alike.alike_matchOf (r : DynamicResponder) :
    (DynamicStore.matchOf r a.segments).Alike (DynamicStore.matchOf r b.segments) := by
  refine ⟨rfl, ?_⟩
  have captured : (RoutePath.capture r.route.path a.segments).map Octets.lower =
      (RoutePath.capture r.route.path b.segments).map Octets.lower := by
    rw [← RoutePath.capture_map, alike.segments_eq, RoutePath.capture_map]
  rw [← List.forall₂_eq_eq_eq, List.forall₂_map_left_iff, List.forall₂_map_right_iff] at captured
  rw [DynamicStore.matchOf, DynamicStore.matchOf, List.forall₂_map_left_iff,
    List.forall₂_map_right_iff]
  refine captured.imp fun p q same => ?_
  rw [asciiEqFold, Utf8.asciiLower_decodeLenient, Utf8.asciiLower_decodeLenient, same,
    beq_self_eq_true]

end Request

/-! ## Stores and tables -/

section Rel

variable {α β γ : Type} {r : α → α → Prop} {a a' b b' : Option α}

/-- Searches in turn are related if they are one by one. -/
theorem rel_orElse (first : Option.Rel r a a') (second : Option.Rel r b b') :
    Option.Rel r (a <|> b) (a' <|> b') := by
  cases first with
  | none => exact second
  | some related => exact .some related

theorem rel_map {s : β → β → Prop} {f : α → β} (related : Option.Rel r a a')
    (kept : ∀ {x y}, r x y → s (f x) (f y)) : Option.Rel s (a.map f) (a'.map f) := by
  cases related with
  | none => exact .none
  | some related => exact .some (kept related)

theorem rel_map_self {f g : γ → α} (related : ∀ x, r (f x) (g x)) (found? : Option γ) :
    Option.Rel r (found?.map f) (found?.map g) := by
  cases found? with
  | none => exact .none
  | some x => exact .some (related x)

end Rel

/-- A store that does not regard letter case finds the same for requests that are alike. -/
theorem DynamicStore.alike_resolve? {s : DynamicStore} (caseless : s.mode = .insensitive)
    {a b : Request} (alike : a.Alike b) :
    Option.Rel DynamicMatch.Alike (s.resolve? a) (s.resolve? b) := by
  have line : s.mode.key a.startLine = s.mode.key b.startLine := by
    rw [caseless]
    exact alike.startLine_eq
  have exact : s.findExact? a = s.findExact? b := by
    simp only [findExact?, alike.length_segments, alike.accepts_eq, caseless, alike.matchesExact_eq]
  have opens : s.findOpen? a = s.findOpen? b := by
    simp only [findOpen?, alike.accepts_eq, caseless, alike.matchesOpen_eq]
  rw [resolve?_eq_orElse, resolve?_eq_orElse, line, exact, opens]
  refine rel_orElse ?_ (rel_orElse ?_ ?_)
  · exact rel_map_self (fun _ => ⟨rfl, .nil⟩) _
  · exact rel_map_self alike.alike_matchOf _
  · exact rel_map_self alike.alike_matchOf _

namespace RouteTable

/-- The routes of a table do not regard letter case: all of them stand in the tiers for that. -/
structure IsCaseless (t : RouteTable) : Prop where
  statics : ∀ line, t.statics.respond? line .sensitive = none
  dynamics : ∀ request, t.dynamicSensitive.resolve? request = none
  mode_eq : t.dynamicInsensitive.mode = .insensitive

variable {a b : Request}

theorem IsCaseless.alike_resolveOwn? {t : RouteTable} (caseless : t.IsCaseless)
    (alike : a.Alike b) : Option.Rel Resolved.Alike (t.resolveOwn? a) (t.resolveOwn? b) := by
  rw [resolveOwn?_eq, resolveOwn?_eq, caseless.statics, caseless.statics, caseless.dynamics,
    caseless.dynamics, alike.startLine_eq]
  refine rel_orElse .none (rel_orElse ?_ (rel_orElse .none ?_))
  · exact rel_map_self (.fixed · .staticInsensitive) _
  · exact rel_map (DynamicStore.alike_resolve? caseless.mode_eq alike)
      (.dynamic .dynamicInsensitive)

mutual

theorem alike_resolve? (alike : a.Alike b) :
    ∀ (t : RouteTable), (∀ u, t.HasTable u → u.IsCaseless) →
      Option.Rel Resolved.Alike (t.resolve? a) (t.resolve? b)
  | ⟨base, statics, sensitive, insensitive, groups⟩, caseless => by
    rw [resolve?_eq, resolve?_eq]
    refine rel_orElse ((caseless _ (.self _)).alike_resolveOwn? alike) ?_
    exact alike_resolveIn? alike groups fun g mem u inside => caseless u (.group mem inside)

theorem alike_resolveIn? (alike : a.Alike b) :
    ∀ (tables : List RouteTable), (∀ t ∈ tables, ∀ u, t.HasTable u → u.IsCaseless) →
      Option.Rel Resolved.Alike (resolveIn? tables a) (resolveIn? tables b)
  | [], _ => .none
  | t :: rest, caseless => by
    rw [resolveIn?_cons, resolveIn?_cons, alike.covers_eq]
    refine rel_orElse ?_ (alike_resolveIn? alike rest fun g mem =>
      caseless g (List.mem_cons_of_mem t mem))
    split
    · exact alike_resolve? alike t (caseless t List.mem_cons_self)
    · exact .none

end

end RouteTable

/-! ## Plans -/

/-- No route of a level regards letter case. -/
structure RouteLevel.IsCaseless (level : RouteLevel) : Prop where
  statics : ∀ r ∈ level.statics, r.mode = .insensitive
  dynamics : ∀ r ∈ level.dynamics, r.route.mode = .insensitive

theorem RouteLevel.Fills.isCaseless {c : CompileSettings} {base : List String}
    {chain : MiddlewareChain} {level : RouteLevel} {t : RouteTable}
    (fills : Fills c base chain level t) (caseless : level.IsCaseless) : t.IsCaseless := by
  constructor
  case statics =>
    intro line
    obtain ⟨lines, linesEq, compiled⟩ := fills.statics
    rw [compiled, (PerfectStore.holds_compile lines c.width c.minimal).respond?_eq]
    cases found : lines.respond? line .sensitive with
    | none => rfl
    | some response =>
      obtain ⟨r, mem, _, _, mode, _⟩ := exists_static_of_respond? linesEq found
      rw [caseless.statics r mem] at mode
      cases mode
  case dynamics =>
    intro request
    cases found : t.dynamicSensitive.resolve? request with
    | none => rfl
    | some resolved =>
      obtain ⟨r, mem, mode, _⟩ :=
        (finds_compileDynamics fills.dynamics .sensitive).origin request resolved found
      rw [caseless.dynamics r mem] at mode
      cases mode
  case mode_eq => exact (finds_compileDynamics fills.dynamics .insensitive).mode_eq

namespace RouterPlan

/-- No route of a plan regards letter case, on any level. -/
def IsCaseless (p : RouterPlan) : Prop :=
  ∀ path level, p.routes.Nested path level → level.IsCaseless

/-- If no route regards letter case, requests whose paths differ only in that are resolved to the
same responder in the same tier, with parameters that differ only in that, or to nothing both. -/
theorem resolve?_alike {p : RouterPlan} {r : Router} (built : p.build = .ok r)
    (caseless : p.IsCaseless) {bytes bytes' : Octets} {a b : Request}
    (parsed : Request.parse bytes = .ok (some a)) (parsed' : Request.parse bytes' = .ok (some b))
    (method : a.method = b.method) (version : a.version = b.version)
    (path : a.path.eqFold b.path = true) :
    Option.Rel Resolved.Alike (r.table.resolve? a) (r.table.resolve? b) := by
  refine RouteTable.alike_resolve? (Request.alike_of_parse parsed parsed' method version path) _ ?_
  intro u inside
  obtain ⟨way, level, nested, fills⟩ := exists_nested_of_build built inside
  exact fills.isCaseless (caseless way level nested)

/-- A route to members by name, whatever the case of its letters. -/
def memberRoute : DynamicResponder where
  route := { path := [.literal "Members", .parameter "name"], mode := .insensitive }
  handler := fun _ response => .ok response

def memberGroup : RouteLevel := (RouteLevel.group "/API").addDynamic memberRoute

def memberPlan : RouterPlan where
  routes := (RouteLevel.group "/").addGroup memberGroup
  date := []

theorem isCaseless_memberPlan : memberPlan.IsCaseless := by
  have root : memberPlan.routes.statics = [] ∧ memberPlan.routes.dynamics = [] ∧
      memberPlan.routes.groups = [memberGroup] := ⟨rfl, rfl, rfl⟩
  have inner : memberGroup.statics = [] ∧ memberGroup.dynamics = [memberRoute] ∧
      memberGroup.groups = [] := ⟨rfl, rfl, rfl⟩
  have own : memberRoute.route.mode = .insensitive := rfl
  intro path level nested
  cases nested with
  | self => exact ⟨by simp [root], by simp [root]⟩
  | group mem nested =>
    rw [root.2.2, List.mem_singleton] at mem
    rw [mem] at nested
    cases nested with
    | self => exact ⟨by simp [inner], by simp [inner, own]⟩
    | group mem =>
      rw [inner.2.2] at mem
      cases mem

/-- A request for a path. -/
def memberRequest (path : String) : Octets :=
  Request.lineOf .get (Octets.ofText path) .http11 ++ Octets.headEnd

/-- The request as it is read. -/
def memberRead (path : String) : Request := .bare .get (Octets.ofText path) .http11

theorem resolve?_alike_memberPlan :
    memberPlan.IsCaseless ∧
      Request.parse (memberRequest "/api/members/Ann") =
        .ok (some (memberRead "/api/members/Ann")) ∧
      Request.parse (memberRequest "/Api/MEMBERS/ann") =
        .ok (some (memberRead "/Api/MEMBERS/ann")) ∧
      ∃ r x y, memberPlan.build = .ok r ∧
        r.table.resolve? (memberRead "/api/members/Ann") = some x ∧
        r.table.resolve? (memberRead "/Api/MEMBERS/ann") = some y ∧ x.Alike y := by
  have parsed : Request.parse (memberRequest "/api/members/Ann") =
      .ok (some (memberRead "/api/members/Ann")) :=
    Request.parse_bare rfl (by decide) (by decide) .get .http11
  have parsed' : Request.parse (memberRequest "/Api/MEMBERS/ann") =
      .ok (some (memberRead "/Api/MEMBERS/ann")) :=
    Request.parse_bare rfl (by decide) (by decide) .get .http11
  have method : ∀ p q, (memberRead p).method = (memberRead q).method := fun _ _ => rfl
  have version : ∀ p q, (memberRead p).version = (memberRead q).version := fun _ _ => rfl
  have path : (memberRead "/api/members/Ann").path.eqFold (memberRead "/Api/MEMBERS/ann").path =
      true := by
    decide +kernel
  have found : memberPlan.builds (fun r =>
      (r.table.resolve? (memberRead "/api/members/Ann")).isSome) = true := by
    decide +kernel
  obtain ⟨r, built, found⟩ := exists_of_builds found
  obtain ⟨x, found⟩ := Option.isSome_iff_exists.mp found
  have related := resolve?_alike built isCaseless_memberPlan parsed parsed' (method _ _)
    (version _ _) path
  rw [found] at related
  generalize there : r.table.resolve? (memberRead "/Api/MEMBERS/ann") = found' at related
  cases related with
  | some alike =>
    exact ⟨isCaseless_memberPlan, parsed, parsed', r, x, _, built, found, there, alike⟩

end RouterPlan

end Signpost
