import Signpost.Proofs.Store.Dynamic

/-!
# What a registered route takes over

A route that is registered in a store, be it in the place of one that it
duplicates, changes what is found only for the requests that it takes itself
(`DynamicStore.keptOr_register`).  Two routes of one shape take the same
requests, so what one of them was found for is not lost when the other stands
in its place; this needs that all routes of a store have the case mode of the
store (`DynamicStore.Uniform`).
-/

namespace Signpost

/-- What is found afterwards is what was found before, or something new. -/
inductive KeptOr {α : Type} (isNew : α → Prop) (before : Option α) : Option α → Prop
  | kept : KeptOr isNew before before
  | new {a : α} : isNew a → KeptOr isNew before (some a)

namespace KeptOr

variable {α β : Type} {isNew : α → Prop} {a b a' b' : Option α}

/-- A search in two places keeps what is kept in each of them. -/
theorem orElse (first : KeptOr isNew a a') (second : KeptOr isNew b b') :
    KeptOr isNew (a <|> b) (a' <|> b') := by
  cases first with
  | new isNew => exact .new isNew
  | kept =>
    cases a with
    | none => exact second
    | some found => exact .kept

theorem map {isNew' : β → Prop} {f : α → β} (held : KeptOr isNew a a')
    (same : ∀ x, isNew x → isNew' (f x)) : KeptOr isNew' (a.map f) (a'.map f) := by
  cases held with
  | kept => exact .kept
  | new isNew => exact .new (same _ isNew)

theorem mono {isNew' : α → Prop} (held : KeptOr isNew a a') (same : ∀ x, isNew x → isNew' x) :
    KeptOr isNew' a a' := by
  cases held with
  | kept => exact .kept
  | new isNew => exact .new (same _ isNew)

theorem before_or_new (held : KeptOr isNew a a') {x : α} (found : a' = some x) :
    a = some x ∨ isNew x := by
  cases held with
  | kept => exact .inl found
  | new isNew =>
    cases found
    exact .inr isNew

/-- An element at the end is found only where nothing was. -/
theorem find?_concat (p : α → Bool) (xs : List α) (x : α) :
    KeptOr (fun found => found = x ∧ p found = true) (xs.find? p) ((xs ++ [x]).find? p) := by
  rw [List.find?_append]
  cases xs.find? p with
  | some found => exact .kept
  | none =>
    rw [Option.none_or, List.find?_singleton]
    split
    · next taken => exact .new ⟨rfl, taken⟩
    · exact .kept

/-- An element in the place of another is found for all that the other was found for. -/
theorem find?_set (p : α → Bool) {xs : List α} {i : Nat} {x : α}
    (covers : ∀ old, xs[i]? = some old → p old = true → p x = true) :
    KeptOr (fun found => found = x ∧ p found = true) (xs.find? p) ((xs.set i x).find? p) := by
  induction xs generalizing i with
  | nil => exact .kept
  | cons y rest ih =>
    cases i with
    | zero =>
      rw [List.set_cons_zero, List.find?_cons, List.find?_cons]
      cases new : p x with
      | true => exact .new ⟨rfl, new⟩
      | false =>
        have old : p y = false := by
          rw [Bool.eq_false_iff]
          intro taken
          rw [covers y rfl taken] at new
          cases new
        rw [old]
        exact .kept
    | succ i =>
      rw [List.set_cons_succ, List.find?_cons, List.find?_cons]
      cases p y with
      | true => exact .kept
      | false => exact ih covers

end KeptOr

/-! ## Routes of one shape -/

namespace RoutePath

variable {mode : CaseMode} {a b : List PathComponent}

theorem accepts_of_sameComponent {c d : PathComponent}
    (same : DynamicRoute.sameComponent mode c d = true) (segment : Octets) :
    c.accepts mode segment = d.accepts mode segment := by
  unfold DynamicRoute.sameComponent at same
  split at same
  · rw [CaseMode.same, beq_iff_eq] at same
    rw [PathComponent.accepts, PathComponent.accepts, CaseMode.same, CaseMode.same, same]
  · rfl
  · rfl
  · cases same

theorem catchAll_of_sameComponent {c d : PathComponent}
    (same : DynamicRoute.sameComponent mode c d = true) : c = .catchAll ↔ d = .catchAll := by
  unfold DynamicRoute.sameComponent at same
  split at same
  · exact iff_of_false nofun nofun
  · exact iff_of_false nofun nofun
  · exact Iff.rfl
  · cases same

theorem exists_of_sameShape_cons {c : PathComponent} {cs : List PathComponent}
    (same : DynamicRoute.sameShape mode (c :: cs) b = true) :
    ∃ d ds, b = d :: ds ∧ DynamicRoute.sameComponent mode c d = true ∧
      DynamicRoute.sameShape mode cs ds = true := by
  cases b with
  | nil => cases same
  | cons d ds =>
    rw [DynamicRoute.sameShape, Bool.and_eq_true] at same
    exact ⟨d, ds, rfl, same.1, same.2⟩

theorem matchesExact_of_sameShape (same : DynamicRoute.sameShape mode a b = true)
    (segments : List Octets) : matchesExact mode a segments = matchesExact mode b segments := by
  induction a generalizing b segments with
  | nil =>
    cases b with
    | nil => rfl
    | cons d ds => cases same
  | cons c cs ih =>
    obtain ⟨d, ds, rfl, first, rest⟩ := exists_of_sameShape_cons same
    cases segments with
    | nil => cases c <;> cases d <;> rfl
    | cons s ss =>
      rw [matchesExact, matchesExact, accepts_of_sameComponent first, ih rest]

theorem matchesOpen_nil {c : PathComponent} {cs : List PathComponent} (bounded : c ≠ .catchAll) :
    matchesOpen mode (c :: cs) [] = false := by
  cases c with
  | catchAll => exact absurd rfl bounded
  | literal text => rfl
  | parameter name => rfl

theorem matchesOpen_cons {c : PathComponent} {cs : List PathComponent} (bounded : c ≠ .catchAll)
    (s : Octets) (ss : List Octets) :
    matchesOpen mode (c :: cs) (s :: ss) = (c.accepts mode s && matchesOpen mode cs ss) := by
  cases c with
  | catchAll => exact absurd rfl bounded
  | literal text => rfl
  | parameter name => rfl

theorem matchesOpen_of_sameShape (same : DynamicRoute.sameShape mode a b = true)
    (segments : List Octets) : matchesOpen mode a segments = matchesOpen mode b segments := by
  induction a generalizing b segments with
  | nil =>
    cases b with
    | nil => rfl
    | cons d ds => cases same
  | cons c cs ih =>
    obtain ⟨d, ds, rfl, first, rest⟩ := exists_of_sameShape_cons same
    by_cases catches : c = .catchAll
    · rw [catches, (catchAll_of_sameComponent first).mp catches]
      rfl
    · have bounded : d ≠ .catchAll := mt (catchAll_of_sameComponent first).mpr catches
      cases segments with
      | nil => rw [matchesOpen_nil catches, matchesOpen_nil bounded]
      | cons s ss =>
        rw [matchesOpen_cons catches, matchesOpen_cons bounded, accepts_of_sameComponent first,
          ih rest]

end RoutePath

/-- Whether a route is the one for a request, if no other stands in the way. -/
def DynamicRoute.takes (r : DynamicRoute) (request : Request) : Bool :=
  if r.isParameterless then r.lineKey == r.mode.key request.startLine
  else
    r.accepts request &&
      (if r.isCatchAll then RoutePath.matchesOpen r.mode r.path request.segments
      else RoutePath.matchesExact r.mode r.path request.segments)

namespace DynamicStore

variable {s s' : DynamicStore} {r : DynamicResponder} {allowOverride : Bool}
  {part part' : List DynamicResponder}

/-- Routes with parameters have the case mode of the store that they stand in. -/
structure Uniform (s : DynamicStore) : Prop where
  bucket : ∀ count : Nat, ∀ r ∈ s.buckets[count]?.getD [], r.route.mode = s.mode
  openEnded : ∀ r ∈ s.openEnded, r.route.mode = s.mode

theorem uniform_empty (mode : CaseMode) : Uniform { mode } where
  bucket := by
    intro count r mem
    rw [List.getElem?_nil] at mem
    cases mem
  openEnded := List.forall_mem_nil _

theorem mode_of_register (done : s.register r allowOverride = .ok s') : r.route.mode = s.mode :=
  (registered_of_enter (enter_of_register done)).1

theorem mem_place (placed : place part r allowOverride = .ok part') {other : DynamicResponder}
    (mem : other ∈ part') : other ∈ part ∨ other = r := by
  cases placed_of_place placed with
  | added =>
    rw [List.mem_append, List.mem_singleton] at mem
    exact mem
  | replaced => exact List.mem_or_eq_of_mem_set mem

theorem Uniform.register (uniform : s.Uniform) (done : s.register r allowOverride = .ok s') :
    s'.Uniform := by
  have own := mode_of_register done
  have kept : ∀ {part part' : List DynamicResponder}, place part r allowOverride = .ok part' →
      (∀ other ∈ part, other.route.mode = s.mode) → ∀ other ∈ part', other.route.mode = s.mode := by
    intro part part' placed each other mem
    rcases mem_place placed mem with old | rfl
    · exact each other old
    · exact own
  cases registered_of_register done with
  | parameterless _ _ => exact ⟨uniform.bucket, uniform.openEnded⟩
  | openEnded _ _ placed => exact ⟨uniform.bucket, kept placed uniform.openEnded⟩
  | bucket _ _ placed =>
    refine ⟨?_, uniform.openEnded⟩
    intro count other mem
    rw [getElem?_withBucket] at mem
    split at mem
    · exact kept placed (uniform.bucket _) other mem
    · exact uniform.bucket count other mem

/-- What is found in a part changes only to the route that is placed there. -/
theorem keptOr_place {p : DynamicResponder → Bool} (placed : place part r allowOverride = .ok part')
    (alike : ∀ old ∈ part, old.route.sameRoute r.route = true → p old = true → p r = true) :
    KeptOr (fun found => found = r ∧ p found = true) (part.find? p) (part'.find? p) := by
  cases placed_of_place placed with
  | added => exact .find?_concat p part r
  | replaced _ there same =>
    refine .find?_set p ?_
    intro other here taken
    rw [there, Option.some_inj] at here
    subst here
    exact alike _ (List.mem_of_getElem? there) same taken

theorem accepts_of_sameRoute {a b : DynamicRoute} (same : a.sameRoute b = true)
    (request : Request) :
    a.accepts request = b.accepts request ∧ DynamicRoute.sameShape a.mode a.path b.path = true := by
  rw [DynamicRoute.sameRoute, Bool.and_eq_true, Bool.and_eq_true, beq_iff_eq, beq_iff_eq] at same
  obtain ⟨⟨method, version⟩, shape⟩ := same
  rw [DynamicRoute.accepts, DynamicRoute.accepts, method, version]
  exact ⟨rfl, shape⟩

theorem keptOr_findExact? (uniform : s.Uniform) (own : r.route.mode = s.mode)
    (parametric : r.route.isParameterless = false) (bounded : r.route.isCatchAll = false)
    (placed : place (s.buckets[r.route.path.length]?.getD []) r allowOverride = .ok part)
    (request : Request) :
    KeptOr (fun found => found = r ∧ r.route.takes request = true) (s.findExact? request)
      (findExact? { s with buckets := withBucket s.buckets r.route.path.length part } request) := by
  unfold findExact?
  rw [getElem?_withBucket]
  split
  · next long =>
    rw [long]
    refine (keptOr_place placed ?_).mono ?_
    · intro old mem same taken
      obtain ⟨accepts, shape⟩ := accepts_of_sameRoute same request
      rw [uniform.bucket _ old mem] at shape
      rwa [← accepts, ← RoutePath.matchesExact_of_sameShape shape]
    · rintro found ⟨rfl, taken⟩
      refine ⟨rfl, ?_⟩
      rw [DynamicRoute.takes, parametric, bounded, own]
      exact taken
  · exact .kept

theorem keptOr_findOpen? (uniform : s.Uniform) (own : r.route.mode = s.mode)
    (parametric : r.route.isParameterless = false) (catches : r.route.isCatchAll = true)
    (placed : place s.openEnded r allowOverride = .ok part) (request : Request) :
    KeptOr (fun found => found = r ∧ r.route.takes request = true) (s.findOpen? request)
      (findOpen? { s with openEnded := part } request) := by
  unfold findOpen?
  refine (keptOr_place placed ?_).mono ?_
  · intro old mem same taken
    obtain ⟨accepts, shape⟩ := accepts_of_sameRoute same request
    rw [uniform.openEnded old mem] at shape
    rwa [← accepts, ← RoutePath.matchesOpen_of_sameShape shape]
  · rintro found ⟨rfl, taken⟩
    refine ⟨rfl, ?_⟩
    rw [DynamicRoute.takes, parametric, catches, own]
    exact taken

/-- A lookup asks the three parts of a store in turn. -/
theorem resolve?_eq_orElse (s : DynamicStore) (request : Request) :
    s.resolve? request =
      ((s.parameterless.get? (s.mode.key request.startLine)).map (⟨·, []⟩) <|>
        (s.findExact? request).map (matchOf · request.segments) <|>
        (s.findOpen? request).map (matchOf · request.segments)) := by
  have line : s.lineOf request = s.mode.key request.startLine := by
    unfold lineOf
    cases s.mode with
    | sensitive => rfl
    | insensitive => rfl
  rw [resolve?, line]
  cases s.parameterless.get? (s.mode.key request.startLine) with
  | some found => rfl
  | none =>
    cases s.findExact? request with
    | some found => rfl
    | none => rfl

/-- A registration changes what is found for a request only to the route that was registered, and
only if that route takes the request. -/
theorem keptOr_register (uniform : s.Uniform) (done : s.register r allowOverride = .ok s')
    (request : Request) :
    KeptOr (fun found => found = matchOf r request.segments ∧ r.route.takes request = true)
      (s.resolve? request) (s'.resolve? request) := by
  have own := mode_of_register done
  have found : ∀ x, x = r ∧ r.route.takes request = true →
      matchOf x request.segments = matchOf r request.segments ∧ r.route.takes request = true :=
    fun x new => ⟨by rw [new.1], new.2⟩
  rw [resolve?_eq_orElse, resolve?_eq_orElse, mode_register done]
  cases registered_of_register done with
  | parameterless plain _ =>
    refine .orElse ?_ .kept
    rw [Tier.get?_put]
    split
    · next line =>
      -- A route without parameters captures nothing.
      have captured : matchOf r request.segments = ⟨r, []⟩ := by
        rw [DynamicRoute.isParameterless, Bool.not_eq_true'] at plain
        rw [matchOf, RoutePath.capture_of_not_hasParameters plain]
        rfl
      rw [captured]
      refine .new ⟨rfl, ?_⟩
      rw [DynamicRoute.takes, plain, own, line]
      exact beq_self_eq_true _
    · exact .kept
  | openEnded parametric catches placed =>
    refine .orElse .kept (.orElse .kept ?_)
    exact (keptOr_findOpen? uniform own parametric catches placed request).map found
  | bucket parametric bounded placed =>
    refine .orElse .kept (.orElse ?_ .kept)
    exact (keptOr_findExact? uniform own parametric bounded placed request).map found

end DynamicStore

end Signpost
