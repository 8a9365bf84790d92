import Signpost.Proofs.Fallible
import Signpost.Store.DynamicStore

/-!
# A store of dynamic routes searches a list

The three parts of a store are three selections from one list, the routes in
the order in which they were registered (`DynamicStore.Lists`), as long as no
route replaces another.  Looking a request up in the parts is searching that
list three times (`firstDynamic?`).
-/

namespace Signpost

/-! ## The search -/

section Search

variable (mode : CaseMode) (request : Request) (routes : List DynamicResponder)

/-- The route without parameters that has the line of the request. -/
def firstPlain? : Option DynamicResponder :=
  routes.find? fun r => r.route.isParameterless && r.route.lineKey == mode.key request.startLine

/-- The first route with parameters, but without a catch-all, that takes the request. -/
def firstExact? : Option DynamicResponder :=
  routes.find? fun r =>
    !r.route.isParameterless && !r.route.isCatchAll &&
      (r.route.accepts request && RoutePath.matchesExact mode r.route.path request.segments)

/-- The first route with a catch-all that takes the request. -/
def firstOpen? : Option DynamicResponder :=
  routes.find? fun r =>
    r.route.isCatchAll &&
      (r.route.accepts request && RoutePath.matchesOpen mode r.route.path request.segments)

/-- The route for a request among routes of one case mode, with the segments it captures. -/
def firstDynamic? : Option DynamicMatch :=
  (firstPlain? mode request routes <|> firstExact? mode request routes <|>
      firstOpen? mode request routes).map
    fun r => DynamicStore.matchOf r request.segments

end Search

namespace RoutePath

theorem length_eq_of_matchesExact {mode : CaseMode} {path : List PathComponent}
    {segments : List Octets} (taken : matchesExact mode path segments = true) :
    path.length = segments.length := by
  induction path generalizing segments with
  | nil =>
    cases segments with
    | nil => rfl
    | cons s ss => cases taken
  | cons c cs ih =>
    cases segments with
    | nil => cases c <;> cases taken
    | cons s ss =>
      rw [matchesExact, Bool.and_eq_true] at taken
      rw [List.length_cons, List.length_cons, ih taken.2]

theorem hasParameters_of_hasCatchAll {path : List PathComponent}
    (catches : hasCatchAll path = true) : hasParameters path = true := by
  have last := hasCatchAll_iff.mp catches
  exact List.any_eq_true.mpr ⟨_, List.mem_of_getLast? last, rfl⟩

/-- A path without parameters captures nothing. -/
theorem capture_of_not_hasParameters {path : List PathComponent}
    (plain : hasParameters path = false) (segments : List Octets) : capture path segments = [] := by
  induction path generalizing segments with
  | nil => rfl
  | cons c cs ih =>
    rw [hasParameters, List.any_cons, Bool.or_eq_false_iff] at plain
    cases c with
    | literal text =>
      cases segments with
      | nil => rfl
      | cons s ss => exact ih plain.2 ss
    | parameter name => cases plain.1
    | catchAll => cases plain.1

end RoutePath

namespace DynamicStore

variable {s s' : DynamicStore} {routes : List DynamicResponder} {r : DynamicResponder}

/-- The store holds these routes, in their order. -/
structure Lists (s : DynamicStore) (routes : List DynamicResponder) : Prop where
  parameterless : ∀ key, s.parameterless.get? key =
    routes.find? fun r => r.route.isParameterless && r.route.lineKey == key
  bucket : ∀ count, s.buckets[count]?.getD [] =
    routes.filter fun r =>
      !r.route.isParameterless && !r.route.isCatchAll && r.route.path.length == count
  openEnded : s.openEnded = routes.filter fun r => r.route.isCatchAll

theorem lists_empty (mode : CaseMode) : Lists { mode } [] where
  parameterless := fun _ => rfl
  bucket := fun _ => rfl
  openEnded := rfl

/-- How a store takes a route up, in one of its three parts. -/
inductive Registered (s : DynamicStore) (r : DynamicResponder) (allowOverride : Bool) :
    DynamicStore → Prop
  | parameterless :
    r.route.isParameterless = true →
    ((s.parameterless.get? r.route.lineKey).isSome && !allowOverride) = false →
    Registered s r allowOverride
      { s with parameterless := s.parameterless.put r.route.lineKey r }
  | openEnded {part : List DynamicResponder} :
    r.route.isParameterless = false → r.route.isCatchAll = true →
    place s.openEnded r allowOverride = .ok part →
    Registered s r allowOverride { s with openEnded := part }
  | bucket {part : List DynamicResponder} :
    r.route.isParameterless = false → r.route.isCatchAll = false →
    place (s.buckets[r.route.path.length]?.getD []) r allowOverride = .ok part →
    Registered s r allowOverride
      { s with buckets := withBucket s.buckets r.route.path.length part }

theorem registered_of_enter {allowOverride : Bool}
    (done : s.enter r allowOverride = (.ok (), s')) :
    r.route.mode = s.mode ∧ s.Registered r allowOverride s' := by
  unfold enter at done
  split at done
  · cases done
  · next own =>
    refine ⟨by simpa using own, ?_⟩
    split at done
    · next plain =>
      dsimp only at done
      split at done
      · cases done
      · next free =>
        cases done
        exact .parameterless plain (Bool.eq_false_iff.mpr free)
    · next parametric =>
      have parametric := Bool.eq_false_iff.mpr parametric
      split at done
      · next catches =>
        split at done
        · cases done
        · next part placed =>
          cases done
          exact .openEnded parametric catches placed
      · next bounded =>
        dsimp only at done
        split at done
        · cases done
        · next part placed =>
          cases done
          exact .bucket parametric (Bool.eq_false_iff.mpr bounded) placed

theorem enter_of_register {allowOverride : Bool} (done : s.register r allowOverride = .ok s') :
    s.enter r allowOverride = (.ok (), s') := by
  unfold DynamicStore.register at done
  split at done
  · next entered =>
    cases done
    exact entered
  · cases done

theorem registered_of_register {allowOverride : Bool}
    (done : s.register r allowOverride = .ok s') : s.Registered r allowOverride s' :=
  (registered_of_enter (enter_of_register done)).2

/-- How a route is placed in a part. -/
inductive Placed (part : List DynamicResponder) (r : DynamicResponder) (allowOverride : Bool) :
    Except RouteError (List DynamicResponder) → Prop
  | added : (∀ old ∈ part, old.route.sameRoute r.route = false) →
    Placed part r allowOverride (.ok (part ++ [r]))
  | replaced {i : Nat} {old : DynamicResponder} : allowOverride = true → part[i]? = some old →
    old.route.sameRoute r.route = true → Placed part r allowOverride (.ok (part.set i r))
  | refused {old : DynamicResponder} : allowOverride = false → old ∈ part →
    old.route.sameRoute r.route = true →
    Placed part r allowOverride (.error (.duplicate r.route.startLine))

theorem placed_place (part : List DynamicResponder) (r : DynamicResponder) (allowOverride : Bool) :
    Placed part r allowOverride (place part r allowOverride) := by
  unfold place
  split
  · next none => exact .added (List.findIdx?_eq_none_iff.mp none)
  · next i found =>
    obtain ⟨inside, same, _⟩ := List.findIdx?_eq_some_iff_getElem.mp found
    cases allowOverride with
    | true => exact .replaced rfl (List.getElem?_eq_getElem inside) same
    | false => exact .refused rfl (List.getElem_mem inside) same

theorem placed_of_place {part part' : List DynamicResponder} {allowOverride : Bool}
    (placed : place part r allowOverride = .ok part') : Placed part r allowOverride (.ok part') :=
  placed ▸ placed_place part r allowOverride

theorem place_eq_append {part part' : List DynamicResponder}
    (placed : place part r false = .ok part') : part' = part ++ [r] := by
  cases placed_of_place placed with
  | added => rfl
  | replaced allowed => cases allowed

theorem getElem?_withBucket (buckets : List (List DynamicResponder)) (index count : Nat)
    (bucket : List DynamicResponder) :
    (withBucket buckets index bucket)[count]?.getD [] =
      if count = index then bucket else buckets[count]?.getD [] := by
  unfold withBucket grown
  by_cases same : count = index
  · subst same
    rw [if_pos rfl, List.getElem?_set_self (by simp; omega)]
    rfl
  · rw [if_neg same, List.getElem?_set_ne (Ne.symm same), List.getElem?_append]
    split
    · rfl
    · next outside =>
      rw [List.getElem?_eq_none (Nat.not_lt.mp outside), List.getElem?_replicate]
      split <;> rfl

theorem grown_of_mem {buckets : List (List DynamicResponder)} {index : Nat}
    (mem : r ∈ buckets[index]?.getD []) : grown buckets index = buckets := by
  have inside : index < buckets.length := by
    rw [← Nat.not_le]
    intro outside
    rw [List.getElem?_eq_none outside] at mem
    cases mem
  rw [grown, Nat.sub_eq_zero_of_le inside]
  exact List.append_nil buckets

theorem not_isCatchAll_of_isParameterless {route : DynamicRoute}
    (plain : route.isParameterless = true) : route.isCatchAll = false := by
  rw [Bool.eq_false_iff]
  intro catches
  rw [DynamicRoute.isParameterless, RoutePath.hasParameters_of_hasCatchAll catches] at plain
  cases plain

theorem Lists.append_parameterless (lists : s.Lists routes) (plain : r.route.isParameterless = true)
    (free : s.parameterless.get? r.route.lineKey = none) :
    Lists { s with parameterless := s.parameterless.put r.route.lineKey r } (routes ++ [r]) where
  parameterless := by
    intro key
    rw [Tier.get?_put, List.find?_append]
    by_cases same : key = r.route.lineKey
    · rw [if_pos same, same, ← lists.parameterless, free]
      simp [plain]
    · rw [if_neg same, lists.parameterless]
      simp [Ne.symm same]
  bucket := by
    intro count
    rw [List.filter_append, ← lists.bucket]
    simp [plain]
  openEnded := by
    rw [List.filter_append, ← lists.openEnded]
    simp [not_isCatchAll_of_isParameterless plain]

theorem Lists.append_openEnded (lists : s.Lists routes) (catches : r.route.isCatchAll = true) :
    Lists { s with openEnded := s.openEnded ++ [r] } (routes ++ [r]) where
  parameterless := by
    intro key
    have plain : r.route.isParameterless = false := by
      rw [DynamicRoute.isParameterless, RoutePath.hasParameters_of_hasCatchAll catches]
      rfl
    rw [List.find?_append, ← lists.parameterless]
    simp [plain]
  bucket := by
    intro count
    rw [List.filter_append, ← lists.bucket]
    simp [catches]
  openEnded := by
    rw [List.filter_append, ← lists.openEnded]
    simp [catches]

theorem Lists.append_bucket (lists : s.Lists routes) (plain : r.route.isParameterless = false)
    (catches : r.route.isCatchAll = false) :
    Lists
      { s with
        buckets := withBucket s.buckets r.route.path.length
          (s.buckets[r.route.path.length]?.getD [] ++ [r]) }
      (routes ++ [r]) where
  parameterless := by
    intro key
    rw [List.find?_append, ← lists.parameterless]
    simp [plain]
  bucket := by
    intro count
    rw [getElem?_withBucket, List.filter_append, ← lists.bucket]
    by_cases same : count = r.route.path.length
    · simp [plain, catches, same]
    · simp [same, Ne.symm same]
  openEnded := by
    rw [List.filter_append, ← lists.openEnded]
    simp [catches]

/-- A route that is registered without replacing another comes last. -/
theorem Lists.register (lists : s.Lists routes) (done : s.register r false = .ok s') :
    s'.Lists (routes ++ [r]) := by
  cases registered_of_register done with
  | parameterless plain free => exact lists.append_parameterless plain (by simpa using free)
  | openEnded _ catches placed =>
    rw [place_eq_append placed]
    exact lists.append_openEnded catches
  | bucket plain catches placed =>
    rw [place_eq_append placed]
    exact lists.append_bucket plain catches

theorem mode_register {allowOverride : Bool} (done : s.register r allowOverride = .ok s') :
    s'.mode = s.mode := by
  cases registered_of_register done with
  | parameterless plain free => rfl
  | openEnded plain catches placed => rfl
  | bucket plain catches placed => rfl

theorem Lists.findExact?_eq (lists : s.Lists routes) (request : Request) :
    s.findExact? request = firstExact? s.mode request routes := by
  rw [findExact?, lists.bucket, List.find?_filter, firstExact?]
  congr 1
  funext r
  by_cases taken : RoutePath.matchesExact s.mode r.route.path request.segments = true
  · simp [taken, RoutePath.length_eq_of_matchesExact taken]
  · simp [taken]

theorem Lists.findOpen?_eq (lists : s.Lists routes) (request : Request) :
    s.findOpen? request = firstOpen? s.mode request routes := by
  rw [findOpen?, lists.openEnded, List.find?_filter, firstOpen?]
  simp

/-- What a store finds is what the search over its routes finds. -/
theorem Lists.resolve?_eq (lists : s.Lists routes) (request : Request) :
    s.resolve? request = firstDynamic? s.mode request routes := by
  have plain : s.parameterless.get? (s.lineOf request) = firstPlain? s.mode request routes := by
    rw [lists.parameterless, firstPlain?]
    unfold lineOf
    cases s.mode with
    | sensitive => rfl
    | insensitive => rfl
  rw [resolve?, plain, lists.findExact?_eq, lists.findOpen?_eq, firstDynamic?]
  cases found : firstPlain? s.mode request routes with
  | none => rfl
  | some r =>
    -- A route without parameters captures nothing, so its match is the one of the other parts.
    have parameterless := List.find?_some found
    rw [Bool.and_eq_true, DynamicRoute.isParameterless, Bool.not_eq_true'] at parameterless
    have captured := RoutePath.capture_of_not_hasParameters parameterless.1 request.segments
    simp [matchOf, captured]

end DynamicStore

end Signpost
