import Signpost.Proofs.Router.Identity
import Signpost.Proofs.Store.Override

/-!
# What registrations make of a store

A store of dynamic routes starts out empty and takes routes up one call after
the other, each of which may be refused.  What stands in the store after any
calls is arranged by what is declared of it (`DynamicStore.Ordered`), and the
next call does one of four things to it (`DynamicStore.Entered`): it is refused
for its letter case or for a duplicate and changes nothing, or its route comes
last in its own part, or takes the place of the one route it duplicates.

All parts change in one way (`DynamicStore.enter_eq_place`).  For the routes
without parameters, which are looked up by a line and not compared with each
other, this is where it matters that their paths were read from texts.
-/

namespace Signpost

/-- The parts of a store. -/
inductive StorePart where
  | plain
  | bucket (count : Nat)
  | openEnded

/-- The part that a route belongs to. -/
def DynamicRoute.part (r : DynamicRoute) : StorePart :=
  if r.isParameterless then .plain
  else if r.isCatchAll then .openEnded
  else .bucket r.path.length

namespace DynamicRoute

variable {r : DynamicRoute}

theorem part_eq_plain_iff : r.part = .plain ↔ r.isParameterless = true := by
  unfold part
  cases r.isParameterless <;> cases r.isCatchAll <;> simp

theorem part_eq_openEnded_iff :
    r.part = .openEnded ↔ r.isParameterless = false ∧ r.isCatchAll = true := by
  unfold part
  cases r.isParameterless <;> cases r.isCatchAll <;> simp

theorem part_eq_bucket_iff {count : Nat} : r.part = .bucket count ↔
    r.isParameterless = false ∧ r.isCatchAll = false ∧ r.path.length = count := by
  unfold part
  cases r.isParameterless <;> cases r.isCatchAll <;> simp

/-- A bounded path with parameters has one that is named, and no catch-all. -/
theorem IsDeclared.exists_parameter (declared : r.IsDeclared)
    (parametric : r.isParameterless = false) (bounded : r.isCatchAll = false) :
    (∃ name, .parameter name ∈ r.path) ∧ .catchAll ∉ r.path := by
  have none : .catchAll ∉ r.path := by
    rw [← declared.isCatchAll_iff, bounded]
    exact Bool.false_ne_true
  refine ⟨?_, none⟩
  rw [isParameterless, Bool.not_eq_false', RoutePath.hasParameters, List.any_eq_true] at parametric
  obtain ⟨c, mem, other⟩ := parametric
  cases c with
  | literal text => cases other
  | parameter name => exact ⟨name, mem⟩
  | catchAll => exact absurd mem none

end DynamicRoute

namespace DynamicStore

/-- The routes in one part, in their order. -/
def routes (s : DynamicStore) : StorePart → List DynamicResponder
  | .plain => s.parameterless.map Prod.snd
  | .bucket count => s.buckets[count]?.getD []
  | .openEnded => s.openEnded

/-- Register one responder after the other, whether or not those before it were taken up. -/
def enterAll (s : DynamicStore) (calls : List (DynamicResponder × Bool)) : DynamicStore :=
  calls.foldl (fun s call => (s.enter call.1 call.2).2) s

/-! ## Two descriptions -/

/-- The parts of a store hold the routes they are meant for, none of them twice. -/
structure Ordered (s : DynamicStore) : Prop where
  plain : ∀ entry ∈ s.parameterless, (∀ c ∈ entry.2.route.path, ∃ text, c = .literal text) ∧
    entry.1 = s.mode.key (Octets.ofText entry.2.route.startLine)
  distinct : s.parameterless.Distinct
  bucket : ∀ count : Nat, ∀ r ∈ s.buckets[count]?.getD [], r.route.path.length = count ∧
    (∃ name, .parameter name ∈ r.route.path) ∧ .catchAll ∉ r.route.path
  openEnded : ∀ r ∈ s.openEnded, r.route.path.getLast? = some .catchAll
  apart : ∀ part (i j : Nat) (a b : DynamicResponder), (s.routes part)[i]? = some a →
    (s.routes part)[j]? = some b → a.route.sameRoute b.route = true → i = j

/-- The part of a route holds these routes now, and everything else is as it was. -/
structure Changed (s : DynamicStore) (r : DynamicResponder) (routes : List DynamicResponder)
    (s' : DynamicStore) : Prop where
  mode : s'.mode = s.mode
  own : s'.routes r.route.part = routes
  others : ∀ part, part ≠ r.route.part → s'.routes part = s.routes part
  entries : ∀ entry ∈ s'.parameterless, entry ∈ s.parameterless ∨ entry = (r.route.lineKey, r)
  size : s'.size + (s.routes r.route.part).length = s.size + routes.length

/-- What a registration answers and what it leaves behind. -/
inductive Entered (s : DynamicStore) (r : DynamicResponder) (allowOverride : Bool) :
    Except RouteError Unit × DynamicStore → Prop
  | otherMode : r.route.mode ≠ s.mode →
    Entered s r allowOverride (.error (.invalid r.route.startLine .otherCaseMode), s)
  | duplicate {old : DynamicResponder} : r.route.mode = s.mode → allowOverride = false →
    old ∈ s.routes r.route.part → old.route.sameRoute r.route = true →
    Entered s r allowOverride (.error (.duplicate r.route.startLine), s)
  | added {s' : DynamicStore} : r.route.mode = s.mode →
    (∀ old ∈ s.routes r.route.part, old.route.sameRoute r.route = false) →
    s.Changed r (s.routes r.route.part ++ [r]) s' → Entered s r allowOverride (.ok (), s')
  | replaced {s' : DynamicStore} {i : Nat} {old : DynamicResponder} : r.route.mode = s.mode →
    allowOverride = true → (s.routes r.route.part)[i]? = some old →
    old.route.sameRoute r.route = true →
    (∀ (j : Nat) other, (s.routes r.route.part)[j]? = some other →
      other.route.sameRoute r.route = true → j = i) →
    s.Changed r ((s.routes r.route.part).set i r) s' → Entered s r allowOverride (.ok (), s')

/-! ## One part changes -/

section Parts

variable {s : DynamicStore} {r : DynamicResponder}

theorem changed_plain (plain : r.route.isParameterless = true) :
    s.Changed r ((s.parameterless.put r.route.lineKey r).map Prod.snd)
      { s with parameterless := s.parameterless.put r.route.lineKey r } := by
  have own := DynamicRoute.part_eq_plain_iff.mpr plain
  refine ⟨rfl, ?_, ?_, fun entry => Tier.mem_of_mem_put, ?_⟩
  · rw [own]
    rfl
  · intro part other
    rw [own] at other
    cases part with
    | plain => exact absurd rfl other
    | bucket count => rfl
    | openEnded => rfl
  · rw [own, size, size, routes, List.length_map, List.length_map]
    dsimp only
    omega

theorem changed_openEnded (parametric : r.route.isParameterless = false)
    (catches : r.route.isCatchAll = true) (part : List DynamicResponder) :
    s.Changed r part { s with openEnded := part } := by
  have own := DynamicRoute.part_eq_openEnded_iff.mpr ⟨parametric, catches⟩
  refine ⟨rfl, ?_, ?_, fun _ => .inl, ?_⟩
  · rw [own]
    rfl
  · intro part other
    rw [own] at other
    cases part with
    | plain => rfl
    | bucket count => rfl
    | openEnded => exact absurd rfl other
  · rw [own, size, size, routes]
    dsimp only
    omega

theorem length_flatten_set {α : Type} {lists : List (List α)} {i : Nat} (inside : i < lists.length)
    (list : List α) :
    (lists.set i list).flatten.length + lists[i].length = lists.flatten.length + list.length := by
  induction lists generalizing i with
  | nil => exact absurd inside (Nat.not_lt_zero i)
  | cons first rest ih =>
    cases i with
    | zero =>
      rw [List.set_cons_zero, List.getElem_cons_zero, List.flatten_cons, List.flatten_cons,
        List.length_append, List.length_append]
      omega
    | succ i =>
      have below := ih (Nat.lt_of_succ_lt_succ inside)
      rw [List.set_cons_succ, List.getElem_cons_succ, List.flatten_cons, List.flatten_cons,
        List.length_append, List.length_append]
      omega

theorem length_flatten_withBucket (buckets : List (List DynamicResponder)) (index : Nat)
    (bucket : List DynamicResponder) :
    (withBucket buckets index bucket).flatten.length + (buckets[index]?.getD []).length =
      buckets.flatten.length + bucket.length := by
  have inside : index < (grown buckets index).length := by
    rw [grown, List.length_append, List.length_replicate]
    omega
  have old : (grown buckets index)[index] = buckets[index]?.getD [] := by
    rw [← Option.some_inj, ← List.getElem?_eq_getElem inside]
    unfold grown
    rw [List.getElem?_append]
    split
    · next inside => simp [inside]
    · next outside =>
      rw [List.getElem?_replicate, if_pos (by omega),
        List.getElem?_eq_none (Nat.not_lt.mp outside)]
      rfl
  have full : (grown buckets index).flatten = buckets.flatten := by
    rw [grown, List.flatten_append, List.flatten_replicate_nil, List.append_nil]
  have all := length_flatten_set inside bucket
  rwa [old, full] at all

theorem changed_bucket (parametric : r.route.isParameterless = false)
    (bounded : r.route.isCatchAll = false) (bucket : List DynamicResponder) :
    s.Changed r bucket
      { s with buckets := withBucket s.buckets r.route.path.length bucket } := by
  have own := DynamicRoute.part_eq_bucket_iff.mpr ⟨parametric, bounded, rfl⟩
  refine ⟨rfl, ?_, ?_, fun _ => .inl, ?_⟩
  · rw [own, routes, getElem?_withBucket, if_pos rfl]
  · intro part other
    rw [own] at other
    cases part with
    | plain => rfl
    | bucket count =>
      have apart : count ≠ r.route.path.length := fun same => other (congrArg _ same)
      rw [routes, getElem?_withBucket, if_neg apart, routes]
    | openEnded => rfl
  · have all := length_flatten_withBucket s.buckets r.route.path.length bucket
    rw [own, size, size, routes]
    dsimp only
    omega

end Parts

/-! ## One call -/

/-- A route stands where it belongs. -/
structure Belongs (mode : CaseMode) (part : StorePart) (r : DynamicRoute) : Prop where
  declared : r.IsDeclared
  mode : r.mode = mode
  part : r.part = part

section Belongs

variable {mode : CaseMode} {a b : DynamicRoute}

theorem Belongs.sameRoute_iff {part part' : StorePart} (first : Belongs mode part a)
    (second : Belongs mode part' b) : a.sameRoute b = true ↔ a.identity = b.identity :=
  DynamicRoute.sameRoute_iff (first.mode.trans second.mode.symm)

theorem Belongs.lineKey_eq_iff (first : Belongs mode .plain a) (second : Belongs mode .plain b) :
    a.lineKey = b.lineKey ↔ a.sameRoute b = true :=
  DynamicRoute.lineKey_eq_iff first.declared second.declared
    (DynamicRoute.part_eq_plain_iff.mp first.part) (DynamicRoute.part_eq_plain_iff.mp second.part)
    (first.mode.trans second.mode.symm)

end Belongs

/-- What every call preserves. -/
structure Arranged (s : DynamicStore) : Prop where
  keyed : ∀ entry ∈ s.parameterless, entry.1 = entry.2.route.lineKey
  belongs : ∀ part, ∀ r ∈ s.routes part, Belongs s.mode part r.route
  apart : ∀ part, ((s.routes part).map (·.route.identity)).Nodup

variable {s s' : DynamicStore} {r : DynamicResponder} {allowOverride : Bool}

theorem arranged_empty (mode : CaseMode) : Arranged { mode } := by
  have none : ∀ part, routes { mode } part = [] := by
    intro part
    cases part <;> rfl
  refine ⟨List.forall_mem_nil _, ?_, ?_⟩
  · intro part r mem
    rw [none] at mem
    cases mem
  · intro part
    rw [none]
    exact List.nodup_nil

theorem findIdx?_congr {α : Type} {p q : α → Bool} {xs : List α} (alike : ∀ x ∈ xs, p x = q x) :
    xs.findIdx? p = xs.findIdx? q := by
  induction xs with
  | nil => rfl
  | cons x rest ih =>
    rw [List.forall_mem_cons] at alike
    rw [List.findIdx?_cons, List.findIdx?_cons, alike.1, ih alike.2]

/-- The routes without parameters change as if they were compared with each other. -/
theorem Arranged.place_plain (arranged : s.Arranged) (own : Belongs s.mode .plain r.route) :
    place (s.routes .plain) r allowOverride =
      if (s.parameterless.get? r.route.lineKey).isSome && !allowOverride then
        .error (.duplicate r.route.startLine)
      else .ok ((s.parameterless.put r.route.lineKey r).map Prod.snd) := by
  have alike : ∀ entry ∈ s.parameterless,
      entry.2.route.sameRoute r.route = (entry.1 == r.route.lineKey) := by
    intro entry mem
    have other := arranged.belongs .plain entry.2 (List.mem_map_of_mem mem)
    rw [arranged.keyed entry mem, Bool.eq_iff_iff, beq_iff_eq]
    exact (other.lineKey_eq_iff own).symm
  have found : (s.routes .plain).findIdx? (fun old => old.route.sameRoute r.route) =
      s.parameterless.findIdx? fun entry => entry.1 == r.route.lineKey := by
    rw [routes, List.findIdx?_map]
    exact findIdx?_congr alike
  rw [place, found, Tier.isSome_get?, Tier.put_eq_findIdx?]
  cases s.parameterless.findIdx? fun entry => entry.1 == r.route.lineKey with
  | none => simp [routes]
  | some i => cases allowOverride <;> simp [routes, List.map_set]

/-- A call places its route in its part, and changes nothing if the route is refused there. -/
theorem Arranged.enter_eq_place (arranged : s.Arranged) (declared : r.route.IsDeclared)
    (own : r.route.mode = s.mode) (allowOverride : Bool) :
    (∃ e, place (s.routes r.route.part) r allowOverride = .error e ∧
      s.enter r allowOverride = (.error e, s)) ∨
    ∃ routes s', place (s.routes r.route.part) r allowOverride = .ok routes ∧
      s.enter r allowOverride = (.ok (), s') ∧ s.Changed r routes s' := by
  have mode : (r.route.mode != s.mode) = false := by simpa using own
  unfold enter
  rw [mode, if_neg Bool.false_ne_true]
  cases plain : r.route.isParameterless with
  | true =>
    have part := DynamicRoute.part_eq_plain_iff.mpr plain
    rw [part, arranged.place_plain ⟨declared, own, part⟩, if_pos rfl]
    dsimp only
    split
    · exact .inl ⟨_, rfl, rfl⟩
    · exact .inr ⟨_, _, rfl, rfl, changed_plain plain⟩
  | false =>
    rw [if_neg Bool.false_ne_true]
    cases catches : r.route.isCatchAll with
    | true =>
      rw [DynamicRoute.part_eq_openEnded_iff.mpr ⟨plain, catches⟩, routes, if_pos rfl]
      cases place s.openEnded r allowOverride with
      | error e => exact .inl ⟨e, rfl, rfl⟩
      | ok part => exact .inr ⟨part, _, rfl, rfl, changed_openEnded plain catches part⟩
    | false =>
      rw [DynamicRoute.part_eq_bucket_iff.mpr ⟨plain, catches, rfl⟩, routes,
        if_neg Bool.false_ne_true]
      dsimp only
      cases placed : place (s.buckets[r.route.path.length]?.getD []) r allowOverride with
      | ok bucket => exact .inr ⟨bucket, _, rfl, rfl, changed_bucket plain catches bucket⟩
      | error e =>
        -- What stands in the way stands in a bucket, so none had to be made.
        have kept : grown s.buckets r.route.path.length = s.buckets := by
          cases placed ▸ placed_place _ r allowOverride with
          | refused _ mem _ => exact grown_of_mem mem
        rw [kept]
        exact .inl ⟨e, rfl, rfl⟩

theorem enter_otherMode (other : r.route.mode ≠ s.mode) :
    s.enter r allowOverride = (.error (.invalid r.route.startLine .otherCaseMode), s) :=
  if_pos (by simpa using other)

theorem Arranged.index_eq (arranged : s.Arranged) {part : StorePart} {i j : Nat}
    {a b : DynamicResponder} (first : (s.routes part)[i]? = some a)
    (second : (s.routes part)[j]? = some b) (same : a.route.identity = b.route.identity) :
    i = j := by
  obtain ⟨inside, _⟩ := List.getElem?_eq_some_iff.mp first
  have within : i < ((s.routes part).map (·.route.identity)).length := by rwa [List.length_map]
  refine (List.getElem?_inj within (arranged.apart part)).mp ?_
  rw [List.getElem?_map, List.getElem?_map, first, second, Option.map_some, Option.map_some, same]

theorem Arranged.entered (arranged : s.Arranged) (declared : r.route.IsDeclared)
    (allowOverride : Bool) :
    Entered s r allowOverride (s.enter r allowOverride) := by
  by_cases own : r.route.mode = s.mode
  · have new : Belongs s.mode r.route.part r.route := ⟨declared, own, rfl⟩
    obtain ⟨e, placed, eq⟩ | ⟨routes, s', placed, eq, changed⟩ :=
      arranged.enter_eq_place declared own allowOverride
    · rw [eq]
      cases placed ▸ placed_place _ r allowOverride with
      | refused strict mem same => exact .duplicate own strict mem same
    · rw [eq]
      cases placed_of_place placed with
      | added fresh => exact .added own fresh changed
      | replaced allowed there same =>
        refine .replaced own allowed there same ?_ changed
        intro j other here alike
        have mem := List.mem_of_getElem? there
        have mem' := List.mem_of_getElem? here
        rw [(arranged.belongs _ _ mem).sameRoute_iff new] at same
        rw [(arranged.belongs _ _ mem').sameRoute_iff new] at alike
        exact arranged.index_eq here there (alike.trans same.symm)
  · rw [enter_otherMode own]
    exact .otherMode own

/-! ## All calls -/

theorem Arranged.changed (arranged : s.Arranged) (own : Belongs s.mode r.route.part r.route)
    {routes : List DynamicResponder} (changed : s.Changed r routes s')
    (known : ∀ other ∈ routes, other ∈ s.routes r.route.part ∨ other = r)
    (apart : (routes.map (·.route.identity)).Nodup) : s'.Arranged where
  keyed := by
    intro entry mem
    rcases changed.entries entry mem with old | rfl
    · exact arranged.keyed entry old
    · rfl
  belongs := by
    intro part other mem
    rw [changed.mode]
    by_cases same : part = r.route.part
    · subst same
      rw [changed.own] at mem
      rcases known other mem with old | rfl
      · exact arranged.belongs _ other old
      · exact own
    · rw [changed.others part same] at mem
      exact arranged.belongs part other mem
  apart := by
    intro part
    by_cases same : part = r.route.part
    · rwa [same, changed.own]
    · rw [changed.others part same]
      exact arranged.apart part

/-- A call keeps the store arranged, whatever it answers. -/
theorem Arranged.enter (arranged : s.Arranged) (declared : r.route.IsDeclared) :
    (s.enter r allowOverride).2.Arranged := by
  have entered := arranged.entered declared allowOverride
  generalize s.enter r allowOverride = result at entered
  cases entered with
  | otherMode other => exact arranged
  | duplicate own strict mem same => exact arranged
  | added own fresh changed =>
    have new : Belongs s.mode r.route.part r.route := ⟨declared, own, rfl⟩
    refine arranged.changed new changed (fun other mem => ?_) ?_
    · rwa [List.mem_append, List.mem_singleton] at mem
    · rw [List.map_append, List.map_singleton, List.nodup_append]
      refine ⟨arranged.apart _, List.pairwise_singleton _ _, ?_⟩
      intro identity mem last here same
      obtain ⟨old, there, rfl⟩ := List.mem_map.mp mem
      rw [List.mem_singleton] at here
      have alike := ((arranged.belongs _ old there).sameRoute_iff new).mpr (same.trans here)
      rw [fresh old there] at alike
      cases alike
  | @replaced s' i old own allowed there same only changed =>
    have new : Belongs s.mode r.route.part r.route := ⟨declared, own, rfl⟩
    refine arranged.changed new changed (fun other mem => List.mem_or_eq_of_mem_set mem) ?_
    -- The new route has the identity of the old one, so the identities stay the same list.
    obtain ⟨inside, rfl⟩ := List.getElem?_eq_some_iff.mp there
    have kept := ((arranged.belongs _ _ (List.getElem_mem inside)).sameRoute_iff new).mp same
    have within : i < ((s.routes r.route.part).map (·.route.identity)).length := by
      rwa [List.length_map]
    have place : ((s.routes r.route.part).map (·.route.identity))[i] = r.route.identity :=
      (List.getElem_map _).trans kept
    rw [List.map_set, ← place, List.set_getElem_self]
    exact arranged.apart _

theorem Arranged.enterAll {calls : List (DynamicResponder × Bool)} (arranged : s.Arranged)
    (declared : ∀ call ∈ calls, call.1.route.IsDeclared) : (s.enterAll calls).Arranged := by
  induction calls generalizing s with
  | nil => exact arranged
  | cons call rest ih =>
    rw [List.forall_mem_cons] at declared
    exact ih (arranged.enter declared.1) declared.2

theorem Arranged.distinct (arranged : s.Arranged) : s.parameterless.Distinct := by
  have lines : s.parameterless.map Prod.fst = (s.routes .plain).map (·.route.lineKey) := by
    rw [routes, List.map_map]
    exact List.map_congr_left arranged.keyed
  have apart := arranged.apart .plain
  rw [Tier.Distinct, lines]
  rw [List.Nodup, List.pairwise_map] at apart ⊢
  refine apart.imp_of_mem ?_
  intro a b mem mem' differ same
  have first := arranged.belongs .plain a mem
  have second := arranged.belongs .plain b mem'
  exact differ ((first.sameRoute_iff second).mp ((first.lineKey_eq_iff second).mp same))

theorem Arranged.ordered (arranged : s.Arranged) : s.Ordered where
  plain := by
    intro entry mem
    have own := arranged.belongs .plain entry.2 (List.mem_map_of_mem mem)
    obtain ⟨texts, path, _⟩ :=
      own.declared.exists_texts (DynamicRoute.part_eq_plain_iff.mp own.part)
    refine ⟨?_, ?_⟩
    · intro c mem
      rw [path] at mem
      obtain ⟨text, _, eq⟩ := List.mem_map.mp mem
      exact ⟨text, eq.symm⟩
    · rw [arranged.keyed entry mem, DynamicRoute.lineKey, own.mode]
  distinct := arranged.distinct
  bucket := by
    intro count r mem
    have own := arranged.belongs (.bucket count) r mem
    obtain ⟨parametric, bounded, long⟩ := DynamicRoute.part_eq_bucket_iff.mp own.part
    exact ⟨long, own.declared.exists_parameter parametric bounded⟩
  openEnded := by
    intro r mem
    have own := arranged.belongs .openEnded r mem
    exact RoutePath.hasCatchAll_iff.mp (DynamicRoute.part_eq_openEnded_iff.mp own.part).2
  apart := by
    intro part i j a b first second same
    have own := arranged.belongs part a (List.mem_of_getElem? first)
    have other := arranged.belongs part b (List.mem_of_getElem? second)
    exact arranged.index_eq first second ((own.sameRoute_iff other).mp same)

/-- After any calls a store is in order, and one call more is refused without a trace, adds its
route at the end of a part, or puts it in the place of the one route that it duplicates. -/
theorem ordered_enterAll (mode : CaseMode) (calls : List (DynamicResponder × Bool))
    (declared : ∀ call ∈ calls, call.1.route.IsDeclared) :
    (enterAll { mode } calls).Ordered ∧
      ∀ (r : DynamicResponder) (allowOverride : Bool), r.route.IsDeclared →
        Entered (enterAll { mode } calls) r allowOverride
          ((enterAll { mode } calls).enter r allowOverride) := by
  have arranged := (arranged_empty mode).enterAll declared
  exact ⟨arranged.ordered, fun r allowOverride declared => arranged.entered declared allowOverride⟩

/-- A responder that leaves the response as it is. -/
def leaving (path : List PathComponent) : DynamicResponder where
  route := { path }
  handler := fun _ response => .ok response

/-- One base in each of the three parts. -/
def userCalls : List (DynamicResponder × Bool) :=
  [(leaving [.literal "users"], false), (leaving [.literal "users", .parameter "id"], false),
    (leaving [.literal "users", .catchAll], false)]

theorem ordered_enterAll_userCalls :
    (∀ call ∈ userCalls, call.1.route.IsDeclared) ∧
      (leaving [.literal "users", .parameter "name"]).route.IsDeclared ∧
      (enterAll { mode := .sensitive } userCalls).Ordered ∧
      Entered (enterAll { mode := .sensitive } userCalls)
        (leaving [.literal "users", .parameter "name"]) true
        ((enterAll { mode := .sensitive } userCalls).enter
          (leaving [.literal "users", .parameter "name"]) true) ∧
      ((((enterAll { mode := .sensitive } userCalls).enter
          (leaving [.literal "users", .parameter "name"]) true).2.routes (.bucket 2)).map
        (·.route.path)) = [[.literal "users", .parameter "name"]] := by
  have declared : ∀ call ∈ userCalls, call.1.route.IsDeclared := by
    intro call mem
    simp only [userCalls, List.mem_cons, List.not_mem_nil, or_false] at mem
    rcases mem with rfl | rfl | rfl
    · exact ⟨"/users", rfl⟩
    · exact ⟨"/users/:id", rfl⟩
    · exact ⟨"/users/*", rfl⟩
  have other : (leaving [.literal "users", .parameter "name"]).route.IsDeclared :=
    ⟨"/users/:name", rfl⟩
  have all := ordered_enterAll .sensitive userCalls declared
  exact ⟨declared, other, all.1, all.2 _ true other, by decide⟩

end DynamicStore

end Signpost
