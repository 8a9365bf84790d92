import Signpost.Proofs.Path.Instances
import Signpost.Proofs.Store.History

/-!
# What makes a route a duplicate

Duplicates are told by their shape, which is compared component by component.
That is a statement about what the routes match: two paths that were read from
texts have one shape exactly if no segments tell them apart
(`RoutePath.shapes_eq_of_matches`).  Where they differ, be it in a letter, in a
parameter, in their length or in what a catch-all leaves over, there are
segments that one of them matches and the other does not.  So a store refuses a
route with parameters exactly if a route of its tier already takes all that it
would take (`DynamicRoute.sameRoute_iff_equivalent`).
-/

namespace Signpost

/-! ## Components that take alike -/

theorem CaseMode.length_key (mode : CaseMode) (bytes : Octets) :
    (mode.key bytes).length = bytes.length := by
  cases mode with
  | sensitive => rfl
  | insensitive => exact List.length_map _

namespace PathComponent

variable {mode : CaseMode} {c d : PathComponent}

/-- A literal is some text. -/
def IsFull : PathComponent → Prop
  | literal text => text ≠ ""
  | _ => True

theorem accepts_own (mode : CaseMode) (text : String) :
    (literal text).accepts mode (Octets.ofText text) = true := beq_self_eq_true _

/-- No literal takes its own text with something behind it. -/
theorem not_accepts_longer (text : String) (b : UInt8) :
    ¬(literal text).accepts mode (Octets.ofText text ++ [b]) = true := by
  intro taken
  have lengths := congrArg List.length (beq_iff_eq.mp taken)
  rw [mode.length_key, mode.length_key, List.length_append] at lengths
  exact absurd lengths (Nat.ne_of_lt (Nat.lt_succ_self _))

theorem exists_accepted (mode : CaseMode) (full : c.IsFull) :
    ∃ s, s ≠ [] ∧ c.accepts mode s = true := by
  cases c with
  | literal text => exact ⟨_, mt (Octets.ofText_eq_nil_iff text).mp full, accepts_own mode text⟩
  | parameter name => exact ⟨[0x61], List.cons_ne_nil _ _, rfl⟩
  | catchAll => exact ⟨[0x61], List.cons_ne_nil _ _, rfl⟩

/-- A literal is told from another by its own text, and from a parameter by a longer one. -/
theorem shape_eq_of_accepts (bounded : c ≠ .catchAll) (bounded' : d ≠ .catchAll) (full : c.IsFull)
    (alike : ∀ s, s ≠ [] → (c.accepts mode s = true ↔ d.accepts mode s = true)) :
    c.shape mode = d.shape mode := by
  have longer : ∀ text, Octets.ofText text ++ [0x61] ≠ [] :=
    fun text => List.append_ne_nil_of_right_ne_nil _ (List.cons_ne_nil _ _)
  cases c with
  | catchAll => exact absurd rfl bounded
  | literal text =>
    cases d with
    | catchAll => exact absurd rfl bounded'
    | literal other =>
      have nonempty := mt (Octets.ofText_eq_nil_iff text).mp full
      have taken := (alike _ nonempty).mp (accepts_own mode text)
      exact congrArg ComponentShape.literal (beq_iff_eq.mp taken).symm
    | parameter name =>
      exact absurd ((alike _ (longer text)).mpr rfl) (not_accepts_longer text 0x61)
  | parameter name =>
    cases d with
    | catchAll => exact absurd rfl bounded'
    | literal other =>
      exact absurd ((alike _ (longer other)).mp rfl) (not_accepts_longer other 0x61)
    | parameter name => rfl

end PathComponent

/-! ## Paths that match alike -/

namespace RoutePath

variable {mode : CaseMode} {a b components : List PathComponent}

theorem full_of_parse {path : String} (read : parse path = .ok components) :
    ∀ c ∈ components, c.IsFull := by
  intro c mem
  cases c with
  | literal text => exact (isSegment_of_parse read mem).1
  | parameter name => trivial
  | catchAll => trivial

/-- Every path matches something. -/
theorem Orderly.exists_matched (orderly : Orderly components) (mode : CaseMode)
    (full : ∀ c ∈ components, c.IsFull) :
    ∃ segments, (∀ s ∈ segments, s ≠ []) ∧ matchesOpen mode components segments = true := by
  induction orderly with
  | nil => exact ⟨[], nofun, rfl⟩
  | catchAll => exact ⟨[], nofun, rfl⟩
  | cons bounded _ ih =>
    obtain ⟨own, below⟩ := List.forall_mem_cons.mp full
    obtain ⟨s, nonempty, accepted⟩ := PathComponent.exists_accepted mode own
    obtain ⟨ss, rest, matched⟩ := ih below
    refine ⟨s :: ss, List.forall_mem_cons.mpr ⟨nonempty, rest⟩, ?_⟩
    rw [matchesOpen_cons bounded, accepted, matched]
    rfl

/-- Paths that no segments tell apart have one shape. -/
theorem shapes_eq_of_matches (first : Orderly a) (second : Orderly b) (full : ∀ c ∈ a, c.IsFull)
    (full' : ∀ c ∈ b, c.IsFull) (ends : hasCatchAll a = hasCatchAll b)
    (alike : ∀ segments, (∀ s ∈ segments, s ≠ []) →
      (matchesOpen mode a segments = true ↔ matchesOpen mode b segments = true)) :
    a.map (·.shape mode) = b.map (·.shape mode) := by
  -- A path is told from a longer one by the fewest segments it matches.
  have shortest := alike [] nofun
  induction first generalizing b with
  | nil =>
    cases second with
    | nil => rfl
    | catchAll => cases ends
    | cons bounded _ =>
      rw [matchesOpen_nil bounded] at shortest
      cases shortest.mp rfl
  | catchAll =>
    cases second with
    | nil => cases ends
    | catchAll => rfl
    | cons bounded _ =>
      rw [matchesOpen_nil bounded] at shortest
      cases shortest.mp rfl
  | @cons c cs bounded below ih =>
    rw [matchesOpen_nil bounded] at shortest
    cases second with
    | nil => cases shortest.mpr rfl
    | catchAll => cases shortest.mpr rfl
    | @cons d ds bounded' below' =>
      obtain ⟨own, full⟩ := List.forall_mem_cons.mp full
      obtain ⟨own', full'⟩ := List.forall_mem_cons.mp full'
      rw [hasCatchAll_cons bounded, hasCatchAll_cons bounded'] at ends
      have split : ∀ s ss, s ≠ [] → (∀ s ∈ ss, s ≠ []) →
          (c.accepts mode s = true ∧ matchesOpen mode cs ss = true ↔
            d.accepts mode s = true ∧ matchesOpen mode ds ss = true) := by
        intro s ss nonempty rest
        have whole := alike (s :: ss) (List.forall_mem_cons.mpr ⟨nonempty, rest⟩)
        rwa [matchesOpen_cons bounded, matchesOpen_cons bounded', Bool.and_eq_true,
          Bool.and_eq_true] at whole
      have heads : ∀ s, s ≠ [] → (c.accepts mode s = true ↔ d.accepts mode s = true) := by
        intro s nonempty
        obtain ⟨ss, rest, matched⟩ := below.exists_matched mode full
        obtain ⟨ss', rest', matched'⟩ := below'.exists_matched mode full'
        constructor
        · intro accepted
          exact ((split s ss nonempty rest).mp ⟨accepted, matched⟩).1
        · intro accepted
          exact ((split s ss' nonempty rest').mpr ⟨accepted, matched'⟩).1
      have tails : ∀ ss, (∀ s ∈ ss, s ≠ []) →
          (matchesOpen mode cs ss = true ↔ matchesOpen mode ds ss = true) := by
        intro ss rest
        obtain ⟨s, nonempty, accepted⟩ := PathComponent.exists_accepted mode own
        have both := split s ss nonempty rest
        rwa [and_iff_right accepted, and_iff_right ((heads s nonempty).mp accepted)] at both
      have first := PathComponent.shape_eq_of_accepts bounded bounded' own heads
      rw [List.map_cons, List.map_cons, first, ih below' full full' ends tails (tails [] nofun)]

end RoutePath

/-! ## Routes that take alike -/

namespace DynamicRoute

variable {a b r : DynamicRoute}

/-- Whether the path of a route matches segments: all of them one to one, or those before its
catch-all. -/
def matchesPath (r : DynamicRoute) (segments : List Octets) : Bool :=
  if r.isCatchAll then RoutePath.matchesOpen r.mode r.path segments
  else RoutePath.matchesExact r.mode r.path segments

/-- Two routes are meant for the same method and version, and no segments tell their paths apart. -/
structure Equivalent (a b : DynamicRoute) : Prop where
  method : a.method = b.method
  version : a.version = b.version
  matchesPath : ∀ segments, (∀ s ∈ segments, s ≠ []) →
    (a.matchesPath segments = true ↔ b.matchesPath segments = true)

theorem length_path_eq (own : a.mode = b.mode) (same : a.sameRoute b = true) :
    a.path.length = b.path.length := by
  rw [sameRoute_iff own, identity, identity, Prod.mk.injEq, Prod.mk.injEq] at same
  have lengths := congrArg List.length same.2.2
  rwa [List.length_map, List.length_map] at lengths

/-- An open match is an exact one where there is no catch-all. -/
theorem IsDeclared.matchesPath_eq (declared : r.IsDeclared) (segments : List Octets) :
    r.matchesPath segments = RoutePath.matchesOpen r.mode r.path segments := by
  obtain ⟨path, read⟩ := declared
  rw [DynamicRoute.matchesPath]
  split
  · rfl
  · next bounded =>
    exact ((RoutePath.orderly_of_parse read).matchesOpen_eq (Bool.eq_false_iff.mpr bounded) _).symm

theorem equivalent_of_sameRoute (own : a.mode = b.mode) (declared : a.IsDeclared)
    (declared' : b.IsDeclared) (same : a.sameRoute b = true) : a.Equivalent b := by
  rw [sameRoute, Bool.and_eq_true, Bool.and_eq_true, beq_iff_eq, beq_iff_eq] at same
  obtain ⟨⟨method, version⟩, shape⟩ := same
  refine ⟨method, version, fun segments _ => ?_⟩
  rw [declared.matchesPath_eq, declared'.matchesPath_eq, ← own,
    RoutePath.matchesOpen_of_sameShape shape]

theorem Equivalent.sameRoute (equivalent : a.Equivalent b) (own : a.mode = b.mode)
    (declared : a.IsDeclared) (declared' : b.IsDeclared) (ends : a.isCatchAll = b.isCatchAll) :
    a.sameRoute b = true := by
  have alike := equivalent.matchesPath
  simp only [declared.matchesPath_eq, declared'.matchesPath_eq, own] at alike
  obtain ⟨path, read⟩ := declared
  obtain ⟨path', read'⟩ := declared'
  have shapes := RoutePath.shapes_eq_of_matches (RoutePath.orderly_of_parse read)
    (RoutePath.orderly_of_parse read') (RoutePath.full_of_parse read)
    (RoutePath.full_of_parse read') ends alike
  rw [sameRoute_iff own, identity, identity, equivalent.method, equivalent.version, own, shapes]

end DynamicRoute

/-! ## What a store refuses -/

namespace DynamicStore

variable {s : DynamicStore} {r old : DynamicResponder}

/-- The tier of a route with parameters: all buckets, or the routes that end in a catch-all. -/
def tier (s : DynamicStore) (r : DynamicRoute) : List DynamicResponder :=
  if r.isCatchAll then s.openEnded else s.buckets.flatten

theorem mem_flatten_buckets_iff :
    old ∈ s.buckets.flatten ↔ ∃ count, old ∈ s.routes (.bucket count) := by
  rw [List.mem_flatten]
  constructor
  · rintro ⟨bucket, there, mem⟩
    obtain ⟨count, found⟩ := List.mem_iff_getElem?.mp there
    exact ⟨count, by rwa [routes, found, Option.getD_some]⟩
  · rintro ⟨count, mem⟩
    rw [routes] at mem
    cases found : s.buckets[count]? with
    | none =>
      rw [found] at mem
      cases mem
    | some bucket =>
      rw [found] at mem
      exact ⟨bucket, List.mem_of_getElem? found, mem⟩

/-- A duplicate in the tier of a route stands in the part of the route. -/
theorem Arranged.exists_mem_tier_iff (arranged : s.Arranged) (own : r.route.mode = s.mode)
    (declared : r.route.IsDeclared) (parametric : r.route.isParameterless = false) :
    (∃ old ∈ s.tier r.route, old.route.Equivalent r.route) ↔
      ∃ old ∈ s.routes r.route.part, old.route.sameRoute r.route = true := by
  cases catches : r.route.isCatchAll with
  | true =>
    rw [tier, if_pos catches, DynamicRoute.part_eq_openEnded_iff.mpr ⟨parametric, catches⟩]
    refine exists_congr fun old => and_congr_right fun mem => ?_
    have other := arranged.belongs .openEnded old mem
    have ends := (DynamicRoute.part_eq_openEnded_iff.mp other.part).2
    have modes := other.mode.trans own.symm
    exact ⟨fun equivalent => equivalent.sameRoute modes other.declared declared
      (ends.trans catches.symm), DynamicRoute.equivalent_of_sameRoute modes other.declared declared⟩
  | false =>
    have part := DynamicRoute.part_eq_bucket_iff.mpr ⟨parametric, catches, rfl⟩
    rw [tier, catches, if_neg Bool.false_ne_true, part]
    constructor
    · rintro ⟨old, mem, equivalent⟩
      obtain ⟨count, mem⟩ := mem_flatten_buckets_iff.mp mem
      have other := arranged.belongs (.bucket count) old mem
      obtain ⟨_, bounded, length⟩ := DynamicRoute.part_eq_bucket_iff.mp other.part
      have modes := other.mode.trans own.symm
      have same := equivalent.sameRoute modes other.declared declared (bounded.trans catches.symm)
      rw [← DynamicRoute.length_path_eq modes same, length]
      exact ⟨old, mem, same⟩
    · rintro ⟨old, mem, same⟩
      have other := arranged.belongs (.bucket _) old mem
      have equivalent := DynamicRoute.equivalent_of_sameRoute (other.mode.trans own.symm)
        other.declared declared same
      exact ⟨old, mem_flatten_buckets_iff.mpr ⟨_, mem⟩, equivalent⟩

/-- A route with parameters is refused for a duplicate or not at all. -/
theorem Arranged.register_eq_error_iff (arranged : s.Arranged) (own : r.route.mode = s.mode)
    (declared : r.route.IsDeclared) {e : RouteError} :
    s.register r false = .error e ↔ e = .duplicate r.route.startLine ∧
      ∃ old ∈ s.routes r.route.part, old.route.sameRoute r.route = true := by
  have entered := arranged.entered declared false
  rw [register]
  generalize s.enter r false = result at entered
  cases entered with
  | otherMode other => exact absurd own other
  | duplicate _ _ mem same =>
    dsimp only
    rw [Except.error.injEq, eq_comm]
    exact (and_iff_left ⟨_, mem, same⟩).symm
  | added _ fresh _ =>
    refine iff_of_false nofun ?_
    rintro ⟨_, old, mem, same⟩
    rw [fresh old mem] at same
    cases same
  | replaced _ allowed => cases allowed

theorem mode_enter (s : DynamicStore) (r : DynamicResponder) (allowOverride : Bool) :
    (s.enter r allowOverride).2.mode = s.mode := by
  unfold enter
  split
  · rfl
  · split
    · dsimp only
      split <;> rfl
    · split
      · split <;> rfl
      · dsimp only
        split <;> rfl

theorem mode_enterAll (s : DynamicStore) (calls : List (DynamicResponder × Bool)) :
    (s.enterAll calls).mode = s.mode := by
  induction calls generalizing s with
  | nil => rfl
  | cons call rest ih => exact (ih _).trans (mode_enter s call.1 call.2)

end DynamicStore

namespace DynamicRoute

open DynamicStore

/-- Sameness is sameness of what is matched, for any two routes that both end in a catch-all or both
do not; and so a route with parameters is refused, whatever was registered before it and however,
exactly if there is a route in its tier that takes precisely what it would take. -/
theorem sameRoute_iff_equivalent :
    (∀ a b : DynamicRoute, a.IsDeclared → b.IsDeclared → a.mode = b.mode →
      a.isCatchAll = b.isCatchAll → (a.sameRoute b = true ↔ a.Equivalent b)) ∧
    ∀ (mode : CaseMode) (calls : List (DynamicResponder × Bool)),
      (∀ call ∈ calls, call.1.route.IsDeclared) →
      ∀ r : DynamicResponder, r.route.IsDeclared → r.route.mode = mode →
        r.route.isParameterless = false →
        ∀ e, (enterAll { mode } calls).register r false = .error e ↔
          e = .duplicate r.route.startLine ∧
            ∃ old ∈ (enterAll { mode } calls).tier r.route, old.route.Equivalent r.route := by
  constructor
  · intro a b declared declared' own ends
    exact ⟨equivalent_of_sameRoute own declared declared',
      fun equivalent => equivalent.sameRoute own declared declared' ends⟩
  · intro mode calls known r declared own parametric e
    have arranged := (arranged_empty mode).enterAll known
    have modes := own.trans (mode_enterAll { mode } calls).symm
    rw [arranged.register_eq_error_iff modes declared,
      arranged.exists_mem_tier_iff modes declared parametric]

/-- A responder for a path in any letter case. -/
def caseless (path : List PathComponent) : DynamicResponder where
  route := { path, mode := .insensitive }
  handler := fun _ response => .ok response

/-- Other letters and another name make no other route. -/
theorem sameRoute_iff_equivalent_caseless :
    (caseless [.literal "Files", .parameter "id", .catchAll]).route.Equivalent
        (caseless [.literal "files", .parameter "name", .catchAll]).route ∧
      (enterAll { mode := .insensitive }
          [(caseless [.literal "Files", .parameter "id", .catchAll], false)]).register
        (caseless [.literal "files", .parameter "name", .catchAll]) false =
        .error (.duplicate "GET /files/:name/* HTTP/1.1") ∧
      ¬(caseless [.literal "Files", .parameter "id"]).route.Equivalent
        (caseless [.literal "files", .literal "id"]).route := by
  have first : (caseless [.literal "Files", .parameter "id", .catchAll]).route.IsDeclared :=
    ⟨"/Files/:id/*", rfl⟩
  have second : (caseless [.literal "files", .parameter "name", .catchAll]).route.IsDeclared :=
    ⟨"/files/:name/*", rfl⟩
  have third : (caseless [.literal "Files", .parameter "id"]).route.IsDeclared :=
    ⟨"/Files/:id", rfl⟩
  have fourth : (caseless [.literal "files", .literal "id"]).route.IsDeclared := ⟨"/files/id", rfl⟩
  have equivalent := (sameRoute_iff_equivalent.1 _ _ first second rfl rfl).mp (by decide)
  refine ⟨equivalent, ?_, ?_⟩
  · have known : ∀ call ∈ [(caseless [.literal "Files", .parameter "id", .catchAll], false)],
        call.1.route.IsDeclared := List.forall_mem_singleton.mpr first
    exact (sameRoute_iff_equivalent.2 .insensitive _ known _ second rfl rfl _).mpr
      ⟨by decide, _, List.mem_singleton_self _, equivalent⟩
  · rw [← sameRoute_iff_equivalent.1 _ _ third fourth rfl rfl]
    decide

end DynamicRoute

end Signpost
