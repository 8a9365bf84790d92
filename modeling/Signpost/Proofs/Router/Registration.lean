import Signpost.Proofs.Router.Addition
import Signpost.Router.Shared

/-!
# Registrations at the same time

However the steps of writers and readers are interleaved, registrations take
effect one after the other, in the order in which they get the lock.  The
invariant (`SharedRouter.Linear`) says for every moment of a run what the two
cells are made from: from the registrations that have returned without error
and, once its router is published or its plan is stored, from the one that has
the lock.  Every kind of step keeps it (`Linear.step`), so it holds after every
schedule (`Linear.run`).  What a caller sees follows from it
(`SharedRouter.linear_of_run`).  A schedule without interleaving is a special
case with a simpler account: a registration that nobody disturbs does what adding
the route to a live router does, error for error
(`SharedRouter.run?_undisturbed`).
-/

namespace Signpost

theorem Addition.declareAll_concat (plan : RouterPlan) (additions : List Addition) (a : Addition) :
    declareAll plan (additions ++ [a]) = a.declare (declareAll plan additions) := by
  rw [declareAll, List.foldl_append]
  rfl

/-! ## What has been seen -/

namespace SharedEvent

variable {ι : Type}

/-- A registration that has got the lock. -/
def locked? : SharedEvent ι → Option (ι × Addition)
  | .locked w a => some (w, a)
  | _ => none

/-- A registration that has returned. -/
def returned? : SharedEvent ι → Option (ι × Addition)
  | .returned w a _ => some (w, a)
  | _ => none

/-- A route whose registration has returned without error. -/
def accepted? : SharedEvent ι → Option Addition
  | .returned _ a (.ok ()) => some a
  | _ => none

def loadedBy? [DecidableEq ι] (i : ι) : SharedEvent ι → Option Router
  | .loaded j router => if j = i then some router else none
  | _ => none

/-- Nothing is seen but that a writer gets further. -/
structure IsQuiet [DecidableEq ι] (event : SharedEvent ι) : Prop where
  locked : event.locked? = none
  returned : event.returned? = none
  accepted : event.accepted? = none
  loaded : ∀ i, event.loadedBy? i = none

theorem IsQuiet.called [DecidableEq ι] (w : ι) (a : Addition) : (called w a).IsQuiet :=
  ⟨rfl, rfl, rfl, fun _ => rfl⟩

theorem IsQuiet.worked [DecidableEq ι] (w : ι) : (worked w).IsQuiet :=
  ⟨rfl, rfl, rfl, fun _ => rfl⟩

end SharedEvent

section Events

variable {ι : Type}

/-- The routes whose registration has returned without error, in this order. -/
def accepted (events : List (SharedEvent ι)) : List Addition :=
  events.filterMap SharedEvent.accepted?

/-- What a reader has loaded, in this order. -/
def loadsOf [DecidableEq ι] (i : ι) (events : List (SharedEvent ι)) : List Router :=
  events.filterMap (SharedEvent.loadedBy? i)

/-- Every registration has returned what the building of its route comes to, declared after the
routes that were accepted before. -/
def Outcomes (initial : RouterPlan) (events : List (SharedEvent ι)) : Prop :=
  ∀ before w a result after, events = before ++ .returned w a result :: after →
    result = (a.declare (Addition.declareAll initial (accepted before))).build.map fun _ => ()

/-- Routers that are built from more and more of some additions. -/
def Growing (initial : RouterPlan) (additions : List Addition) (routers : List Router) : Prop :=
  ∃ counts : List Nat, counts.Pairwise (· ≤ ·) ∧ (∀ n ∈ counts, n ≤ additions.length) ∧
    counts.map (fun n => (Addition.declareAll initial (additions.take n)).build) =
      routers.map .ok

variable {initial : RouterPlan} {events : List (SharedEvent ι)} {event : SharedEvent ι}
  {additions : List Addition} {routers : List Router}

section Seen

variable {α β : Type} {f : α → Option β} {x : α} {y : β}

theorem filterMap_concat_of_none (unseen : f x = none) (xs : List α) :
    (xs ++ [x]).filterMap f = xs.filterMap f := by
  rw [List.filterMap_append, List.filterMap_cons_none unseen, List.filterMap_nil, List.append_nil]

theorem filterMap_concat_of_some (seen : f x = some y) (xs : List α) :
    (xs ++ [x]).filterMap f = xs.filterMap f ++ [y] := by
  rw [List.filterMap_append, List.filterMap_cons_some seen, List.filterMap_nil]

end Seen

theorem outcomes_nil : Outcomes initial ([] : List (SharedEvent ι)) := by
  intro before w a result after split
  exact absurd split.symm (List.append_ne_nil_of_right_ne_nil before (List.cons_ne_nil _ _))

theorem Outcomes.concat (outcomes : Outcomes initial events)
    (last : ∀ w a result, event = .returned w a result →
      result = (a.declare (Addition.declareAll initial (accepted events))).build.map fun _ => ()) :
    Outcomes initial (events ++ [event]) := by
  intro before w a result after split
  rcases List.eq_nil_or_concat after with rfl | ⟨rest, final, rfl⟩
  · obtain ⟨rfl, eq⟩ := List.append_inj' split rfl
    exact last w a result (List.head_eq_of_cons_eq eq)
  · rw [List.concat_eq_append, ← List.cons_append, ← List.append_assoc] at split
    obtain ⟨rfl, _⟩ := List.append_inj' split rfl
    exact outcomes before w a result rest rfl

theorem growing_nil : Growing initial additions [] := ⟨[], .nil, nofun, rfl⟩

theorem Growing.append (growing : Growing initial additions routers) (more : List Addition) :
    Growing initial (additions ++ more) routers := by
  obtain ⟨counts, sorted, within, built⟩ := growing
  refine ⟨counts, sorted, ?_, ?_⟩
  · intro n mem
    rw [List.length_append]
    exact Nat.le_add_right_of_le (within n mem)
  · rw [← built]
    refine List.map_congr_left ?_
    intro n mem
    rw [List.take_append_of_le_length (within n mem)]

/-- What is loaded last is built from everything. -/
theorem Growing.concat (growing : Growing initial additions routers) {router : Router}
    (last : (Addition.declareAll initial additions).build = .ok router) :
    Growing initial additions (routers ++ [router]) := by
  obtain ⟨counts, sorted, within, built⟩ := growing
  refine ⟨counts ++ [additions.length], ?_, ?_, ?_⟩
  · rw [List.pairwise_append]
    refine ⟨sorted, List.pairwise_singleton _ _, ?_⟩
    intro n mem m last
    rw [List.mem_singleton.mp last]
    exact within n mem
  · intro n mem
    rcases List.mem_append.mp mem with old | last
    · exact within n old
    · exact Nat.le_of_eq (List.mem_singleton.mp last)
  · rw [List.map_append, List.map_append, built, List.map_singleton, List.map_singleton,
      List.take_length, last]

/-- What the two cells hold: the plan of all routes that were accepted and of those that are
`stored`, and the router of all that were accepted and of those that are `published`; `held` has
the lock. -/
structure Cells [DecidableEq ι] (initial : RouterPlan) (events : List (SharedEvent ι))
    (plan : RouterPlan) (current : Router) (stored published : List Addition)
    (held : List (ι × Addition)) : Prop where
  plan : plan = Addition.declareAll initial (accepted events ++ stored)
  current : (Addition.declareAll initial (accepted events ++ published)).build = .ok current
  /-- Registrations return in the order in which they got the lock. -/
  order : events.filterMap SharedEvent.locked? = events.filterMap SharedEvent.returned? ++ held
  outcomes : Outcomes initial events
  loads : ∀ i, Growing initial (accepted events ++ published) (loadsOf i events)

namespace Cells

variable [DecidableEq ι] {plan : RouterPlan} {current : Router} {stored published : List Addition}
  {held : List (ι × Addition)} {w : ι} {a : Addition}

theorem start {l : LiveRouter} :
    Cells l.plan ([] : List (SharedEvent ι)) l.plan l.current [] [] [] where
  plan := rfl
  current := l.built
  order := rfl
  outcomes := outcomes_nil
  loads _ := growing_nil

theorem quiet (cells : Cells initial events plan current stored published held)
    (quiet : event.IsQuiet) :
    Cells initial (events ++ [event]) plan current stored published held := by
  have same : accepted (events ++ [event]) = accepted events :=
    filterMap_concat_of_none quiet.accepted events
  refine ⟨?_, ?_, ?_, cells.outcomes.concat ?_, ?_⟩
  · rw [same]
    exact cells.plan
  · rw [same]
    exact cells.current
  · rw [filterMap_concat_of_none quiet.locked, filterMap_concat_of_none quiet.returned]
    exact cells.order
  · rintro w a result rfl
    cases quiet.returned
  · intro i
    rw [same, loadsOf, filterMap_concat_of_none (quiet.loaded i)]
    exact cells.loads i

theorem lock (cells : Cells initial events plan current stored published []) :
    Cells initial (events ++ [.locked w a]) plan current stored published [(w, a)] := by
  have same : accepted (events ++ [.locked w a]) = accepted events :=
    filterMap_concat_of_none rfl events
  refine ⟨?_, ?_, ?_, cells.outcomes.concat ?_, ?_⟩
  · rw [same]
    exact cells.plan
  · rw [same]
    exact cells.current
  · have order := cells.order
    rw [List.append_nil] at order
    rw [List.filterMap_append, order, filterMap_concat_of_none rfl]
    rfl
  · intro _ _ _ other
    cases other
  · intro i
    rw [same, loadsOf, filterMap_concat_of_none rfl]
    exact cells.loads i

theorem publish {router : Router} (cells : Cells initial events plan current [] [] held)
    (built : (a.declare plan).build = .ok router) :
    Cells initial events plan router [] [a] held := by
  refine ⟨cells.plan, ?_, cells.order, cells.outcomes, ?_⟩
  · rw [cells.plan, List.append_nil] at built
    rw [Addition.declareAll_concat]
    exact built
  · intro i
    have loads := cells.loads i
    rw [List.append_nil] at loads
    exact loads.append [a]

theorem store (cells : Cells initial events plan current [] published held) :
    Cells initial events (a.declare plan) current [a] published held := by
  refine ⟨?_, cells.current, cells.order, cells.outcomes, cells.loads⟩
  have plan := cells.plan
  rw [List.append_nil] at plan
  rw [Addition.declareAll_concat, ← plan]

theorem accept (cells : Cells initial events plan current [a] [a] [(w, a)]) :
    Cells initial (events ++ [.returned w a (.ok ())]) plan current [] [] [] := by
  have more : accepted (events ++ [.returned w a (.ok ())]) = accepted events ++ [a] :=
    filterMap_concat_of_some (f := SharedEvent.accepted?) rfl events
  refine ⟨?_, ?_, ?_, cells.outcomes.concat ?_, ?_⟩
  · rw [more, List.append_nil]
    exact cells.plan
  · rw [more, List.append_nil]
    exact cells.current
  · rw [filterMap_concat_of_none rfl, cells.order, List.filterMap_append, List.append_nil]
    rfl
  · rintro _ _ _ ⟨⟩
    rw [← Addition.declareAll_concat, cells.current]
    rfl
  · intro i
    rw [more, List.append_nil, loadsOf, filterMap_concat_of_none rfl]
    exact cells.loads i

theorem refuse {e : RouteError} (cells : Cells initial events plan current [] [] [(w, a)])
    (failed : (a.declare plan).build = .error e) :
    Cells initial (events ++ [.returned w a (.error e)]) plan current [] [] [] := by
  have same : accepted (events ++ [.returned w a (.error e)]) = accepted events :=
    filterMap_concat_of_none rfl events
  refine ⟨?_, ?_, ?_, cells.outcomes.concat ?_, ?_⟩
  · rw [same]
    exact cells.plan
  · rw [same]
    exact cells.current
  · rw [filterMap_concat_of_none rfl, cells.order, List.filterMap_append, List.append_nil]
    rfl
  · rintro _ _ _ ⟨⟩
    rw [cells.plan, List.append_nil] at failed
    rw [failed]
    rfl
  · intro i
    rw [same, loadsOf, filterMap_concat_of_none rfl]
    exact cells.loads i

theorem load (cells : Cells initial events plan current stored published held) (i : ι) :
    Cells initial (events ++ [.loaded i current]) plan current stored published held := by
  have same : accepted (events ++ [.loaded i current]) = accepted events :=
    filterMap_concat_of_none rfl events
  refine ⟨?_, ?_, ?_, cells.outcomes.concat ?_, ?_⟩
  · rw [same]
    exact cells.plan
  · rw [same]
    exact cells.current
  · rw [filterMap_concat_of_none rfl, filterMap_concat_of_none rfl]
    exact cells.order
  · intro _ _ _ other
    cases other
  · intro j
    rw [same]
    by_cases own : i = j
    · have last : loadsOf j (events ++ [.loaded i current]) = loadsOf j events ++ [current] := by
        refine filterMap_concat_of_some (f := SharedEvent.loadedBy? j) ?_ events
        exact if_pos own
      rw [last]
      exact (cells.loads j).concat cells.current
    · have other : loadsOf j (events ++ [.loaded i current]) = loadsOf j events := by
        refine filterMap_concat_of_none (f := SharedEvent.loadedBy? j) ?_ events
        exact if_neg own
      rw [other]
      exact cells.loads j

end Cells

end Events

/-! ## What a step does -/

namespace WriterPhase

/-- The route of a writer that has the lock. -/
def held? : WriterPhase → Option Addition
  | idle | waiting _ => none
  | locked a | copied a _ | built a _ _ | refused a _ | published a _ | stored a => some a

/-- The route of a writer whose router is published. -/
def published? : WriterPhase → Option Addition
  | published a _ | stored a => some a
  | _ => none

/-- The route of a writer whose plan is stored. -/
def stored? : WriterPhase → Option Addition
  | stored a => some a
  | _ => none

/-- What a writer has prepared comes from the plan as it stands. -/
inductive Sound (plan : RouterPlan) : WriterPhase → Prop
  | idle : Sound plan .idle
  | waiting {a : Addition} : Sound plan (.waiting a)
  | locked {a : Addition} : Sound plan (.locked a)
  | copied {a : Addition} : Sound plan (.copied a (a.declare plan))
  | built {a : Addition} {router : Router} :
    (a.declare plan).build = .ok router → Sound plan (.built a (a.declare plan) router)
  | refused {a : Addition} {e : RouteError} :
    (a.declare plan).build = .error e → Sound plan (.refused a e)
  | published {a : Addition} : Sound plan (.published a (a.declare plan))
  | stored {a : Addition} : Sound plan (.stored a)

/-- A writer without the lock has prepared nothing. -/
theorem sound_of_not_held {p : WriterPhase} (free : p.held? = none) (plan : RouterPlan) :
    p.Sound plan := by
  cases p with
  | idle => exact .idle
  | waiting a => exact .waiting
  | _ => cases free

/-- A writer with the lock has stored nothing before it has published something. -/
theorem published?_or {p : WriterPhase} {a : Addition} (held : p.held? = some a) :
    p.published? = some a ∨ p.published? = none ∧ p.stored? = none := by
  cases p with
  | published b candidate => exact .inl held
  | stored b => exact .inl held
  | _ => exact .inr ⟨rfl, rfl⟩

/-- A writer gets further without a change of the lock or of a cell. -/
structure Moves (plan : RouterPlan) (p p' : WriterPhase) : Prop where
  held : p'.held? = p.held?
  published : p'.published? = p.published?
  stored : p'.stored? = p.stored?
  sound : p.Sound plan → p'.Sound plan

end WriterPhase

namespace SharedRouter

variable {ι : Type} {s s' : SharedRouter ι} {w : ι} {p : WriterPhase} {event : SharedEvent ι}
  {f : WriterPhase → Option Addition}

/-- Exactly the writer that has the lock is at work. -/
def Exclusive (s : SharedRouter ι) : Prop :=
  ∀ w, s.owner = some w ↔ (s.phase w).held?.isSome = true

/-- The registration that has the lock, if it has come as far as `f` says. -/
def inFlight (s : SharedRouter ι) (f : WriterPhase → Option Addition) : List (ι × Addition) :=
  match s.owner with
  | none => []
  | some w => (f (s.phase w)).toList.map (w, ·)

/-- The route of the registration that has the lock, if its router is published. -/
def published (s : SharedRouter ι) : List Addition :=
  (s.inFlight WriterPhase.published?).map Prod.snd

/-- The route of the registration that has the lock, if its plan is stored. -/
def stored (s : SharedRouter ι) : List Addition := (s.inFlight WriterPhase.stored?).map Prod.snd

theorem inFlight_of_free (free : s.owner = none) : s.inFlight f = [] := by
  rw [inFlight, free]

theorem owner_of_inFlight {a : Addition} {rest : List (ι × Addition)}
    (flight : s.inFlight f = (w, a) :: rest) : s.owner = some w ∧ f (s.phase w) = some a := by
  unfold inFlight at flight
  split at flight
  · cases flight
  · next v owner =>
    cases found : f (s.phase v) with
    | none =>
      rw [found] at flight
      cases flight
    | some b =>
      rw [found] at flight
      cases flight
      exact ⟨owner, found⟩

theorem inFlight_of_owner (own : s.owner = some w) (phase : s.phase w = p) :
    s.inFlight f = (f p).toList.map (w, ·) := by
  rw [inFlight, own]
  dsimp only
  rw [phase]

theorem published_of_owner (own : s.owner = some w) (phase : s.phase w = p) :
    s.published = p.published?.toList := by
  rw [published, inFlight_of_owner own phase]
  cases p.published? with
  | none => rfl
  | some a => rfl

theorem stored_of_owner (own : s.owner = some w) (phase : s.phase w = p) :
    s.stored = p.stored?.toList := by
  rw [stored, inFlight_of_owner own phase]
  cases p.stored? with
  | none => rfl
  | some a => rfl

theorem published_of_free (free : s.owner = none) : s.published = [] := by
  rw [published, inFlight_of_free free, List.map_nil]

theorem stored_of_free (free : s.owner = none) : s.stored = [] := by
  rw [stored, inFlight_of_free free, List.map_nil]

namespace Exclusive

/-- A writer in a phase of work has the lock. -/
theorem owner_of_held (exclusive : s.Exclusive) {a : Addition} (held : (s.phase w).held? = some a) :
    s.owner = some w := by
  rw [exclusive w, held]
  rfl

/-- A writer other than the one with the lock is not at work. -/
theorem not_held (exclusive : s.Exclusive) (own : s.owner = some w) {v : ι} (other : v ≠ w) :
    (s.phase v).held? = none := by
  rw [← Option.not_isSome_iff_eq_none, ← exclusive v, own, Option.some_inj]
  exact other.symm

end Exclusive

variable [DecidableEq ι]

/-- All that a step can be. -/
inductive Step (s : SharedRouter ι) : SharedEvent ι → SharedRouter ι → Prop
  | move {w : ι} {p : WriterPhase} {event : SharedEvent ι} :
    (s.phase w).Moves s.plan p → event.IsQuiet → Step s event { s with phase := s.moved w p }
  | lock {w : ι} {a : Addition} :
    s.phase w = .waiting a → s.owner = none →
    Step s (.locked w a) { s with phase := s.moved w (.locked a), owner := some w }
  | publish {w : ι} {a : Addition} {candidate : RouterPlan} {router : Router} :
    s.phase w = .built a candidate router →
    Step s (.worked w) { s with phase := s.moved w (.published a candidate), current := router }
  | store {w : ι} {a : Addition} {candidate : RouterPlan} :
    s.phase w = .published a candidate →
    Step s (.worked w) { s with phase := s.moved w (.stored a), plan := candidate }
  | accept {w : ι} {a : Addition} :
    s.phase w = .stored a →
    Step s (.returned w a (.ok ())) { s with phase := s.moved w .idle, owner := none }
  | refuse {w : ι} {a : Addition} {e : RouteError} :
    s.phase w = .refused a e →
    Step s (.returned w a (.error e)) { s with phase := s.moved w .idle, owner := none }
  | load (i : ι) : Step s (.loaded i s.current) s

theorem step_of_advance? (done : s.advance? w = some (event, s')) : Step s event s' := by
  unfold advance? at done
  split at done
  · cases done
  · next a phase =>
    split at done
    · next free =>
      cases done
      exact .lock phase free
    · cases done
  · next a phase =>
    cases done
    refine .move ?_ (.worked w)
    rw [phase]
    exact ⟨rfl, rfl, rfl, fun _ => .copied⟩
  · next a candidate phase =>
    split at done
    · next router built =>
      cases done
      refine .move ?_ (.worked w)
      rw [phase]
      refine ⟨rfl, rfl, rfl, ?_⟩
      rintro ⟨⟩
      exact .built built
    · next e failed =>
      cases done
      refine .move ?_ (.worked w)
      rw [phase]
      refine ⟨rfl, rfl, rfl, ?_⟩
      rintro ⟨⟩
      exact .refused failed
  · next a candidate router phase =>
    cases done
    exact .publish phase
  · next a candidate phase =>
    cases done
    exact .store phase
  · next a phase =>
    cases done
    exact .accept phase
  · next a e phase =>
    cases done
    exact .refuse phase

theorem step_of_step? {action : SharedAction ι} (done : s.step? action = some (event, s')) :
    Step s event s' := by
  unfold step? at done
  cases action with
  | call w a =>
    dsimp only at done
    split at done
    · next phase =>
      cases done
      refine .move ?_ (.called w a)
      rw [phase]
      exact ⟨rfl, rfl, rfl, fun _ => .waiting⟩
    · cases done
  | advance w => exact step_of_advance? done
  | load i =>
    cases done
    exact .load i

variable {schedule : List (SharedAction ι)} {events : List (SharedEvent ι)}

theorem run?_cons {action : SharedAction ι} {s₁ : SharedRouter ι} {more : List (SharedEvent ι)}
    (done : s.step? action = some (event, s₁)) (ran : s₁.run? schedule = some (more, s')) :
    s.run? (action :: schedule) = some (event :: more, s') := by
  simp [run?, done, ran]

theorem exists_of_run?_cons {action : SharedAction ι}
    (ran : s.run? (action :: schedule) = some (events, s')) :
    ∃ event s₁ more, s.step? action = some (event, s₁) ∧ s₁.run? schedule = some (more, s') ∧
      events = event :: more := by
  rw [run?, Option.bind_eq_bind, Option.bind_eq_some_iff] at ran
  obtain ⟨⟨event, s₁⟩, done, ran⟩ := ran
  rw [Option.bind_eq_bind, Option.bind_eq_some_iff] at ran
  obtain ⟨⟨more, s₂⟩, others, ran⟩ := ran
  cases ran
  exact ⟨event, s₁, more, done, others, rfl⟩

/-- The first event of a run is that of a step from its start. -/
theorem exists_first_step (ran : s.run? schedule = some (event :: events, s')) :
    ∃ s₁, Step s event s₁ := by
  cases schedule with
  | nil => cases ran
  | cons action rest =>
    obtain ⟨_, s₁, _, done, _, eq⟩ := exists_of_run?_cons ran
    cases eq
    exact ⟨s₁, step_of_step? done⟩

/-- The last event of a run is that of a step to its end. -/
theorem exists_last_step (ran : s.run? schedule = some (events ++ [event], s')) :
    ∃ before s₁, s.run? before = some (events, s₁) ∧ Step s₁ event s' := by
  induction schedule generalizing s events with
  | nil =>
    have none : [] = events ++ [event] := congrArg Prod.fst (Option.some.inj ran)
    exact absurd none.symm (List.append_ne_nil_of_right_ne_nil events (List.cons_ne_nil _ _))
  | cons action rest ih =>
    obtain ⟨first, s₁, more, done, goesOn, eq⟩ := exists_of_run?_cons ran
    cases events with
    | nil =>
      cases eq
      cases rest with
      | nil =>
        cases goesOn
        exact ⟨[], s, rfl, step_of_step? done⟩
      | cons action rest =>
        obtain ⟨_, _, _, _, _, eq⟩ := exists_of_run?_cons goesOn
        cases eq
    | cons first events =>
      cases eq
      obtain ⟨before, s₂, ran, step⟩ := ih goesOn
      exact ⟨action :: before, s₂, run?_cons done ran, step⟩

/-! ## What holds at every moment -/

/-- What holds of a shared router that was started with a plan, after what has been seen of it. -/
structure Linear (initial : RouterPlan) (events : List (SharedEvent ι)) (s : SharedRouter ι) :
    Prop where
  exclusive : s.Exclusive
  sound : ∀ w, (s.phase w).Sound s.plan
  cells : Cells initial events s.plan s.current s.stored s.published
    (s.inFlight WriterPhase.held?)

theorem moved_self (s : SharedRouter ι) (w : ι) (p : WriterPhase) : s.moved w p w = p := if_pos rfl

theorem moved_of_ne {v : ι} (other : v ≠ w) (s : SharedRouter ι) (p : WriterPhase) :
    s.moved w p v = s.phase v :=
  if_neg other

theorem moved_moved (s : SharedRouter ι) (w : ι) (p p' : WriterPhase) (plan : RouterPlan)
    (current : Router) (owner : Option ι) :
    moved { plan, current, owner, phase := s.moved w p } w p' = s.moved w p' := by
  funext v
  by_cases here : v = w
  · rw [here, moved_self, moved_self]
  · rw [moved_of_ne here, moved_of_ne here]
    exact moved_of_ne here s p

theorem moved_start (l : LiveRouter) (w : ι) : (start l).moved w .idle = fun _ => .idle := by
  funext v
  by_cases here : v = w
  · rw [here, moved_self]
  · rw [moved_of_ne here]
    rfl

theorem inFlight_moved (same : f p = f (s.phase w)) :
    inFlight { s with phase := s.moved w p } f = s.inFlight f := by
  unfold inFlight
  dsimp only
  cases s.owner with
  | none => rfl
  | some v =>
    dsimp only
    by_cases here : v = w
    · rw [here, moved_self, same]
    · rw [moved_of_ne here]

theorem sound_moved {plan : RouterPlan} (own : p.Sound plan)
    (others : ∀ v, v ≠ w → (s.phase v).Sound plan) (v : ι) : (s.moved w p v).Sound plan := by
  by_cases here : v = w
  · rw [here, moved_self]
    exact own
  · rw [moved_of_ne here]
    exact others v here

namespace Exclusive

theorem moved (exclusive : s.Exclusive) (same : p.held? = (s.phase w).held?) :
    Exclusive { s with phase := s.moved w p } := by
  intro v
  dsimp only
  by_cases here : v = w
  · rw [here, moved_self, same]
    exact exclusive w
  · rw [moved_of_ne here]
    exact exclusive v

theorem lock (exclusive : s.Exclusive) (free : s.owner = none) (held : p.held?.isSome = true) :
    Exclusive { s with phase := s.moved w p, owner := some w } := by
  intro v
  dsimp only
  by_cases here : v = w
  · rw [here, moved_self]
    exact iff_of_true rfl held
  · rw [moved_of_ne here, ← exclusive v, free, Option.some_inj]
    exact iff_of_false (Ne.symm here) nofun

theorem release (exclusive : s.Exclusive) (own : s.owner = some w) (idle : p.held? = none) :
    Exclusive { s with phase := s.moved w p, owner := none } := by
  intro v
  dsimp only
  by_cases here : v = w
  · rw [here, moved_self, idle]
    exact iff_of_false nofun nofun
  · rw [moved_of_ne here, exclusive.not_held own here]
    exact iff_of_false nofun nofun

end Exclusive

namespace Linear

variable {initial : RouterPlan} {a : Addition}

theorem start (l : LiveRouter) : Linear l.plan [] (start l : SharedRouter ι) where
  exclusive _ := iff_of_false nofun nofun
  sound _ := .idle
  cells := .start

theorem cells_of_free (linear : Linear initial events s) (free : s.owner = none) :
    Cells initial events s.plan s.current [] [] [] := by
  have cells := linear.cells
  rwa [stored_of_free free, published_of_free free, inFlight_of_free free] at cells

/-- A writer in a phase of work has the lock, and the cells are as its phase says. -/
theorem cells_of_phase (linear : Linear initial events s) (phase : s.phase w = p)
    (held : p.held? = some a) :
    s.owner = some w ∧ p.Sound s.plan ∧
      Cells initial events s.plan s.current p.stored?.toList p.published?.toList [(w, a)] := by
  have own : s.owner = some w := linear.exclusive.owner_of_held (phase.symm ▸ held)
  have cells := linear.cells
  rw [stored_of_owner own phase, published_of_owner own phase, inFlight_of_owner own phase, held]
    at cells
  exact ⟨own, phase ▸ linear.sound w, cells⟩

/-- A writer has got into another phase of work. -/
theorem of_phase (exclusive : s.Exclusive) (own : s.owner = some w) (phase : s.phase w = p)
    (held : p.held? = some a) (sound : ∀ v, (s.phase v).Sound s.plan)
    (cells : Cells initial events s.plan s.current p.stored?.toList p.published?.toList [(w, a)]) :
    Linear initial events s := by
  refine ⟨exclusive, sound, ?_⟩
  rw [stored_of_owner own phase, published_of_owner own phase, inFlight_of_owner own phase, held]
  exact cells

/-- A writer has let go of the lock. -/
theorem of_free (exclusive : s.Exclusive) (free : s.owner = none)
    (sound : ∀ v, (s.phase v).Sound s.plan)
    (cells : Cells initial events s.plan s.current [] [] []) : Linear initial events s := by
  refine ⟨exclusive, sound, ?_⟩
  rw [stored_of_free free, published_of_free free, inFlight_of_free free]
  exact cells

theorem step (linear : Linear initial events s) (step : Step s event s') :
    Linear initial (events ++ [event]) s' := by
  cases step with
  | @move w p _ moves quiet =>
    refine ⟨linear.exclusive.moved moves.held,
      sound_moved (moves.sound (linear.sound w)) fun v _ => linear.sound v, ?_⟩
    rw [stored, published, inFlight_moved moves.stored, inFlight_moved moves.published,
      inFlight_moved moves.held]
    exact linear.cells.quiet quiet
  | @lock w a phase free =>
    exact of_phase (linear.exclusive.lock free rfl) rfl (s.moved_self w _) rfl
      (sound_moved .locked fun v _ => linear.sound v) (linear.cells_of_free free).lock
  | @publish w a candidate router phase =>
    obtain ⟨own, sound, cells⟩ := linear.cells_of_phase phase rfl
    cases sound with
    | built built =>
      exact of_phase (linear.exclusive.moved (by rw [phase]; rfl)) own (s.moved_self w _) rfl
        (sound_moved .published fun v _ => linear.sound v)
        ((cells.publish built).quiet (.worked w))
  | @store w a candidate phase =>
    obtain ⟨own, sound, cells⟩ := linear.cells_of_phase phase rfl
    cases sound with
    | published =>
      refine of_phase (linear.exclusive.moved (by rw [phase]; rfl)) own (s.moved_self w _) rfl ?_
        (cells.store.quiet (.worked w))
      -- The plan has changed, but nobody else has prepared anything from it.
      refine sound_moved .stored fun v other => ?_
      exact WriterPhase.sound_of_not_held (linear.exclusive.not_held own other) _
  | @accept w a phase =>
    obtain ⟨own, _, cells⟩ := linear.cells_of_phase phase rfl
    exact of_free (linear.exclusive.release own rfl) rfl
      (sound_moved .idle fun v _ => linear.sound v) cells.accept
  | @refuse w a e phase =>
    obtain ⟨own, sound, cells⟩ := linear.cells_of_phase phase rfl
    cases sound with
    | refused failed =>
      exact of_free (linear.exclusive.release own rfl) rfl
        (sound_moved .idle fun v _ => linear.sound v) (cells.refuse failed)
  | load i => exact ⟨linear.exclusive, linear.sound, linear.cells.load i⟩

theorem run {more : List (SharedEvent ι)} (linear : Linear initial events s)
    (ran : s.run? schedule = some (more, s')) : Linear initial (events ++ more) s' := by
  induction schedule generalizing events s more with
  | nil =>
    cases ran
    rw [List.append_nil]
    exact linear
  | cons action rest ih =>
    obtain ⟨event, s₁, others, done, goesOn, rfl⟩ := exists_of_run?_cons ran
    have next := ih (linear.step (step_of_step? done)) goesOn
    rwa [List.append_assoc] at next

/-- After a registration has got the lock, and before it returns, no registration returns; so what
has been accepted stays the same. -/
theorem unfinished (linear : Linear initial events s) (free : s.owner = none)
    {inside : List (SharedEvent ι)} (after : Linear initial (events ++ .locked w a :: inside) s')
    (unfinished : ∀ b result, .returned w b result ∉ inside) :
    accepted (events ++ .locked w a :: inside) = accepted events ∧
      (s'.phase w).held? = some a := by
  have before := (linear.cells_of_free free).order
  have order := after.cells.order
  rw [List.append_nil] at before
  rw [List.filterMap_append, List.filterMap_append, before, List.append_assoc] at order
  have inOrder : (w, a) :: inside.filterMap SharedEvent.locked? =
      inside.filterMap SharedEvent.returned? ++ s'.inFlight WriterPhase.held? :=
    List.append_cancel_left order
  have nothing : inside.filterMap SharedEvent.returned? = [] := by
    cases returned : inside.filterMap SharedEvent.returned? with
    | nil => rfl
    | cons first rest =>
      rw [returned, List.cons_append, List.cons_eq_cons] at inOrder
      have mem : (w, a) ∈ inside.filterMap SharedEvent.returned? := by
        rw [returned, inOrder.1]
        exact List.mem_cons_self
      obtain ⟨event, seen, same⟩ := List.mem_filterMap.mp mem
      cases event with
      | returned v b result =>
        cases same
        exact absurd seen (unfinished a result)
      | _ => cases same
  have none : inside.filterMap SharedEvent.accepted? = [] := by
    rw [List.filterMap_eq_nil_iff] at nothing ⊢
    intro event seen
    cases event with
    | returned v b result => cases nothing _ seen
    | _ => rfl
  constructor
  · rw [accepted, List.filterMap_append, List.filterMap_cons_none rfl, none, List.append_nil,
      accepted]
  · rw [nothing, List.nil_append] at inOrder
    exact (owner_of_inFlight inOrder.symm).2

/-- While nobody has the lock, the router is that of the plan, which has all routes that were
accepted. -/
theorem settled (linear : Linear initial events s) (free : s.owner = none) :
    s.plan = Addition.declareAll initial (accepted events) ∧ s.plan.build = .ok s.current := by
  have cells := linear.cells_of_free free
  have plan := cells.plan
  have current := cells.current
  rw [List.append_nil] at plan current
  refine ⟨plan, ?_⟩
  rw [plan]
  exact current

/-- A registration whose route cannot be built leaves both cells as it has found them. -/
theorem untouched (linear : Linear initial events s) (free : s.owner = none)
    {inside : List (SharedEvent ι)} (after : Linear initial (events ++ .locked w a :: inside) s')
    (unfinished : ∀ b result, .returned w b result ∉ inside) {e : RouteError}
    (failed : (a.declare s.plan).build = .error e) :
    s'.plan = s.plan ∧ s'.current = s.current := by
  obtain ⟨same, held⟩ := linear.unfinished free after unfinished
  obtain ⟨found, built⟩ := linear.settled free
  obtain ⟨_, _, cells⟩ := after.cells_of_phase rfl held
  have plan := cells.plan
  have current := cells.current
  rw [same] at plan current
  rcases WriterPhase.published?_or held with published | ⟨unpublished, unstored⟩
  · rw [published, Option.toList_some, Addition.declareAll_concat, ← found, failed] at current
    cases current
  · rw [unstored, Option.toList_none, List.append_nil, ← found] at plan
    rw [unpublished, Option.toList_none, List.append_nil, ← found, built] at current
    exact ⟨plan, (Except.ok.inj current).symm⟩

end Linear

/-- However the steps of writers and readers are interleaved, from the moment when a live router is
shared:

* while nobody has the lock, the plan is what was declared first and then with every registration
  that has returned without error, and its router is published;
* registrations return in the order in which they got the lock;
* each returns what the building of its route comes to, after the routes that were accepted before;
* one that returns an error has left the plan and the router as they were when it got the lock, all
  the time;
* what one reader loads is built from more and more of the routes that are accepted. -/
theorem linear_of_run {l : LiveRouter} (ran : (start l).run? schedule = some (events, s)) :
    (s.owner = none → s.plan = Addition.declareAll l.plan (accepted events) ∧
      s.plan.build = .ok s.current) ∧
    events.filterMap SharedEvent.locked? =
      events.filterMap SharedEvent.returned? ++ s.inFlight WriterPhase.held? ∧
    Outcomes l.plan events ∧
    (∀ {w a e first rest inside more s₁ s₂},
      s.run? first = some (.locked w a :: inside, s₁) →
      s₁.run? rest = some (more ++ [.returned w a (.error e)], s₂) →
      (∀ b result, .returned w b result ∉ inside ++ more) →
      (s₁.plan = s.plan ∧ s₁.current = s.current) ∧ s₂.plan = s.plan ∧ s₂.current = s.current) ∧
    ∀ i, Growing l.plan (accepted events ++ s.published) (loadsOf i events) := by
  have linear := (Linear.start l).run ran
  rw [List.nil_append] at linear
  refine ⟨linear.settled, linear.cells.order, linear.cells.outcomes, ?_, linear.cells.loads⟩
  intro w a e first rest inside more s₁ s₂ began ended unfinished
  have free : s.owner = none := by
    obtain ⟨_, step⟩ := exists_first_step began
    cases step with
    | move moves quiet => cases quiet.locked
    | lock phase free => exact free
  obtain ⟨before, s₀, goesOn, last⟩ := exists_last_step ended
  have during := linear.run began
  have atEnd := during.run goesOn
  rw [List.append_assoc, List.cons_append] at atEnd
  cases last with
  | move moves quiet => cases quiet.returned
  | refuse phase =>
    obtain ⟨_, sound, cells⟩ := atEnd.cells_of_phase phase rfl
    have unchanged : s₀.plan = s.plan := by
      have plan := cells.plan
      rw [(linear.unfinished free atEnd unfinished).1] at plan
      rw [plan, (linear.settled free).1]
      exact congrArg (Addition.declareAll l.plan) (List.append_nil _)
    cases sound with
    | refused failed =>
      rw [unchanged] at failed
      obtain ⟨plan, current⟩ := linear.untouched free atEnd unfinished failed
      refine ⟨linear.untouched free during ?_ failed, plan, current⟩
      intro b result mem
      exact unfinished b result (List.mem_append_left more mem)

/-- A plan with one route. -/
def frontPlan : RouterPlan where
  routes := (RouteLevel.group "/").addPath .get "/" fun _ response => .ok response
  date := []

/-- A route with its handler. -/
def pageAddition (path : List PathComponent) : Addition :=
  .dynamic { route := { path }, handler := fun _ response => .ok response }

/-- One writer registers a second route, and another one the first route again; a reader loads the
router before the second route is published, when it is, and when both writers are done. -/
def frontSchedule : List (SharedAction Bool) :=
  [.call false (pageAddition [.parameter "page"]), .call true (pageAddition []),
    .advance false, .load true, .advance false, .advance false, .advance false, .load true,
    .advance false, .advance false, .advance true, .advance true, .advance true, .advance true,
    .load true]

theorem run?_frontSchedule :
    (match LiveRouter.ofPlan frontPlan with
      | .error _ => false
      | .ok l =>
        match (start l).run? frontSchedule with
        | none => false
        | some (events, s) =>
          s.owner.isNone && (events.filterMap SharedEvent.returned?).length == 2 &&
            (accepted events).length == 1 &&
            (loadsOf true events).map Router.routeCount == [1, 2, 2]) = true := by
  decide +kernel

theorem linear_of_run_frontSchedule :
    ∃ (l : LiveRouter) (events : List (SharedEvent Bool)) (s : SharedRouter Bool),
      l.plan = frontPlan ∧ (start l).run? frontSchedule = some (events, s) ∧ s.owner = none ∧
      (events.filterMap SharedEvent.returned?).length = 2 ∧ (accepted events).length = 1 ∧
      s.plan = Addition.declareAll l.plan (accepted events) ∧ s.plan.build = .ok s.current ∧
      (loadsOf true events).map Router.routeCount = [1, 2, 2] ∧
      Growing l.plan (accepted events ++ s.published) (loadsOf true events) := by
  have runs := run?_frontSchedule
  cases started : LiveRouter.ofPlan frontPlan with
  | error e =>
    rw [started] at runs
    cases runs
  | ok l =>
    rw [started] at runs
    dsimp only at runs
    cases ran : (start l).run? frontSchedule with
    | none =>
      rw [ran] at runs
      cases runs
    | some result =>
      obtain ⟨events, s⟩ := result
      rw [ran] at runs
      simp only [Bool.and_eq_true, Option.isNone_iff_eq_none, beq_iff_eq] at runs
      obtain ⟨⟨⟨free, returned⟩, once⟩, counts⟩ := runs
      obtain ⟨settled, _, _, _, loads⟩ := linear_of_run ran
      obtain ⟨plan, built⟩ := settled free
      exact ⟨l, events, s, LiveRouter.plan_of_ofPlan started, ran, free, returned, once, plan,
        built, counts, loads true⟩

/-- A registration that nobody disturbs comes to the same as adding the route to a live router. -/
theorem run?_undisturbed (l : LiveRouter) (w : ι) (a : Addition) :
    match l.add a with
    | .ok l' =>
      (start l).run? (.call w a :: List.replicate 6 (.advance w)) =
        some ([.called w a, .locked w a, .worked w, .worked w, .worked w, .worked w,
          .returned w a (.ok ())], start l')
    | .error e =>
      (start l).run? (.call w a :: List.replicate 4 (.advance w)) =
        some ([.called w a, .locked w a, .worked w, .worked w, .returned w a (.error e)],
          start l) := by
  have ends := moved_start l w
  rw [start] at ends
  cases added : l.add a with
  | ok l' =>
    have built := l'.built
    rw [LiveRouter.plan_of_add added] at built
    simp [run?, step?, advance?, start, built, moved_self, moved_moved,
      LiveRouter.plan_of_add added, ends]
  | error e =>
    have failed := LiveRouter.build_of_add_eq_error added
    simp [run?, step?, advance?, start, failed, moved_self, moved_moved, ends]

end SharedRouter

end Signpost
