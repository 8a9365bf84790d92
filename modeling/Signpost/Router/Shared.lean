import Signpost.Router.Live

/-!
# Shared routers

A live router that several writers and readers use at once.  Its plan and its
router are two cells.  A writer works under a lock: it declares its route on a
copy of the plan, builds the copy, publishes the router, stores the copy as the
plan and lets go of the lock; if the copy cannot be built, it lets go of the
lock and leaves the cells alone.  A reader loads the published router at any
time, whoever has the lock.

Every access to the lock or to a cell is a step of its own, and a schedule
says who makes the next one.
-/

namespace Signpost

/-- How far a writer is with its registration. -/
inductive WriterPhase where
  | idle
  /-- It asks for the lock. -/
  | waiting (a : Addition)
  | locked (a : Addition)
  | copied (a : Addition) (candidate : RouterPlan)
  | built (a : Addition) (candidate : RouterPlan) (router : Router)
  | refused (a : Addition) (e : RouteError)
  | published (a : Addition) (candidate : RouterPlan)
  | stored (a : Addition)

structure SharedRouter (ι : Type) where
  plan : RouterPlan
  current : Router
  /-- The writer that has the lock. -/
  owner : Option ι := none
  phase : ι → WriterPhase := fun _ => .idle

inductive SharedAction (ι : Type) where
  /-- A writer starts a registration. -/
  | call (w : ι) (a : Addition)
  /-- A writer makes the next step of its registration. -/
  | advance (w : ι)
  | load (i : ι)

/-- What is seen of a step. -/
inductive SharedEvent (ι : Type) where
  | called (w : ι) (a : Addition)
  | locked (w : ι) (a : Addition)
  | worked (w : ι)
  | returned (w : ι) (a : Addition) (result : Except RouteError Unit)
  | loaded (i : ι) (router : Router)

namespace SharedRouter

variable {ι : Type}

def start (l : LiveRouter) : SharedRouter ι where
  plan := l.plan
  current := l.current

variable [DecidableEq ι]

/-- The phases of all writers when one of them has got into another phase. -/
def moved (s : SharedRouter ι) (w : ι) (p : WriterPhase) (v : ι) : WriterPhase :=
  if v = w then p else s.phase v

/-- The next step of a registration; there is none while another writer has the lock. -/
def advance? (s : SharedRouter ι) (w : ι) : Option (SharedEvent ι × SharedRouter ι) :=
  match s.phase w with
  | .idle => none
  | .waiting a =>
    match s.owner with
    | none => some (.locked w a, { s with phase := s.moved w (.locked a), owner := some w })
    | some _ => none
  | .locked a => some (.worked w, { s with phase := s.moved w (.copied a (a.declare s.plan)) })
  | .copied a candidate =>
    match candidate.build with
    | .ok router => some (.worked w, { s with phase := s.moved w (.built a candidate router) })
    | .error e => some (.worked w, { s with phase := s.moved w (.refused a e) })
  | .built a candidate router =>
    some (.worked w, { s with phase := s.moved w (.published a candidate), current := router })
  | .published a candidate =>
    some (.worked w, { s with phase := s.moved w (.stored a), plan := candidate })
  | .stored a => some (.returned w a (.ok ()), { s with phase := s.moved w .idle, owner := none })
  | .refused a e =>
    some (.returned w a (.error e), { s with phase := s.moved w .idle, owner := none })

/-- One step, if it can be made. -/
def step? (s : SharedRouter ι) : SharedAction ι → Option (SharedEvent ι × SharedRouter ι)
  | .call w a =>
    match s.phase w with
    | .idle => some (.called w a, { s with phase := s.moved w (.waiting a) })
    | _ => none
  | .advance w => s.advance? w
  | .load i => some (.loaded i s.current, s)

/-- The steps of a schedule, if all of them can be made. -/
def run? : SharedRouter ι → List (SharedAction ι) → Option (List (SharedEvent ι) × SharedRouter ι)
  | s, [] => some ([], s)
  | s, action :: rest => do
    let (event, s) ← s.step? action
    let (events, s) ← s.run? rest
    return (event :: events, s)

end SharedRouter

end Signpost
