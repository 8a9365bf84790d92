import Signpost.Http.Date

/-!
# Date refreshers

Responses carry the date out of a cache.  A refresher puts the current date
there at its first step and then at a fixed interval, until it is told to stop
or nobody is left who could tell it.  Time passes only while it is waited for;
a tick that falls on the end of a wait is taken at the start of the next one.
-/

namespace Signpost

/-- What a cache shows. -/
inductive CachedDate where
  /-- The time at which it was last refreshed. -/
  | current
  | stored (moment : Moment)
  deriving DecidableEq

structure DateRefresher where
  interval : Nat
  cached : CachedDate
  /-- The milliseconds that have passed. -/
  now : Nat := 0
  /-- When the next tick is due. -/
  nextTick : Nat := 0
  /-- The last word on whether to stop. -/
  stopSignal : Bool := false
  /-- Nobody can send a signal any more. -/
  abandoned : Bool := false
  running : Bool := true

namespace DateRefresher

def store (r : DateRefresher) (moment : Moment) : DateRefresher :=
  { r with cached := .stored moment }

def refresh (r : DateRefresher) : DateRefresher := { r with cached := .current }

def signal (r : DateRefresher) (stop : Bool) : DateRefresher := { r with stopSignal := stop }

def abandon (r : DateRefresher) : DateRefresher := { r with abandoned := true }

/-- The first tick after `nextTick` that is due at `time` or later. -/
def tickFrom (r : DateRefresher) (time : Nat) : Nat :=
  r.nextTick + (time - r.nextTick + r.interval - 1) / r.interval * r.interval

/-- Let time pass. -/
def sleep (r : DateRefresher) (milliseconds : Nat) : DateRefresher :=
  let till := r.now + milliseconds
  if !r.running then { r with now := till }
  else if r.stopSignal || r.abandoned then { r with now := till, running := false }
  else if r.nextTick == r.now || r.nextTick < till then
    { r with now := till, cached := .current, nextTick := r.tickFrom (max till (r.now + 1)) }
  else { r with now := till }

end DateRefresher

end Signpost
