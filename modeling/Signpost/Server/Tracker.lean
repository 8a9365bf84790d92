/-!
# Connection trackers

A tracker counts the connections that are open, as a word of 64 bits, and
remembers that the server is shutting down.
-/

namespace Signpost

structure ConnectionTracker where
  active : UInt64 := 0
  shuttingDown : Bool := false
  deriving DecidableEq, Repr

namespace ConnectionTracker

def increment (t : ConnectionTracker) : ConnectionTracker := { t with active := t.active + 1 }

def decrement (t : ConnectionTracker) : ConnectionTracker := { t with active := t.active - 1 }

def startShutdown (t : ConnectionTracker) : ConnectionTracker := { t with shuttingDown := true }

/-- Whether waiting until no connection is open ends well, where none opens or closes meanwhile.
Without a time limit it may not end at all. -/
def waitForDrain (t : ConnectionTracker) (timeout : Option Nat) : Option Bool :=
  if t.active == 0 then some true else timeout.map fun _ => false

end ConnectionTracker

end Signpost
