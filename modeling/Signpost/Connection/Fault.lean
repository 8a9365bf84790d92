/-!
# Faults of a connection

A peer reports a fault by its kind.  A socket tells apart what a caller can act
on: the peer is not ready, it is gone, it has closed, it took too long, or
anything else.
-/

namespace Signpost

/-- The kinds of fault that a peer reports. -/
inductive FaultKind where
  | wouldBlock
  | brokenPipe
  | connectionReset
  | connectionAborted
  | unexpectedEof
  | writeZero
  | timedOut
  | other
  deriving DecidableEq, Repr

structure PeerFault where
  kind : FaultKind
  text : String
  deriving DecidableEq, Repr

inductive SocketError where
  | wouldBlock
  | brokenPipe
  | closed
  | timedOut
  | other (text : String)
  deriving DecidableEq, Repr

namespace SocketError

def ofFault (fault : PeerFault) : SocketError :=
  match fault.kind with
  | .wouldBlock => wouldBlock
  | .brokenPipe | .connectionReset | .connectionAborted => brokenPipe
  | .unexpectedEof | .writeZero => closed
  | .timedOut => timedOut
  | .other => other fault.text

def message : SocketError → String
  | wouldBlock => "socket would block"
  | brokenPipe => "broken pipe"
  | closed => "connection closed"
  | timedOut => "socket timed out"
  | other text => "socket IO error: " ++ text

/-- Whether the connection is over. -/
def isFatal (e : SocketError) : Bool := e != wouldBlock

end SocketError

end Signpost
