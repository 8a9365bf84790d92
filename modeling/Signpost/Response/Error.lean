import Signpost.Connection.Fault
import Signpost.Http.HeadError

/-!
# Why a response fails

A response can fail while it is made, by middleware or by its handler, while it
is written, or before either because the request was refused.
-/

namespace Signpost

inductive ResponseError where
  | socket (error : SocketError)
  | middleware (status : Status) (message : String)
  | head (error : HeadError)
  /-- A source of chunks failed. -/
  | stream (message : String)
  | handler (message : String)
  /-- The request was not read, or was refused. -/
  | rejected (status : Status) (message : String)
  deriving DecidableEq, Repr

namespace ResponseError

def message : ResponseError → String
  | socket error => error.message
  | middleware status message => "middleware error (" ++ status.text ++ "): " ++ message
  | head error => error.message
  | stream message => "stream error: " ++ message
  | handler message => "handler error: " ++ message
  | rejected _ message => message

/-- The status that an error response carries. -/
def status : ResponseError → Status
  | middleware status _ => status
  | rejected status _ => status
  | _ => Status.internalServerError

def isSocket : ResponseError → Bool
  | socket _ => true
  | _ => false

end ResponseError

end Signpost
