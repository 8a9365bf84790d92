import Signpost.Request.Parse
import Signpost.Response.Error
import Signpost.Router.Error

/-!
# Errors of a server

Every error that serving a connection can end with, and the status with which
the ones that are the client's fault are answered.
-/

namespace Signpost

/-- What is wrong with a configuration. -/
inductive ConfigFault where
  | badNumber (key value : String) (error : Numeral.ReadError)
  | noWorkers (key : String)
  | badAddress (text : String)
  /-- A fault in the words of whoever reports it. -/
  | reported (reason : String)
  deriving DecidableEq, Repr

def ConfigFault.reason : ConfigFault → String
  | badNumber key value error => key ++ "=" ++ Text.quoted value ++ ": " ++ error.message
  | noWorkers key => key ++ " must be at least 1"
  | badAddress text => "invalid address " ++ text ++ ": invalid socket address syntax"
  | reported reason => reason

inductive ServerError where
  | request (error : RequestError)
  | headTooLarge (size limit : Nat)
  | bodyTooLarge (size limit : Nat)
  | config (fault : ConfigFault)
  | socket (error : SocketError)
  | response (error : ResponseError)
  | route (error : RouteError)
  | io (text : String)
  | internal (text : String)
  deriving DecidableEq, Repr

namespace ServerError

def sizes (size limit : Nat) : String :=
  Numeral.decimal size ++ " bytes exceeds limit of " ++ Numeral.decimal limit ++ " bytes"

def message : ServerError → String
  | request error => error.message
  | headTooLarge size limit => "Request head too large: " ++ sizes size limit
  | bodyTooLarge size limit => "Request body too large: " ++ sizes size limit
  | config fault => "Configuration error: " ++ fault.reason
  | socket error => error.message
  | response error => error.message
  | route error => error.message
  | io text => "IO error: " ++ text
  | internal text => "Internal error: " ++ text

/-- The status of the response to a request that could not be read; none if none is due. -/
def requestStatus? : ServerError → Option Status
  | request _ => some Status.badRequest
  | headTooLarge _ _ => some Status.headerFieldsTooLarge
  | bodyTooLarge _ _ => some Status.payloadTooLarge
  | _ => none

end ServerError

end Signpost
