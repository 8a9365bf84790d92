import Signpost.Request.Basic
import Signpost.Response.Dynamic

/-!
# Middleware chains

Middleware sees a request before its handler does and may change the response
that the handler gets.  It lets the request pass, stops it, in which case the
response is sent as it is, or fails.  A chain is run in order up to the first
that does not let the request pass.
-/

namespace Signpost

/-- A failure of middleware, with the status for the error response. -/
structure MiddlewareError where
  status : Status
  message : String
  deriving DecidableEq, Repr

def MiddlewareError.toResponseError (e : MiddlewareError) : ResponseError :=
  .middleware e.status e.message

inductive Verdict where
  | pass
  | stop
  | fail (error : MiddlewareError)
  deriving DecidableEq, Repr

abbrev Middleware := Request → DynamicResponse → Verdict × DynamicResponse

/-- Middleware in the order it is run. -/
abbrev MiddlewareChain := List Middleware

/-- Run a chain up to the first verdict that does not let the request pass. -/
def MiddlewareChain.run :
    MiddlewareChain → Request → DynamicResponse → Verdict × DynamicResponse
  | [], _, response => (.pass, response)
  | m :: rest, request, response =>
    match m request response with
    | (.pass, response) => run rest request response
    | halted => halted

end Signpost
