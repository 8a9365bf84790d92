import Signpost.JsonValue
import Signpost.Response.Rendered
import Signpost.Text.Utf8

/-!
# Dynamic responses

A handler fills in a response for one request.  It is written with the current
date: head and body together, or the head and then chunk by chunk.  A response
to a request for the head alone keeps the head as it is and leaves out the body.
-/

namespace Signpost

inductive Body where
  | empty
  | bytes (content : Octets)
  | text (content : String)
  | json (value : JsonValue)
  | stream (chunks : Chunks)

namespace Body

def isStream : Body → Bool
  | stream _ => true
  | _ => false

/-- The content type of a body that is sent without one being set. -/
def defaultContentType? : Body → Option ContentType
  | text _ => some { mediaType := .plain, charset := some .utf8 }
  | json _ => some { mediaType := .json }
  | bytes _ => some { mediaType := .octetStream }
  | empty | stream _ => none

/-- The octets of a body of known length; a stream has none. -/
def octets : Body → Octets
  | empty => []
  | bytes content => content
  | text content => Octets.ofText content
  | json value => Octets.ofText value.render
  | stream _ => []

/-- The octets of a body, if its length is known. -/
def sized? : Body → Option Octets
  | stream _ => none
  | body => some body.octets

/-- The text of a body of known length, if it is one. -/
def text? : Body → Option String
  | text content => some content
  | bytes content => Utf8.decode? content
  | json value => some value.render
  | empty => some ""
  | stream _ => none

end Body

structure DynamicResponse where
  head : ResponseHead := {}
  body : Body := .empty
  /-- The captured segments, those of a catch-all last. -/
  parameters : List String := []

namespace DynamicResponse

def ofStatus (status : Status) : DynamicResponse := { head := { status } }

def ok : DynamicResponse := {}

/-- A response that starts out as a template. -/
def ofTemplate (t : RouteTemplate) : DynamicResponse where
  head := t.head
  body :=
    match t.body with
    | .empty => .empty
    | .bytes content => .bytes content
    | .text content => .text content
    | .chunked chunks => .stream chunks

def text (content : String) : DynamicResponse := { body := .text content }

def json (value : JsonValue) : DynamicResponse := { body := .json value }

def html (content : String) : DynamicResponse :=
  { head := { contentType := some { mediaType := .html, charset := some .utf8 } }
    body := .text content }

def redirect (location : String) (permanent : Bool) : DynamicResponse :=
  { head := ({ status := RouteTemplate.redirectStatus permanent } : ResponseHead).set
      (.standard .location) location }

def notFound : DynamicResponse :=
  { head := { status := Status.notFound }, body := .text "Not Found" }

def internalError (message : String) : DynamicResponse :=
  { head := { status := Status.internalServerError }, body := .text message }

def withStatus (r : DynamicResponse) (status : Status) : DynamicResponse :=
  { r with head := { r.head with status } }

def withBody (r : DynamicResponse) (body : Body) : DynamicResponse := { r with body }

/-- The head that is sent: with a content type for its body, and found to be in order. -/
def finalHead (r : DynamicResponse) : Except HeadError ResponseHead := do
  let head := { r.head with contentType := r.head.contentType <|> r.body.defaultContentType? }
  head.check
  if r.body.isStream && !head.status.allowsBody then
    throw (.bodyNotAllowed head.status.code)
  return head

/-- The whole response as octets.  A streamed one cannot be had so. -/
def toBytes (r : DynamicResponse) (date : Octets) : Except ResponseError Octets := do
  let head ← r.finalHead.mapError .head
  match r.body.sized? with
  | none => throw (.handler "streaming bodies cannot be rendered to bytes")
  | some body =>
    let framing ← (head.framingFor body.length).mapError .head
    let spans := head.render framing true
    return spans.front ++ date ++ spans.back ++ body

/-- Write the response to a socket, or only its head. -/
def write (r : DynamicResponse) (date : Octets) (omitBody : Bool) (s : Socket) :
    Except ResponseError Unit × Socket :=
  match r.finalHead with
  | .error e => (.error (.head e), s)
  | .ok head =>
    match r.body with
    | .stream chunks =>
      match (head.render .chunked true).write date s with
      | (.error e, s) => (.error (.socket e), s)
      | (.ok (), s) => if omitBody then (.ok (), s) else chunks.write s
    | body =>
      match head.framingFor body.octets.length with
      | .error e => (.error (.head e), s)
      | .ok framing =>
        let spans := head.render framing true
        RenderedResponse.sent
          (s.writeGathered [spans.front, date, spans.back, if omitBody then [] else body.octets])

end DynamicResponse

end Signpost
