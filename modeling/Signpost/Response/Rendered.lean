import Signpost.Response.Buffer
import Signpost.Response.Template

/-!
# Rendered responses

A template is rendered once, when its route is compiled.  What is left to do
for a request is to put in the date and to send the chunks of a streamed body.
-/

namespace Signpost

namespace DateSplit

/-- Put the spans into a buffer, with a date between them. -/
def writeInto? (d : DateSplit) (date : Octets) (c : Cursor) : Option Cursor :=
  c.putAll? [d.front, date, d.back]

/-- Write the spans to a socket, with a date between them. -/
def write (d : DateSplit) (date : Octets) (s : Socket) : Except SocketError Unit × Socket :=
  s.writeGathered [d.front, date, d.back]

/-- Write the spans to a socket, without a date. -/
def writeUndated (d : DateSplit) (s : Socket) : Except SocketError Unit × Socket :=
  s.writeGathered [d.front, d.back]

end DateSplit

/-- A response that is ready to be sent. -/
inductive RenderedResponse where
  | bytes (whole : Octets)
  /-- A response whose body is text. -/
  | text (whole : Octets)
  | datedText (spans : DateSplit)
  | datedBytes (spans : DateSplit)
  | chunked (head : DateSplit) (dated : Bool) (chunks : Chunks)

namespace RenderedResponse

/-- The length of the response, or of its head if it is chunked. -/
def byteCount : RenderedResponse → Nat
  | bytes whole => whole.length
  | text whole => whole.length
  | datedText d => d.length
  | datedBytes d => d.length
  | chunked d true _ => d.length
  | chunked d false _ => d.front.length + d.back.length

/-- Put the response, or its head if it is chunked, into a buffer. -/
def writeInto? (r : RenderedResponse) (date : Octets) (c : Cursor) : Option Cursor :=
  match r with
  | bytes whole => c.put? whole
  | text whole => c.put? whole
  | datedText d => d.writeInto? date c
  | datedBytes d => d.writeInto? date c
  | chunked d true _ => d.writeInto? date c
  | chunked d false _ => c.putAll? [d.front, d.back]

def isDated : RenderedResponse → Bool
  | datedText _ | datedBytes _ => true
  | chunked _ dated _ => dated
  | bytes _ | text _ => false

def isChunked : RenderedResponse → Bool
  | chunked _ _ _ => true
  | _ => false

/-- Write a part of a response to a socket. -/
def sent (result : Except SocketError Unit × Socket) : Except ResponseError Unit × Socket :=
  (result.1.mapError .socket, result.2)

/-- Write the whole response to a socket. -/
def respond (r : RenderedResponse) (date : Octets) (s : Socket) :
    Except ResponseError Unit × Socket :=
  match r with
  | bytes whole => sent (s.write whole)
  | text whole => sent (s.write whole)
  | datedText d => sent (d.write date s)
  | datedBytes d => sent (d.write date s)
  | chunked d dated chunks =>
    match if dated then d.write date s else d.writeUndated s with
    | (.ok (), s) => chunks.write s
    | (.error e, s) => (.error (.socket e), s)

end RenderedResponse

namespace RouteTemplate

/-- Render a body of known length behind its head. -/
def renderSized (t : RouteTemplate) (framing : Framing) : RenderedResponse :=
  let head := t.head.render framing t.dated
  let body := t.body.octets
  if t.dated then
    let spans : DateSplit := { head with back := head.back ++ body }
    match t.body with
    | .text _ => .datedText spans
    | _ => .datedBytes spans
  else
    match t.body with
    | .text _ => .text (head.front ++ body)
    | _ => .bytes (head.front ++ body)

/-- Render a template, or say why it cannot be sent. -/
def compile (t : RouteTemplate) : Except HeadError RenderedResponse := do
  t.head.check
  match t.body with
  | .chunked chunks =>
    if t.head.status.allowsBody then
      return .chunked (t.head.render .chunked t.dated) t.dated chunks
    else throw (.bodyNotAllowed t.head.status.code)
  | body =>
    let framing ← t.head.framingFor body.octets.length
    return t.renderSized framing

end RouteTemplate

end Signpost
