import Signpost.Response.Chunk
import Signpost.Response.Head

/-!
# Route templates

A template is the head and the body that a route is declared with.  A static
route answers with it; the response of a dynamic route starts out as it.
-/

namespace Signpost

/-- A declared body. -/
inductive TemplateBody where
  | empty
  | bytes (content : Octets)
  | text (content : String)
  | chunked (chunks : Chunks)

namespace TemplateBody

/-- The octets of a body of known length. -/
def octets : TemplateBody → Octets
  | empty => []
  | bytes content => content
  | text content => Octets.ofText content
  | chunked _ => []

/-- The length, where it is known beforehand. -/
def length? : TemplateBody → Option Nat
  | chunked _ => none
  | body => some body.octets.length

def isEmpty (b : TemplateBody) : Bool := b.length? == some 0

end TemplateBody

structure RouteTemplate where
  head : ResponseHead := {}
  body : TemplateBody := .empty
  /-- Whether responses carry the current date. -/
  dated : Bool := false

namespace RouteTemplate

/-- An empty response of a status. -/
def ofStatus (status : Status) : RouteTemplate := { head := { status } }

/-- A body under a content type. -/
def ofBody (contentType : ContentType) (body : TemplateBody) : RouteTemplate :=
  { head := { contentType := some contentType }, body }

def text (content : String) : RouteTemplate := ofBody { mediaType := .plain } (.text content)

def html (content : String) : RouteTemplate :=
  ofBody { mediaType := .html, charset := some .utf8 } (.text content)

def json (content : String) : RouteTemplate := ofBody { mediaType := .json } (.text content)

def bytes (mediaType : MediaType) (content : Octets) : RouteTemplate :=
  ofBody { mediaType } (.bytes content)

def chunked (mediaType : MediaType) (chunks : Chunks) : RouteTemplate :=
  ofBody { mediaType } (.chunked chunks)

/-- The status of a redirection that keeps the method. -/
def redirectStatus (permanent : Bool) : Status := if permanent then ⟨308⟩ else ⟨307⟩

def redirect (location : String) (permanent : Bool) : RouteTemplate :=
  { head := ({ status := redirectStatus permanent } : ResponseHead).append
      (.standard .location) location }

end RouteTemplate

end Signpost
