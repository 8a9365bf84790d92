import Signpost.Http.Cookie
import Signpost.Http.Method
import Signpost.Http.Version
import Signpost.Request.Query

/-!
# Requests

A request as it was read: its method, version, path, query and headers, all as
octets, and the octets that follow the head.  What is asked for as text is
absent where the octets are no UTF-8.  Header names are compared without regard
to letter case.
-/

namespace Signpost

structure Request where
  method : Method
  version : Version
  /-- Method, path and version with single spaces between: what routes are keyed by. -/
  startLine : Octets
  path : Octets
  /-- What stands between the question mark and the end of the target or its fragment. -/
  queryOctets : Option Octets
  /-- The non-empty segments of the path. -/
  segments : List Octets
  headers : List (Octets × Octets)
  /-- The length of the head with its blank line. -/
  headLength : Nat
  body : Octets
  deriving DecidableEq

namespace Request

def startLineLowercased (r : Request) : Octets := r.startLine.lower

/-- The path as text; empty if it is no UTF-8. -/
def pathText (r : Request) : String := (Utf8.decode? r.path).getD ""

def query? (r : Request) : Option String := r.queryOctets.bind Utf8.decode?

def queryParams (r : Request) : Dictionary String :=
  match r.query? with
  | some query => Query.params query
  | none => []

/-- The first value under a header name. -/
def headerOctets? (r : Request) (name : String) : Option Octets :=
  (r.headers.find? fun (n, _) => n.eqFold (Octets.ofText name)).map Prod.snd

def header? (r : Request) (name : String) : Option String :=
  (r.headerOctets? name).bind Utf8.decode?

def contentType? (r : Request) : Option String := r.header? "content-type"

/-- The length that the `content-length` header declares, if it is a number of 64 bits. -/
def contentLength? (r : Request) : Option Nat :=
  (r.header? "content-length").bind fun value => Numeral.readWord? (Text.trim value)

/-- The pairs of all `cookie` headers, in order. -/
def cookies (r : Request) : List (String × String) :=
  (r.headers.filter fun (name, _) => name.eqFold (Octets.ofText "cookie")).flatMap
    fun (_, value) =>
      match Utf8.decode? value with
      | some header => Cookie.pairs header
      | none => []

def cookie? (r : Request) (name : String) : Option String := r.cookies.lookup name

/-- Whether the declared body is there in full. -/
def isComplete (r : Request) : Bool :=
  match r.contentLength? with
  | some length => length ≤ r.body.length
  | none => true

end Request

end Signpost
