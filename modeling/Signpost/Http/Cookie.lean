import Signpost.Http.Date
import Signpost.Text.Blank
import Signpost.Text.Split

/-!
# Cookies

A response cookie has a name, a value and attributes.  `Cookie.check` admits
those whose parts cannot run into each other in the header value; `Cookie.render`
writes it.  A request carries pairs of names and values, read by `Cookie.pairs`.
-/

namespace Signpost

inductive SameSite where
  | strict
  | lax
  | cross
  deriving DecidableEq, Repr

def SameSite.text : SameSite → String
  | strict => "Strict"
  | lax => "Lax"
  | cross => "None"

structure Cookie where
  name : String
  value : String
  path : Option String := none
  domain : Option String := none
  expires : Option Moment := none
  maxAge : Option Int := none
  secure : Bool := false
  httpOnly : Bool := false
  sameSite : Option SameSite := none
  deriving DecidableEq

/-- Why a cookie cannot be written. -/
inductive CookieError where
  | invalidName (name : String)
  | invalidValue (name : String)
  | invalidAttribute (name part : String)
  deriving DecidableEq, Repr

namespace Cookie

/-- The cookie that makes a client forget one of its name. -/
def deletion (name : String) : Cookie := { name, value := "", maxAge := some 0 }

/-- The octets of a cookie value: visible ASCII without quote, comma, semicolon and backslash. -/
def isValueOctet (b : UInt8) : Bool :=
  Octet.isGraphic b && b != 0x22 && b != 0x2C && b != 0x3B && b != 0x5C

/-- The octets of a path or domain: visible ASCII without the semicolon. -/
def isAttributeOctet (b : UInt8) : Bool := Octet.isGraphic b && b != 0x3B

/-- What stands between double quotes, if they enclose the octets. -/
def unquoted (bytes : Octets) : Octets :=
  match bytes with
  | 0x22 :: rest => if rest.getLast? == some 0x22 then rest.dropLast else bytes
  | _ => bytes

def hasValidValue (c : Cookie) : Bool := (unquoted (Octets.ofText c.value)).all isValueOctet

def hasValidPath (c : Cookie) : Bool :=
  match c.path with
  | none => true
  | some path => (Octets.ofText path).all isAttributeOctet

def hasValidDomain (c : Cookie) : Bool :=
  match c.domain with
  | none => true
  | some domain => !domain.isEmpty && (Octets.ofText domain).all isAttributeOctet

/-- Refuse the first part that is out of order.  A cookie for cross-site use must be secure. -/
def check (c : Cookie) : Except CookieError Unit :=
  if !(Octets.ofText c.name).isTokenText then .error (.invalidName c.name)
  else if !c.hasValidValue then .error (.invalidValue c.name)
  else if !c.hasValidPath then .error (.invalidAttribute c.name "Path")
  else if !c.hasValidDomain then .error (.invalidAttribute c.name "Domain")
  else if c.sameSite == some .cross && !c.secure then .error (.invalidAttribute c.name "SameSite")
  else .ok ()

/-- The attributes that a cookie has, in the order they are written. -/
def attributes (c : Cookie) : List String :=
  [c.path.map ("Path=" ++ ·), c.domain.map ("Domain=" ++ ·),
   c.expires.map fun moment => "Expires=" ++ moment.text,
   c.maxAge.map fun seconds => "Max-Age=" ++ Numeral.decimalInt seconds,
   if c.secure then some "Secure" else none, if c.httpOnly then some "HttpOnly" else none,
   c.sameSite.map fun s => "SameSite=" ++ s.text].filterMap id

/-- The value of a `set-cookie` line. -/
def render (c : Cookie) : String :=
  c.name ++ "=" ++ c.value ++ String.join (c.attributes.map ("; " ++ ·))

/-- One piece of a `cookie` line: a name that is not blank, and a value. -/
def pair? (piece : List Char) : Option (String × String) :=
  match cut? '=' piece with
  | none => none
  | some (name, value) =>
    let name := Text.trimChars name
    if name.isEmpty then none
    else some (String.ofList name, String.ofList (Text.trimChars value))

/-- The pairs of a `cookie` line, in order.  Pieces without a name are passed over. -/
def pairs (header : String) : List (String × String) :=
  (pieces ';' header.toList).filterMap pair?

end Cookie

end Signpost
