import Signpost.Http.Cookie
import Signpost.Http.HeaderName
import Signpost.Http.Status
import Signpost.Text.Quoted

/-!
# Faults of a response head
-/

namespace Signpost

def CookieError.message : CookieError → String
  | .invalidName name => "invalid cookie name: " ++ Text.quoted name
  | .invalidValue name => "invalid value for cookie " ++ Text.quoted name
  | .invalidAttribute name part =>
    "invalid " ++ part ++ " attribute for cookie " ++ Text.quoted name

/-- Why a head cannot be written. -/
inductive HeadError where
  | invalidName (name : String)
  | invalidValue (name : String)
  | bodyNotAllowed (status : Nat)
  | cookie (error : CookieError)
  deriving DecidableEq, Repr

def HeadError.message : HeadError → String
  | .invalidName name => "invalid header name: " ++ Text.quoted name
  | .invalidValue name => "invalid value for header " ++ Text.quoted name
  | .bodyNotAllowed status => "status " ++ Numeral.decimal status ++ " does not allow a body"
  | .cookie error => error.message

namespace HeaderName

/-- Read a header name in any letter case. -/
def parse (name : String) : Except HeadError HeaderName :=
  match ofText? name with
  | some known => .ok known
  | none => .error (.invalidName name)

/-- Refuse a value that does not stay within the line of its header. -/
def checkValue (name : HeaderName) (value : String) : Except HeadError Unit :=
  if HeaderValue.isValid value then .ok () else .error (.invalidValue name.text)

end HeaderName

end Signpost
