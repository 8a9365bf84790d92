import Signpost.Http.Version
import Signpost.Text.Numeral

/-!
# Status codes

A status is a number.  Its class is its hundreds; some codes have a registered
reason phrase.  The status line of a response carries the number alone.
-/

namespace Signpost

structure Status where
  code : Nat
  deriving DecidableEq, Repr

namespace Status

/-- The registered codes with their reason phrases. -/
def registry : List (Nat × String) :=
  [(100, "Continue"), (101, "Switching Protocols"), (200, "OK"), (201, "Created"),
   (202, "Accepted"), (204, "No Content"), (206, "Partial Content"),
   (301, "Moved Permanently"), (302, "Found"), (303, "See Other"), (304, "Not Modified"),
   (307, "Temporary Redirect"), (308, "Permanent Redirect"), (400, "Bad Request"),
   (401, "Unauthorized"), (403, "Forbidden"), (404, "Not Found"),
   (405, "Method Not Allowed"), (408, "Request Timeout"), (409, "Conflict"), (410, "Gone"),
   (413, "Payload Too Large"), (414, "URI Too Long"), (415, "Unsupported Media Type"),
   (422, "Unprocessable Entity"), (429, "Too Many Requests"),
   (431, "Request Header Fields Too Large"), (500, "Internal Server Error"),
   (501, "Not Implemented"), (502, "Bad Gateway"), (503, "Service Unavailable"),
   (504, "Gateway Timeout"), (505, "HTTP Version Not Supported")]

def ok : Status := ⟨200⟩

def badRequest : Status := ⟨400⟩

def unauthorized : Status := ⟨401⟩

def notFound : Status := ⟨404⟩

def payloadTooLarge : Status := ⟨413⟩

def headerFieldsTooLarge : Status := ⟨431⟩

def internalServerError : Status := ⟨500⟩

/-- A code of three digits. -/
def ofCode? (code : Nat) : Option Status :=
  if 100 ≤ code ∧ code ≤ 999 then some ⟨code⟩ else none

def registered? (s : Status) : Option String := registry.lookup s.code

def isKnown (s : Status) : Bool := s.registered?.isSome

def reason (s : Status) : String := s.registered?.getD "Unknown"

/-- The code with its reason phrase. -/
def text (s : Status) : String := Numeral.decimal s.code ++ " " ++ s.reason

/-- Whether the code lies in the class of the given hundreds. -/
def inClass (s : Status) (hundreds : Nat) : Bool := s.code / 100 == hundreds

def isInformational (s : Status) : Bool := s.inClass 1

def isSuccess (s : Status) : Bool := s.inClass 2

def isRedirect (s : Status) : Bool := s.inClass 3

def isClientError (s : Status) : Bool := s.inClass 4

def isServerError (s : Status) : Bool := s.inClass 5

/-- Informational responses, 204 and 304 never carry a body. -/
def allowsBody (s : Status) : Bool :=
  !(s.isInformational || s.code == 204 || s.code == 304)

/-- The first line of a response, without its line end. -/
def lineText (s : Status) (v : Version) : String := v.text ++ " " ++ Numeral.decimal s.code

def line (s : Status) (v : Version) : Octets := Octets.ofText (s.lineText v) ++ Octets.crlf

end Status

end Signpost
