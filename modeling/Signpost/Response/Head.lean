import Signpost.Http.HeadError
import Signpost.Http.MediaType

/-!
# Response heads

A head is a status line, header lines, cookie lines, a content type and the
line that frames the body.  It is rendered in two spans, before and after the
place of the date, so that the date can be put in when the response goes out.

`ResponseHead.check` refuses headers that a response writes of its own accord,
and values that leave their line.
-/

namespace Signpost

/-- How the end of the body is told. -/
inductive Framing where
  | length (octets : Nat)
  | chunked
  /-- There is no body. -/
  | bare
  deriving DecidableEq, Repr

/-- A rendered text in two spans, with the date between them. -/
structure DateSplit where
  front : Octets
  back : Octets
  deriving DecidableEq

namespace DateSplit

/-- The length with the date. -/
def length (d : DateSplit) : Nat := d.front.length + dateLength + d.back.length

end DateSplit

structure ResponseHead where
  version : Version := .http11
  status : Status := Status.ok
  contentType : Option ContentType := none
  headers : List (HeaderName × String) := []
  cookies : List Cookie := []
  deriving DecidableEq

namespace ResponseHead

/-- Add a header behind those that are there. -/
def append (h : ResponseHead) (name : HeaderName) (value : String) : ResponseHead :=
  { h with headers := h.headers ++ [(name, value)] }

def remove (h : ResponseHead) (name : HeaderName) : ResponseHead :=
  { h with headers := h.headers.filter fun (n, _) => n != name }

/-- Make a value the only one under its name. -/
def set (h : ResponseHead) (name : HeaderName) (value : String) : ResponseHead :=
  (h.remove name).append name value

/-- The first value under a name. -/
def get? (h : ResponseHead) (name : HeaderName) : Option String := h.headers.lookup name

def addCookie (h : ResponseHead) (cookie : Cookie) : ResponseHead :=
  { h with cookies := h.cookies ++ [cookie] }

/-- Whether a header of this name is written from other parts of the head. -/
def isReserved (name : HeaderName) : Bool :=
  name.isFraming || name == .standard .contentType || name == .standard .setCookie

def checkHeader (name : HeaderName) (value : String) : Except HeadError Unit :=
  if isReserved name then .error (.invalidName name.text) else name.checkValue value

/-- Refuse the first header, or else the first cookie, that would spoil the head. -/
def check (h : ResponseHead) : Except HeadError Unit := do
  h.headers.forM fun (name, value) => checkHeader name value
  h.cookies.forM fun cookie => cookie.check.mapError .cookie

/-- A header line. -/
def headerLine (name value : String) : Octets :=
  Octets.ofText name ++ Octets.ofText ": " ++ Octets.ofText value ++ Octets.crlf

/-- The lines between the place of the date and the framing. -/
def fieldLines (h : ResponseHead) : List Octets :=
  h.headers.map (fun (name, value) => headerLine name.text value) ++
    h.cookies.map (fun cookie => headerLine "set-cookie" cookie.render) ++
    h.contentType.toList.map (fun c => headerLine "content-type" c.text)

def framingLines : Framing → List Octets
  | .length n => [headerLine "content-length" (Numeral.decimal n)]
  | .chunked => [headerLine "transfer-encoding" "chunked"]
  | .bare => []

/-- Everything after the place of the date, with the blank line that ends the head. -/
def tail (h : ResponseHead) (framing : Framing) : Octets :=
  (h.fieldLines ++ framingLines framing).flatten ++ Octets.crlf

def dateLabel : Octets := Octets.ofText "date: "

/-- The head in two spans.  Where no date is wanted all of it stands in the first. -/
def render (h : ResponseHead) (framing : Framing) (dated : Bool) : DateSplit :=
  let line := h.status.line h.version
  if dated then ⟨line ++ dateLabel, Octets.crlf ++ h.tail framing⟩
  else ⟨line ++ h.tail framing, []⟩

/-- The framing of a body of known length.  Without leave of the status only an empty one goes. -/
def framingFor (h : ResponseHead) (length : Nat) : Except HeadError Framing :=
  if h.status.allowsBody then .ok (.length length)
  else if length == 0 then .ok .bare
  else .error (.bodyNotAllowed h.status.code)

end ResponseHead

end Signpost
