import Signpost.Http.HeaderName
import Signpost.Request.Basic
import Signpost.Text.Quoted

/-!
# Reading a request

The octets up to the first blank line are the head: a request line and header
lines.  `Request.parse` answers `none` while there is no blank line.  Faults are
looked for from left to right: the request line, the target, the number of path
segments, and then the header lines one by one.
-/

namespace Signpost

/-- What is wrong with a request head. -/
inductive RequestFault where
  | noTarget
  | noVersion
  | unsupportedVersion (text : String)
  | notOriginPath
  | controlInTarget
  | tooManySegments
  | headerWithoutColon
  | invalidHeaderName (name : String)
  | tooManyHeaders
  | invalidContentLength (value : String)
  | incompleteHead
  /-- A fault in the words of whoever reports it. -/
  | reported (reason : String)
  deriving DecidableEq, Repr

/-- Path segments admitted in one request. -/
def maxSegments : Nat := 32

/-- Header lines admitted in one request. -/
def maxHeaders : Nat := 64

def RequestFault.reason : RequestFault → String
  | noTarget => "request line has no target"
  | noVersion => "request line has no version"
  | unsupportedVersion text => "unsupported version " ++ Text.quoted text
  | notOriginPath => "request target must be an origin path"
  | controlInTarget => "control character in request target"
  | tooManySegments => "more than " ++ Numeral.decimal maxSegments ++ " path components"
  | headerWithoutColon => "header line without ':'"
  | invalidHeaderName name => "invalid header name " ++ Text.quoted name
  | tooManyHeaders => "more than " ++ Numeral.decimal maxHeaders ++ " headers"
  | invalidContentLength value => "invalid content-length: " ++ Text.quoted value
  | incompleteHead => "incomplete request head"
  | reported reason => reason

/-- Why octets are no request. -/
inductive RequestError where
  | invalidMethod (name : String)
  | malformed (fault : RequestFault)
  deriving DecidableEq, Repr

def RequestError.message : RequestError → String
  | invalidMethod name => "Invalid HTTP method: " ++ name
  | malformed fault => "Parse error: " ++ fault.reason

/-- Read the name of a method in any letter case. -/
def Method.parse (name : String) : Except RequestError Method :=
  match ofName? name with
  | some m => .ok m
  | none => .error (.invalidMethod name)

namespace Request

/-- The parts of a request line. -/
structure Line where
  method : Method
  target : Octets
  version : Version
  deriving DecidableEq

/-- A method, a target and a version with single spaces between them. -/
def parseLine (line : Octets) : Except RequestError Line :=
  match cut? Octets.space line with
  | none => .error (.malformed .noTarget)
  | some (name, rest) =>
    match Method.ofWire? name with
    | none => .error (.invalidMethod (Utf8.decodeLenient name))
    | some method =>
      match cut? Octets.space rest with
      | none => .error (.malformed .noVersion)
      | some (target, text) =>
        match Version.ofWire? text with
        | none => .error (.malformed (.unsupportedVersion (Utf8.decodeLenient text)))
        | some version => .ok { method, target, version }

/-- A target is a path, or the asterisk alone, and holds no control character. -/
def checkTarget (target : Octets) : Except RequestError Unit :=
  if !(target.head? == some Octets.slash || target == [0x2A]) then
    .error (.malformed .notOriginPath)
  else if target.any Octet.isControl then .error (.malformed .controlInTarget)
  else .ok ()

/-- The path and the query of a target.  A fragment is left aside. -/
def splitTarget (target : Octets) : Octets × Option Octets :=
  let sent := upTo 0x23 target
  match cut? 0x3F sent with
  | some (path, query) => (path, some query)
  | none => (sent, none)

/-- A name of token octets, and a value without the padding around it. -/
def parseHeader (line : Octets) : Except RequestError (Octets × Octets) :=
  match cut? Octets.colon line with
  | none => .error (.malformed .headerWithoutColon)
  | some (name, value) =>
    if !Octets.isTokenText name then
      .error (.malformed (.invalidHeaderName (Utf8.decodeLenient name)))
    else .ok (name, Octets.strip value)

/-- Read header lines while there is room for `room` more. -/
def parseHeaders : Nat → List Octets → Except RequestError (List (Octets × Octets))
  | _, [] => .ok []
  | room, line :: rest =>
    match parseHeader line with
    | .error e => .error e
    | .ok header =>
      match room with
      | 0 => .error (.malformed .tooManyHeaders)
      | room + 1 => (parseHeaders room rest).map (header :: ·)

/-- The start line of a request: its own line where that carries nothing but the path. -/
def canonicalLine (own : Octets) (line : Line) (path : Octets) : Octets :=
  if path == line.target then own
  else line.method.wire ++ Octets.space :: path ++ Octets.space :: line.version.wire

/-- Read a head, given without its blank line, followed by a body. -/
def parseHead (head body : Octets) : Except RequestError Request := do
  let (own, headerLines) ← match head.lines with
    | [] => .ok (head, [])
    | own :: rest => .ok (own, rest)
  let line ← parseLine own
  checkTarget line.target
  let (path, query) := splitTarget line.target
  let segments := fullPieces Octets.slash path
  if maxSegments < segments.length then
    throw (.malformed .tooManySegments)
  let headers ← parseHeaders maxHeaders headerLines
  return {
    method := line.method
    version := line.version
    startLine := canonicalLine own line path
    path
    queryOctets := query
    segments
    headers
    headLength := head.length + Octets.headEnd.length
    body }

/-- The request that octets start with; none while its head has no end. -/
def parse (bytes : Octets) : Except RequestError (Option Request) :=
  match cutMark? Octets.headEnd bytes with
  | none => .ok none
  | some (head, body) => (parseHead head body).map some

end Request

end Signpost
