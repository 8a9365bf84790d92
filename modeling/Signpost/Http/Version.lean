import Signpost.Octets

/-!
# Protocol versions
-/

namespace Signpost

/-- The version on a start line. -/
inductive Version where
  | http10
  | http11
  deriving DecidableEq, Repr

namespace Version

def text : Version → String
  | http10 => "HTTP/1.0"
  | http11 => "HTTP/1.1"

def wire (v : Version) : Octets := Octets.ofText v.text

def ofWire? (bytes : Octets) : Option Version :=
  [http11, http10].find? fun v => v.wire == bytes

end Version

end Signpost
