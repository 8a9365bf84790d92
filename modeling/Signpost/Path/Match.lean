import Signpost.Path.Component

/-!
# Matching and capture

A path is held against the segments of a request.  An exact match pairs
components and segments one to one; an open match lets a catch-all take
whatever is left.  `capture` collects what the parameters and the catch-all
stand for, and `instantiate` puts such segments back in their places.
-/

namespace Signpost

/-- Whether literals are compared with or without regard to ASCII letter case. -/
inductive CaseMode where
  | sensitive
  | insensitive
  deriving DecidableEq, Repr

namespace CaseMode

def ofBool : Bool → CaseMode
  | true => sensitive
  | false => insensitive

def isSensitive : CaseMode → Bool
  | sensitive => true
  | insensitive => false

/-- The form of an octet string that is compared. -/
def key : CaseMode → Octets → Octets
  | sensitive, bytes => bytes
  | insensitive, bytes => bytes.lower

def same (mode : CaseMode) (a b : Octets) : Bool := mode.key a == mode.key b

end CaseMode

/-- Whether a component takes a segment. -/
def PathComponent.accepts (mode : CaseMode) : PathComponent → Octets → Bool
  | .literal text, segment => mode.same (Octets.ofText text) segment
  | .parameter _, _ => true
  | .catchAll, _ => true

namespace RoutePath

/-- As many segments as components, each taken by its own. -/
def matchesExact (mode : CaseMode) : List PathComponent → List Octets → Bool
  | [], [] => true
  | c :: cs, s :: ss => c.accepts mode s && matchesExact mode cs ss
  | _, _ => false

/-- Like an exact match up to a catch-all, which takes whatever is left. -/
def matchesOpen (mode : CaseMode) : List PathComponent → List Octets → Bool
  | .catchAll :: _, _ => true
  | [], [] => true
  | c :: cs, s :: ss => c.accepts mode s && matchesOpen mode cs ss
  | _, _ => false

/-- The segments that parameters and a catch-all stand for, in order. -/
def capture : List PathComponent → List Octets → List Octets
  | [], _ => []
  | .catchAll :: _, segments => segments
  | _ :: _, [] => []
  | .parameter _ :: cs, s :: ss => s :: capture cs ss
  | .literal _ :: cs, _ :: ss => capture cs ss

/-- The segments of a path with given values for its parameters and for its catch-all. -/
def instantiate : List PathComponent → List Octets → List Octets → List Octets
  | [], _, _ => []
  | .catchAll :: _, _, tail => tail
  | .parameter _ :: _, [], _ => []
  | .parameter _ :: cs, value :: values, tail => value :: instantiate cs values tail
  | .literal text :: cs, values, tail => Octets.ofText text :: instantiate cs values tail

end RoutePath

end Signpost
