import Signpost.Octets

/-!
# Request methods

The nine methods.  Requests must spell them in upper case; declarations may use
any letter case.
-/

namespace Signpost

inductive Method where
  | get
  | post
  | put
  | delete
  | patch
  | head
  | options
  | connect
  | trace
  deriving DecidableEq, Repr

namespace Method

/-- All methods, in the order of their numbers. -/
def all : List Method := [get, post, put, delete, patch, head, options, connect, trace]

def text : Method → String
  | get => "GET"
  | post => "POST"
  | put => "PUT"
  | delete => "DELETE"
  | patch => "PATCH"
  | head => "HEAD"
  | options => "OPTIONS"
  | connect => "CONNECT"
  | trace => "TRACE"

def wire (m : Method) : Octets := Octets.ofText m.text

/-- The method a request line spells, in upper case. -/
def ofWire? (bytes : Octets) : Option Method := all.find? fun m => m.wire == bytes

/-- The method of a name in any letter case. -/
def ofName? (name : String) : Option Method := all.find? fun m => asciiEqFold m.text name

def number (m : Method) : Nat := all.idxOf m

def ofNumber? (n : Nat) : Option Method := all[n]?

/-- Whether responses to this method leave out the body. -/
def isHead (m : Method) : Bool := m == head

end Method

end Signpost
