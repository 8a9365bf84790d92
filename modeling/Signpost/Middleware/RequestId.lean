import Signpost.Middleware.Chain

/-!
# Request identifiers

A response tells the identifier of its request.  A trusted client may choose
it, within bounds; otherwise one is made, in one of four forms, from a seed.
The octets of a made identifier come from a shift register; they are no secret.
-/

namespace Signpost

inductive IdForm where
  | uuid
  | nano
  | short
  | counter
  deriving DecidableEq, Repr

namespace IdForm

/-- One step of the shift register. -/
def step (seed : UInt64) : UInt64 :=
  let seed := seed ^^^ (seed <<< 13)
  let seed := seed ^^^ (seed >>> 7)
  seed ^^^ (seed <<< 17)

/-- Octets that follow from a seed. -/
def randomOctets : Nat → UInt64 → Octets
  | 0, _ => []
  | n + 1, seed =>
    let seed := step seed
    (seed >>> 24).toUInt8 :: randomOctets n seed

def alphanumerics : List Char :=
  "0123456789ABCDEFGHIJKLMNOPQRSTUVWXYZabcdefghijklmnopqrstuvwxyz".toList

/-- One letter of an alphabet for every octet. -/
def spelled (alphabet : List Char) (bytes : Octets) : String :=
  String.ofList (bytes.map fun b => alphabet[b.toNat % alphabet.length]?.getD '0')

/-- The octets of a random UUID, with version and variant set, in hexadecimal groups. -/
def uuidText (bytes : Octets) : String :=
  let marked := bytes.zipIdx.map fun (b, i) =>
    if i == 6 then (b &&& 0x0F) ||| 0x40 else if i == 8 then (b &&& 0x3F) ||| 0x80 else b
  let group (start length : Nat) := Numeral.hexOctets ((marked.drop start).take length)
  group 0 4 ++ "-" ++ group 4 2 ++ "-" ++ group 6 2 ++ "-" ++ group 8 2 ++ "-" ++ group 10 6

/-- The identifier of this form that a seed gives. -/
def generate (form : IdForm) (seed : UInt64) : String :=
  match form with
  | uuid => uuidText (randomOctets 16 seed)
  | nano => spelled (alphanumerics ++ ['_', '-']) (randomOctets 21 seed)
  | short => spelled alphanumerics (randomOctets 8 seed)
  | counter => Numeral.padded 16 16 seed.toNat

end IdForm

/-- Middleware that sets the request identifier of responses. -/
structure RequestId where
  form : IdForm := .nano
  /-- Whether a well-formed identifier of the client is kept. -/
  trusting : Bool := false
  seed : UInt64 := 1

namespace RequestId

/-- The longest identifier a client may choose. -/
def maxLength : Nat := 128

/-- The octets an identifier of a client may hold. -/
def isIdOctet (b : UInt8) : Bool := Octet.isAlnum b || b == 0x2D || b == 0x5F || b == 0x2E

/-- The identifier that a client has chosen, if it is in bounds. -/
def chosen? (request : Request) : Option String :=
  (request.header? "x-request-id").filter fun id =>
    let bytes := Octets.ofText id
    !bytes.isEmpty && bytes.length ≤ maxLength && bytes.all isIdOctet

def idFor (r : RequestId) (request : Request) : String :=
  let given? := if r.trusting then chosen? request else none
  given?.getD (r.form.generate r.seed)

def middleware (r : RequestId) : Middleware := fun request response =>
  (.pass, { response with head := response.head.set (.standard .xRequestId) (r.idFor request) })

end RequestId

end Signpost
