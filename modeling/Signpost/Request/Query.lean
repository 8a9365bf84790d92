import Signpost.Text.Dictionary
import Signpost.Text.Numeral
import Signpost.Text.Split
import Signpost.Text.Utf8

/-!
# Query strings

A query is a list of pairs in form encoding: a plus stands for a space, and a
percent sign with two characters after it for the octet they name.  A percent
sign that names no octet stands for itself.
-/

namespace Signpost.Query

/-- The octet that two octets name as an 8-bit hexadecimal number. -/
def escapedOctet? (a b : UInt8) : Option UInt8 := do
  let text ← Utf8.decode? [a, b]
  let value ← (Numeral.read 16 255 text).toOption
  return UInt8.ofNat value

/-- Undo form encoding, octet by octet. -/
def decodeOctets : Octets → Octets
  | 0x25 :: a :: b :: rest =>
    match escapedOctet? a b with
    | some octet => octet :: decodeOctets rest
    | none => 0x25 :: decodeOctets (a :: b :: rest)
  | 0x2B :: rest => Octets.space :: decodeOctets rest
  | octet :: rest => octet :: decodeOctets rest
  | [] => []

/-- Undo form encoding.  Octets that are no UTF-8 are read leniently. -/
def decode (text : String) : String := Utf8.decodeLenient (decodeOctets (Octets.ofText text))

/-- The decoded names and values, in order.  Pieces without an equals sign are passed over. -/
def pairs (query : String) : List (String × String) :=
  (pieces '&' query.toList).filterMap fun piece =>
    (cut? '=' piece).map fun (name, value) =>
      (decode (String.ofList name), decode (String.ofList value))

/-- The value of every name; the last one counts. -/
def params (query : String) : Dictionary String := Dictionary.ofPairs (pairs query)

end Signpost.Query
