import Signpost.Text.Dictionary
import Signpost.Text.Shortest

/-!
# JSON values

The values that JSON bodies carry, and their compact text.  The members of an
object stand in the order of their names.
-/

namespace Signpost

inductive JsonValue where
  | null
  | bool (value : Bool)
  | int (value : Int)
  /-- A number that is no integer of 64 bits. -/
  | real (negative : Bool) (size : BinaryFraction)
  | string (text : String)
  | array (items : List JsonValue)
  | object (members : List (String × JsonValue))
  deriving Inhabited

namespace JsonValue

/-- How one character is written in a string. -/
def escaped (c : Char) : String :=
  match c with
  | '"' => "\\\""
  | '\\' => "\\\\"
  | '\x08' => "\\b"
  | '\x0c' => "\\f"
  | '\n' => "\\n"
  | '\r' => "\\r"
  | '\t' => "\\t"
  | c => if c < ' ' then "\\u" ++ Numeral.padded 16 4 c.toNat else c.toString

def quoted (text : String) : String :=
  "\"" ++ String.join (text.toList.map escaped) ++ "\""

/-- An object of members in any order; the last value of a name counts. -/
def ofMembers (members : List (String × JsonValue)) : JsonValue :=
  object (Dictionary.ofPairs members)

/-- The number `mantissa / 10 ^ decimals`.  Without decimals it stays an integer as far as 64 bits
reach. -/
def ofDecimal (mantissa : Int) (decimals : Nat) : JsonValue :=
  if decimals == 0 && Int64.minValue.toInt ≤ mantissa && mantissa < UInt64.size then int mantissa
  else real (mantissa < 0) (.nearest mantissa.natAbs (Nat.pow 10 decimals))

mutual

/-- The compact text of a value. -/
def render : JsonValue → String
  | null => "null"
  | bool true => "true"
  | bool false => "false"
  | int value => Numeral.decimalInt value
  | real negative size => (if negative then "-" else "") ++ size.text
  | string text => quoted text
  | array [] => "[]"
  | array (item :: items) => "[" ++ render item ++ renderItems items ++ "]"
  | object [] => "\x7b\x7d"
  | object ((name, value) :: members) =>
    "\x7b" ++ quoted name ++ ":" ++ render value ++ renderMembers members ++ "\x7d"

/-- The items after the first. -/
def renderItems : List JsonValue → String
  | [] => ""
  | item :: items => "," ++ render item ++ renderItems items

/-- The members after the first. -/
def renderMembers : List (String × JsonValue) → String
  | [] => ""
  | (name, value) :: members =>
    "," ++ quoted name ++ ":" ++ render value ++ renderMembers members

end

end JsonValue

end Signpost
