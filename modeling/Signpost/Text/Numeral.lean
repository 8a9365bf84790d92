import Signpost.Octets

/-!
# Numerals

Unsigned numbers are read from digits of a base up to 16, under a largest
value.  An error names the first digit from the left at which reading fails.
Numbers are written in decimal, in lower-case hexadecimal, and with a fixed
number of decimal places.
-/

namespace Signpost.Numeral

/-- Why a text is no number below the bound. -/
inductive ReadError where
  | empty
  | invalidDigit
  | tooLarge
  deriving DecidableEq, Repr

def ReadError.message : ReadError → String
  | .empty => "cannot parse integer from empty string"
  | .invalidDigit => "invalid digit found in string"
  | .tooLarge => "number too large to fit in target type"

/-- The value of a digit, in either letter case. -/
def digitValue? (base : Nat) (c : Char) : Option Nat :=
  let value? :=
    if c.isDigit then some (c.toNat - '0'.toNat)
    else if 'a' ≤ c ∧ c ≤ 'z' then some (c.toNat - 'a'.toNat + 10)
    else if 'A' ≤ c ∧ c ≤ 'Z' then some (c.toNat - 'A'.toNat + 10)
    else none
  value?.filter (· < base)

/-- Take in one more digit.  A character that is no digit is reported before an overflow. -/
def pushDigit (base bound : Nat) (value : Nat) (c : Char) : Except ReadError Nat :=
  match digitValue? base c with
  | none => .error .invalidDigit
  | some digit =>
    if bound < value * base + digit then .error .tooLarge else .ok (value * base + digit)

/-- Read a number of at most `bound`.  One plus sign may stand before the digits. -/
def readChars (base bound : Nat) : List Char → Except ReadError Nat
  | [] => .error .empty
  | ['+'] => .error .invalidDigit
  | '+' :: digits => digits.foldlM (pushDigit base bound) 0
  | digits => digits.foldlM (pushDigit base bound) 0

def read (base bound : Nat) (text : String) : Except ReadError Nat :=
  readChars base bound text.toList

/-- The largest number of 64 bits. -/
def maxWord : Nat := UInt64.size - 1

/-- A decimal number of at most 64 bits. -/
def readWord? (text : String) : Option Nat := (read 10 maxWord text).toOption

/-- Decimal digits. -/
def decimal (n : Nat) : String := String.ofList (Nat.toDigits 10 n)

/-- Decimal digits after a minus sign where one is due. -/
def decimalInt : Int → String
  | .ofNat n => decimal n
  | .negSucc n => "-" ++ decimal (n + 1)

/-- Lower-case hexadecimal digits. -/
def hex (n : Nat) : String := String.ofList (Nat.toDigits 16 n)

/-- Digits of the given base, filled up with zeros on the left to a width. -/
def padded (base width n : Nat) : String :=
  let digits := Nat.toDigits base n
  String.ofList (List.replicate (width - digits.length) '0' ++ digits)

/-- Two lower-case hexadecimal digits for every octet. -/
def hexOctets (bytes : Octets) : String :=
  String.join (bytes.map fun b => padded 16 2 b.toNat)

/-- The quotient rounded to the nearest whole number; a half goes to the even neighbour. -/
def roundQuotient (num den : Nat) : Nat :=
  let whole := num / den
  let twice := 2 * (num % den)
  if twice < den then whole
  else if den < twice then whole + 1
  else if whole % 2 == 0 then whole
  else whole + 1

/-- A quotient with a fixed number of decimal places. -/
def fixedPlaces (places num den : Nat) : String :=
  let unit := Nat.pow 10 places
  let scaled := roundQuotient (num * unit) den
  decimal (scaled / unit) ++ "." ++ padded 10 places (scaled % unit)

end Signpost.Numeral
