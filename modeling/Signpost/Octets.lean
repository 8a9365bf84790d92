/-!
# Octets

Wire data is a list of octets.  This module holds the classes of single octets
that requests and responses are read by, all of them ASCII classes, and the
comparison of octet strings up to ASCII letter case.

* `Octet.isToken` is the class header names and cookie names are made of.
* `Octets.ofText` is the UTF-8 form of a text.
-/

namespace Signpost

/-- A string of octets. -/
abbrev Octets := List UInt8

namespace Octet

def isUpper (b : UInt8) : Bool := 0x41 ≤ b && b ≤ 0x5A

def isLower (b : UInt8) : Bool := 0x61 ≤ b && b ≤ 0x7A

def isDigit (b : UInt8) : Bool := 0x30 ≤ b && b ≤ 0x39

def isAlnum (b : UInt8) : Bool := isUpper b || isLower b || isDigit b

/-- The ASCII control codes: below the space, and DEL. -/
def isControl (b : UInt8) : Bool := b < 0x20 || b == 0x7F

/-- The ASCII blanks: tab, line feed, form feed, carriage return and space. -/
def isWhitespace (b : UInt8) : Bool :=
  b == 0x09 || b == 0x0A || b == 0x0C || b == 0x0D || b == 0x20

/-- The blanks that may surround a header value: space and tab. -/
def isPadding (b : UInt8) : Bool := b == 0x20 || b == 0x09

/-- The visible ASCII characters. -/
def isGraphic (b : UInt8) : Bool := 0x21 ≤ b && b ≤ 0x7E

/-- The marks that a token may hold beside letters and digits. -/
def tokenMarks : Octets :=
  [0x21, 0x23, 0x24, 0x25, 0x26, 0x27, 0x2A, 0x2B, 0x2D, 0x2E, 0x5E, 0x5F, 0x60, 0x7C, 0x7E]

/-- A token octet is a letter, a digit or one of fifteen marks. -/
def isToken (b : UInt8) : Bool := isAlnum b || tokenMarks.contains b

/-- Upper-case ASCII letters become lower-case; all else stays. -/
def lower (b : UInt8) : UInt8 := if isUpper b then b + 0x20 else b

end Octet

namespace Octets

/-- The UTF-8 form of a text. -/
def ofText (text : String) : Octets := text.toList.flatMap String.utf8EncodeChar

/-- Every letter in lower case. -/
def lower (bytes : Octets) : Octets := bytes.map Octet.lower

/-- Equality up to ASCII letter case. -/
def eqFold (a b : Octets) : Bool := lower a == lower b

def space : UInt8 := 0x20

def slash : UInt8 := 0x2F

def colon : UInt8 := 0x3A

def crlf : Octets := [0x0D, 0x0A]

/-- The blank line that ends a head, with the line end before it. -/
def headEnd : Octets := [0x0D, 0x0A, 0x0D, 0x0A]

/-- A non-empty string of token octets. -/
def isTokenText (bytes : Octets) : Bool := !bytes.isEmpty && bytes.all Octet.isToken

/-- The lines of a head: the pieces between line ends, each taken at its leftmost place. -/
def lines : Octets → List Octets
  | [] => [[]]
  | 0x0D :: 0x0A :: rest => [] :: lines rest
  | b :: rest =>
    match lines rest with
    | [] => [[b]]
    | line :: more => (b :: line) :: more

/-- Drop spaces and tabs at both ends. -/
def strip (bytes : Octets) : Octets :=
  ((bytes.dropWhile Octet.isPadding).reverse.dropWhile Octet.isPadding).reverse

end Octets

/-- Lower-case the ASCII letters of a text. -/
def asciiLower (text : String) : String := text.map Char.toLower

/-- Equality of texts up to ASCII letter case. -/
def asciiEqFold (a b : String) : Bool := asciiLower a == asciiLower b

end Signpost
