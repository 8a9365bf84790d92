import Signpost.Text.Graphic
import Signpost.Text.Numeral

/-!
# Quoted texts

Messages show foreign text between double quotes.  The quote, the backslash and
the common controls are escaped by a letter, and every character that does not
stand by itself by its hexadecimal code point.
-/

namespace Signpost.Text

/-- How one character is written between double quotes. -/
def escaped (c : Char) : String :=
  match c with
  | '"' => "\\\""
  | '\\' => "\\\\"
  | '\n' => "\\n"
  | '\r' => "\\r"
  | '\t' => "\\t"
  | '\x00' => "\\0"
  | c =>
    if isGraphic c then c.toString else "\\u\x7b" ++ Numeral.hex c.toNat ++ "\x7d"

/-- A text between double quotes. -/
def quoted (text : String) : String :=
  "\"" ++ String.join (text.toList.map escaped) ++ "\""

end Signpost.Text
