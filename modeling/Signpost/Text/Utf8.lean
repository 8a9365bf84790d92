import Signpost.Octets

/-!
# Reading octets as UTF-8

`Utf8.scan` reads an octet string from the left.  It yields a character for
every well-formed sequence and `none` for every maximal ill-formed piece: the
longest start of a well-formed sequence that the input breaks off, or else one
octet.  Strict reading refuses any such piece; lenient reading puts the
replacement character in its place.
-/

namespace Signpost.Utf8

/-- What a lead octet announces: how many octets follow, the bits it carries, and the range the
second octet must lie in. -/
structure Lead where
  trailing : Nat
  bits : Nat
  low : UInt8
  high : UInt8

/-- The lead octets of sequences of two to four octets.  The narrower second ranges shut out
overlong forms, surrogates and numbers past the last character. -/
def Lead.of? (b : UInt8) : Option Lead :=
  if b < 0xC2 then none
  else if b < 0xE0 then some ⟨1, b.toNat - 0xC0, 0x80, 0xBF⟩
  else if b == 0xE0 then some ⟨2, 0, 0xA0, 0xBF⟩
  else if b == 0xED then some ⟨2, 13, 0x80, 0x9F⟩
  else if b < 0xF0 then some ⟨2, b.toNat - 0xE0, 0x80, 0xBF⟩
  else if b == 0xF0 then some ⟨3, 0, 0x90, 0xBF⟩
  else if b < 0xF4 then some ⟨3, b.toNat - 0xF0, 0x80, 0xBF⟩
  else if b == 0xF4 then some ⟨3, 4, 0x80, 0x8F⟩
  else none

def isTrailing (b : UInt8) : Bool := 0x80 ≤ b && b ≤ 0xBF

/-- Append the six bits of a trailing octet. -/
def extend (bits : Nat) (b : UInt8) : Nat := bits * 64 + (b.toNat - 0x80)

/-- The characters and the ill-formed pieces of an octet string, in order. -/
def scan : Octets → List (Option Char)
  | [] => []
  | b :: rest =>
    if b < 0x80 then some (Char.ofNat b.toNat) :: scan rest
    else
      match Lead.of? b with
      | none => none :: scan rest
      | some lead =>
        match rest with
        | [] => [none]
        | b₁ :: rest₁ =>
          if lead.low ≤ b₁ && b₁ ≤ lead.high then
            if lead.trailing == 1 then
              some (Char.ofNat (extend lead.bits b₁)) :: scan rest₁
            else
              match rest₁ with
              | [] => [none]
              | b₂ :: rest₂ =>
                if isTrailing b₂ then
                  if lead.trailing == 2 then
                    some (Char.ofNat (extend (extend lead.bits b₁) b₂)) :: scan rest₂
                  else
                    match rest₂ with
                    | [] => [none]
                    | b₃ :: rest₃ =>
                      if isTrailing b₃ then
                        some (Char.ofNat (extend (extend (extend lead.bits b₁) b₂) b₃)) ::
                          scan rest₃
                      else none :: scan (b₃ :: rest₃)
                else none :: scan (b₂ :: rest₂)
          else none :: scan (b₁ :: rest₁)

/-- The text an octet string is the UTF-8 form of, if it is one. -/
def decode? (bytes : Octets) : Option String := ((scan bytes).mapM id).map String.ofList

/-- The character that stands for an ill-formed piece. -/
def replacement : Char := '\uFFFD'

/-- The text of an octet string, with the replacement character for every ill-formed piece. -/
def decodeLenient (bytes : Octets) : String :=
  String.ofList ((scan bytes).map fun piece => piece.getD replacement)

end Signpost.Utf8
