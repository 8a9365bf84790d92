import Mathlib.Data.List.Infix
import Signpost.Proofs.Text.Numeral
import Signpost.Proofs.Text.Utf8
import Signpost.Request.Query

/-!
# Escapes in queries

A query is scanned from left to right: an escape becomes the octet it names, a plus
sign becomes a space, and every other octet stays (`Query.Scans`).  What two octets
name is read as an unsigned number of two characters, and such a number may start
with a plus sign.  So a plus sign and one digit are an escape as well as two digits
are (`Query.escapedOctet?_eq_some_iff`).

* `Query.Scans.scansTo`: scanning has one outcome.
* `Query.Apart`: what both readings of a query have in common, and by how many
  characters they differ.
* `Query.decode_eq_lenient_iff`: a text is decoded as its escapes of two digits say
  exactly if no plus sign stands where the first of two digits is due.
-/

namespace Signpost

namespace Octet

theorem bounds_of_hexValue? {b : UInt8} {value : Nat} (digit : hexValue? b = some value) :
    b < 0x80 ∧ b ≠ 0x25 ∧ b ≠ 0x2B ∧ value < 16 := by
  have all : ∀ n < 256, ∀ value ∈ hexValue? (UInt8.ofNat n),
      UInt8.ofNat n < 0x80 ∧ UInt8.ofNat n ≠ 0x25 ∧ UInt8.ofNat n ≠ 0x2B ∧ value < 16 := by
    decide +kernel
  have own := all b.toNat b.toNat_lt value
  rw [UInt8.ofNat_toNat] at own
  exact own digit

end Octet

namespace Query

open Octets (of_small utf8EncodeChar_of_small)

/-- Two hexadecimal digits name the octet of their number. -/
def NamedByDigits (a b octet : UInt8) : Prop :=
  ∃ high low, Octet.hexValue? a = some high ∧ Octet.hexValue? b = some low ∧
    octet.toNat = 16 * high + low

/-- One hexadecimal digit behind a plus sign names the octet of its value. -/
def NamedBySign (a b octet : UInt8) : Prop := a = 0x2B ∧ Octet.hexValue? b = some octet.toNat

/-- What the decoder takes for the name of an octet. -/
def Named (a b octet : UInt8) : Prop := NamedByDigits a b octet ∨ NamedBySign a b octet

/-! ## What two octets name -/

/-- What is read as a number of two octets consists of two ASCII characters. -/
theorem exists_chars_of_read {text : String} {a b : UInt8} {n : Nat}
    (octets : Octets.ofText text = [a, b])
    (read : Numeral.readChars 16 255 text.toList = .ok n) :
    ∃ c d : Char, text.toList = [c, d] ∧ c.val.toNat < 0x80 ∧ d.val.toNat < 0x80 := by
  rw [Octets.ofText] at octets
  have length := congrArg List.length octets
  cases chars : text.toList with
  | nil =>
    rw [chars] at octets
    cases octets
  | cons c rest =>
    rw [chars] at octets read
    cases rest with
    | nil =>
      -- one digit is one octet
      have small := Numeral.small_of_digitValue? (Numeral.digitValue?_of_readChars read)
      rw [List.flatMap_singleton, utf8EncodeChar_of_small small] at octets
      cases octets
    | cons d rest =>
      cases rest with
      | nil =>
        refine ⟨c, d, rfl, ?_⟩
        rcases (Numeral.readChars_two_eq_ok_iff.mp read).2 with
          ⟨rfl, digit⟩ | ⟨_, _, digit, digit', _⟩
        · exact ⟨by decide, Numeral.small_of_digitValue? digit⟩
        · exact ⟨Numeral.small_of_digitValue? digit, Numeral.small_of_digitValue? digit'⟩
      | cons e rest =>
        have full : ∀ c : Char, 0 < (String.utf8EncodeChar c).length := fun c =>
          List.length_pos_of_ne_nil String.utf8EncodeChar_ne_nil
        have first := full c
        have second := full d
        have third := full e
        rw [chars] at length
        simp only [List.flatMap_cons, List.length_append, List.length_cons, List.length_nil]
          at length
        omega

/-- An ASCII character and its octet are the same digit. -/
theorem hexValue?_encode {c : Char} (small : c.val.toNat < 0x80) :
    Octet.hexValue? (UInt8.ofNat c.val.toNat) = Numeral.digitValue? 16 c :=
  of_small (P := fun c => Octet.hexValue? (UInt8.ofNat c.val.toNat) = Numeral.digitValue? 16 c)
    (by decide +kernel) small

theorem encode_eq_iff {c d : Char} (small : c.val.toNat < 0x80) (small' : d.val.toNat < 0x80) :
    UInt8.ofNat c.val.toNat = UInt8.ofNat d.val.toNat ↔ c = d := by
  rw [← UInt8.toNat_inj, UInt8.toNat_ofNat', UInt8.toNat_ofNat', Nat.mod_eq_of_lt (by omega),
    Nat.mod_eq_of_lt (by omega), UInt32.toNat_inj, Char.ext_iff]

theorem named_iff_read {c d : Char} {octet : UInt8} (small : c.val.toNat < 0x80)
    (small' : d.val.toNat < 0x80) :
    Named (UInt8.ofNat c.val.toNat) (UInt8.ofNat d.val.toNat) octet ↔
      Numeral.readChars 16 255 [c, d] = .ok octet.toNat := by
  have within : octet.toNat ≤ 255 := Nat.le_of_lt_succ octet.toNat_lt
  have sign : UInt8.ofNat c.val.toNat = 0x2B ↔ c = '+' :=
    encode_eq_iff (d := '+') small (by decide)
  rw [Numeral.readChars_two_eq_ok_iff, Named, NamedByDigits, NamedBySign, hexValue?_encode small,
    hexValue?_encode small', sign, or_comm]
  simp only [within, true_and, Nat.mul_comm]

theorem exists_encode {b : UInt8} (small : b < 0x80) :
    ∃ c : Char, c.val.toNat < 0x80 ∧ UInt8.ofNat c.val.toNat = b := by
  rw [Utf8.small_iff] at small
  have number : (Char.ofNat b.toNat).val.toNat = b.toNat := Utf8.toNat_ofNat (.inl (by omega))
  refine ⟨Char.ofNat b.toNat, ?_, ?_⟩
  · rwa [number]
  · rw [number, UInt8.ofNat_toNat]

theorem Named.small {a b octet : UInt8} (named : Named a b octet) : a < 0x80 ∧ b < 0x80 := by
  rcases named with ⟨high, low, first, second, _⟩ | ⟨rfl, digit⟩
  · exact ⟨(Octet.bounds_of_hexValue? first).1, (Octet.bounds_of_hexValue? second).1⟩
  · exact ⟨by decide, (Octet.bounds_of_hexValue? digit).1⟩

theorem ofText_pair {c d : Char} (small : c.val.toNat < 0x80) (small' : d.val.toNat < 0x80) :
    Octets.ofText (String.ofList [c, d]) = [UInt8.ofNat c.val.toNat, UInt8.ofNat d.val.toNat] := by
  rw [Octets.ofText, String.toList_ofList, List.flatMap_cons, List.flatMap_singleton,
    utf8EncodeChar_of_small small, utf8EncodeChar_of_small small']
  rfl

/-- Two octets are read as a number exactly if they name an octet in one of the two ways. -/
theorem escapedOctet?_eq_some_iff {a b octet : UInt8} :
    escapedOctet? a b = some octet ↔ Named a b octet := by
  have unfolded : escapedOctet? a b = some octet ↔
      ∃ text n, Octets.ofText text = [a, b] ∧ Numeral.readChars 16 255 text.toList = .ok n ∧
        UInt8.ofNat n = octet := by
    simp only [escapedOctet?, bind, pure, Option.bind_eq_some_iff, Utf8.decode?_eq_some_iff,
      toOption_eq_some_iff, Numeral.read, Option.some_inj]
    tauto
  rw [unfolded]
  constructor
  · rintro ⟨text, n, octets, read, rfl⟩
    obtain ⟨c, d, chars, small, small'⟩ := exists_chars_of_read octets read
    have whole : text = String.ofList [c, d] := by rw [← chars, String.ofList_toList]
    rw [whole, ofText_pair small small'] at octets
    cases octets
    rw [chars] at read
    have within := (Numeral.readChars_two_eq_ok_iff.mp read).1
    rw [named_iff_read small small', read, UInt8.toNat_ofNat', Nat.mod_eq_of_lt (by omega)]
  · intro named
    obtain ⟨c, small, rfl⟩ := exists_encode named.small.1
    obtain ⟨d, small', rfl⟩ := exists_encode named.small.2
    refine ⟨String.ofList [c, d], octet.toNat, ofText_pair small small', ?_, UInt8.ofNat_toNat⟩
    rw [String.toList_ofList]
    exact (named_iff_read small small').mp named

/-! ## Scanning -/

/-- Octets that start with an escape. -/
def StartsEscape (names : UInt8 → UInt8 → UInt8 → Prop) (bytes : Octets) : Prop :=
  ∃ a b octet rest, bytes = 0x25 :: a :: b :: rest ∧ names a b octet

/-- Octets are scanned from left to right, where a percent sign and two octets are an escape for
what the two name. -/
inductive Scans (names : UInt8 → UInt8 → UInt8 → Prop) : Octets → Octets → Prop where
  | done : Scans names [] []
  | escape {a b octet : UInt8} {rest out : Octets} (named : names a b octet)
      (more : Scans names rest out) : Scans names (0x25 :: a :: b :: rest) (octet :: out)
  | plus {rest out : Octets} (more : Scans names rest out) :
      Scans names (0x2B :: rest) (Octets.space :: out)
  | kept {octet : UInt8} {rest out : Octets} (other : octet ≠ 0x2B)
      (unescaped : ¬StartsEscape names (octet :: rest)) (more : Scans names rest out) :
      Scans names (octet :: rest) (octet :: out)

/-- What scanning yields, and nothing else. -/
structure ScansTo (names : UInt8 → UInt8 → UInt8 → Prop) (bytes out : Octets) : Prop where
  scans : Scans names bytes out
  only (other : Octets) : Scans names bytes other → other = out

/-- A plus sign stands where the first of two digits is due. -/
def HasSigned (bytes : Octets) : Prop :=
  ∃ digit, (Octet.hexValue? digit).isSome ∧ [0x25, 0x2B, digit] <:+: bytes

theorem Named.unique {a b octet other : UInt8} (named : Named a b octet)
    (named' : Named a b other) : octet = other := by
  have found := escapedOctet?_eq_some_iff.mpr named
  rw [escapedOctet?_eq_some_iff.mpr named', Option.some_inj] at found
  exact found.symm

/-- Where two octets name one octet at most, scanning has one outcome. -/
theorem Scans.scansTo {names : UInt8 → UInt8 → UInt8 → Prop} {bytes out : Octets}
    (scans : Scans names bytes out)
    (unique : ∀ a b octet other, names a b octet → names a b other → octet = other) :
    ScansTo names bytes out := by
  refine ⟨scans, ?_⟩
  induction scans with
  | done =>
    intro other scans'
    cases scans'
    rfl
  | escape named _ ih =>
    intro other scans'
    cases scans' with
    | escape named' more => rw [unique _ _ _ _ named' named, ih _ more]
    | kept _ unescaped _ => exact absurd ⟨_, _, _, _, rfl, named⟩ unescaped
  | plus _ ih =>
    intro other scans'
    cases scans' with
    | plus more => rw [ih _ more]
    | kept other _ _ => exact absurd rfl other
  | kept other unescaped _ ih =>
    intro out' scans'
    cases scans' with
    | escape named _ => exact absurd ⟨_, _, _, _, rfl, named⟩ unescaped
    | plus _ => exact absurd rfl other
    | kept _ _ more => rw [ih _ more]

theorem Scans.scansTo_named {bytes out : Octets} (scans : Scans Named bytes out) :
    ScansTo Named bytes out :=
  scans.scansTo fun _ _ _ _ => Named.unique

theorem Scans.scansTo_digits {bytes out : Octets} (scans : Scans NamedByDigits bytes out) :
    ScansTo NamedByDigits bytes out :=
  scans.scansTo fun _ _ _ _ named named' => Named.unique (.inl named) (.inl named')

/-- The decoder takes a plus sign with one digit for an escape, too. -/
theorem scans_decodeOctets (bytes : Octets) : Scans Named bytes (decodeOctets bytes) := by
  fun_induction decodeOctets bytes with
  | case1 a b rest octet named ih => exact .escape (escapedOctet?_eq_some_iff.mp named) ih
  | case2 a b rest unnamed ih =>
    refine .kept (by decide) ?_ ih
    rintro ⟨_, _, octet, _, ⟨⟩, named⟩
    rw [escapedOctet?_eq_some_iff.mpr named] at unnamed
    cases unnamed
  | case3 rest ih => exact .plus ih
  | case4 octet rest short other ih =>
    refine .kept ?_ ?_ ih
    · rintro rfl
      exact other rfl
    · rintro ⟨a, b, _, rest', ⟨⟩, _⟩
      exact short a b rest' rfl rfl
  | case5 => exact .done

/-! ## Plus signs before a digit -/

theorem hasSigned_cons_iff {octet : UInt8} {rest : Octets} :
    HasSigned (octet :: rest) ↔ StartsEscape NamedBySign (octet :: rest) ∨ HasSigned rest := by
  constructor
  · rintro ⟨digit, known, inside⟩
    rcases List.infix_cons_iff.mp inside with ⟨more, starts⟩ | inside
    · obtain ⟨value, digits⟩ := Option.isSome_iff_exists.mp known
      have small := (Octet.bounds_of_hexValue? digits).2.2.2
      have number : (UInt8.ofNat value).toNat = value := by
        rw [UInt8.toNat_ofNat', Nat.mod_eq_of_lt (by omega)]
      exact .inl ⟨0x2B, digit, UInt8.ofNat value, more, starts.symm, rfl, by rw [digits, number]⟩
    · exact .inr ⟨digit, known, inside⟩
  · rintro (⟨a, digit, value, more, starts, rfl, digits⟩ | ⟨digit, known, inside⟩)
    · refine ⟨digit, by rw [digits]; rfl, ?_⟩
      rw [starts]
      exact List.prefix_append [0x25, 0x2B, digit] more |>.isInfix
    · exact ⟨digit, known, List.infix_cons_iff.mpr (.inr inside)⟩

theorem hasSigned_cons_of_ne {octet : UInt8} {rest : Octets} (other : octet ≠ 0x25) :
    HasSigned (octet :: rest) ↔ HasSigned rest := by
  rw [hasSigned_cons_iff]
  refine or_iff_right ?_
  rintro ⟨_, _, _, _, ⟨⟩, _⟩
  exact other rfl

/-- The outcome `narrow` of scanning for digits only, beside the outcome `wide` in which `signed`
plus signs are taken for digits.  Each of these leaves one octet where three stay otherwise: the
percent sign, a space and the digit. -/
structure Apart (bytes narrow wide : Octets) (signed : Nat) : Prop where
  scans : Scans NamedByDigits bytes narrow
  none_iff : signed = 0 ↔ ¬HasSigned bytes
  same : signed = 0 → narrow = wide
  longer (front : Octets) :
    (Utf8.scan (front ++ narrow)).length = (Utf8.scan (front ++ wide)).length + 2 * signed

namespace Apart

variable {rest narrow wide : Octets} {signed : Nat}

/-- An octet that both scans yield. -/
theorem longer_cons (apart : Apart rest narrow wide signed) (octet : UInt8) (front : Octets) :
    (Utf8.scan (front ++ octet :: narrow)).length =
      (Utf8.scan (front ++ octet :: wide)).length + 2 * signed := by
  have own := apart.longer (front ++ [octet])
  rwa [List.append_assoc, List.append_assoc] at own

theorem digits {a b octet : UInt8} (named : NamedByDigits a b octet)
    (apart : Apart rest narrow wide signed) :
    Apart (0x25 :: a :: b :: rest) (octet :: narrow) (octet :: wide) signed := by
  obtain ⟨high, low, first, second, value⟩ := named
  obtain ⟨_, mark, sign, _⟩ := Octet.bounds_of_hexValue? first
  obtain ⟨_, mark', _, _⟩ := Octet.bounds_of_hexValue? second
  refine ⟨.escape ⟨high, low, first, second, value⟩ apart.scans, ?_, ?_, apart.longer_cons octet⟩
  · rw [apart.none_iff, hasSigned_cons_iff, hasSigned_cons_of_ne mark, hasSigned_cons_of_ne mark',
      or_iff_right]
    rintro ⟨_, _, _, _, ⟨⟩, rfl, _⟩
    exact sign rfl
  · intro none
    rw [apart.same none]

theorem sign {digit octet : UInt8} (value : Octet.hexValue? digit = some octet.toNat)
    (apart : Apart rest narrow wide signed) :
    Apart (0x25 :: 0x2B :: digit :: rest) (0x25 :: Octets.space :: digit :: narrow)
      (octet :: wide) (signed + 1) := by
  obtain ⟨small, mark, plus, low⟩ := Octet.bounds_of_hexValue? value
  have small' : octet < 0x80 := by
    rw [Utf8.small_iff]
    omega
  refine ⟨?_, ?_, nofun, ?_⟩
  · refine .kept (by decide) ?_ (.plus (.kept plus ?_ apart.scans))
    · rintro ⟨_, _, _, _, ⟨⟩, _, _, first, _⟩
      cases first
    · rintro ⟨_, _, _, _, ⟨⟩, _⟩
      exact mark rfl
  · refine iff_of_false (Nat.succ_ne_zero signed) (not_not_intro ?_)
    exact hasSigned_cons_iff.mpr (.inl ⟨_, _, _, _, rfl, rfl, value⟩)
  · intro front
    have own := apart.longer []
    rw [List.nil_append, List.nil_append] at own
    rw [Utf8.scan_append_small (by decide), Utf8.scan_append_small small', Utf8.scan,
      if_pos (by decide), Utf8.scan, if_pos (by decide), Utf8.scan, if_pos small, Utf8.scan,
      if_pos small']
    simp only [List.length_append, List.length_cons, own]
    omega

theorem plus (apart : Apart rest narrow wide signed) :
    Apart (0x2B :: rest) (Octets.space :: narrow) (Octets.space :: wide) signed := by
  refine ⟨.plus apart.scans, ?_, ?_, apart.longer_cons Octets.space⟩
  · rw [apart.none_iff, hasSigned_cons_of_ne (by decide)]
  · intro none
    rw [apart.same none]

theorem kept {octet : UInt8} (other : octet ≠ 0x2B)
    (unescaped : ¬StartsEscape Named (octet :: rest))
    (apart : Apart rest narrow wide signed) :
    Apart (octet :: rest) (octet :: narrow) (octet :: wide) signed := by
  refine ⟨.kept other ?_ apart.scans, ?_, ?_, apart.longer_cons octet⟩
  · rintro ⟨a, b, value, more, starts, named⟩
    exact unescaped ⟨a, b, value, more, starts, .inl named⟩
  · rw [apart.none_iff, hasSigned_cons_iff, or_iff_right]
    rintro ⟨a, b, value, more, starts, named⟩
    exact unescaped ⟨a, b, value, more, starts, .inr named⟩
  · intro none
    rw [apart.same none]

end Apart

theorem apart_nil : Apart [] [] [] 0 := by
  refine ⟨.done, iff_of_true rfl ?_, fun _ => rfl, fun _ => rfl⟩
  rintro ⟨_, _, inside⟩
  exact absurd (List.eq_nil_of_infix_nil inside) (List.cons_ne_nil _ _)

theorem Scans.exists_apart {bytes wide : Octets} (scans : Scans Named bytes wide) :
    ∃ narrow signed, Apart bytes narrow wide signed := by
  induction scans with
  | done => exact ⟨_, _, apart_nil⟩
  | escape named _ ih =>
    obtain ⟨_, _, apart⟩ := ih
    rcases named with named | ⟨rfl, value⟩
    · exact ⟨_, _, apart.digits named⟩
    · exact ⟨_, _, apart.sign value⟩
  | plus _ ih =>
    obtain ⟨_, _, apart⟩ := ih
    exact ⟨_, _, apart.plus⟩
  | kept other unescaped _ ih =>
    obtain ⟨_, _, apart⟩ := ih
    exact ⟨_, _, apart.kept other unescaped⟩

theorem length_decodeLenient (bytes : Octets) :
    (Utf8.decodeLenient bytes).toList.length = (Utf8.scan bytes).length := by
  rw [Utf8.decodeLenient, String.toList_ofList, List.length_map]

/-- Every text is decoded as it is scanned, where a plus sign with a digit after a percent sign is
an escape, too; so it is decoded as its escapes of two digits say exactly if there is no such plus
sign. -/
theorem decode_eq_lenient_iff (text : String) :
    (∃ out, ScansTo Named (Octets.ofText text) out ∧ decode text = Utf8.decodeLenient out) ∧
      ∃ out, ScansTo NamedByDigits (Octets.ofText text) out ∧
        (decode text = Utf8.decodeLenient out ↔ ¬HasSigned (Octets.ofText text)) := by
  have scans := scans_decodeOctets (Octets.ofText text)
  obtain ⟨narrow, signed, apart⟩ := scans.exists_apart
  refine ⟨⟨_, scans.scansTo_named, rfl⟩, narrow, apart.scans.scansTo_digits, ?_⟩
  rw [← apart.none_iff]
  constructor
  · intro same
    have lengths := congrArg (·.toList.length) same
    have longer := apart.longer []
    rw [List.nil_append, List.nil_append] at longer
    rw [decode, length_decodeLenient, length_decodeLenient, longer] at lengths
    omega
  · intro none
    rw [decode, apart.same none]

/-- No two digits follow the percent sign, and still one octet is made of the three. -/
theorem decode_sign : ¬∃ out, Scans NamedByDigits (Octets.ofText "%+f") out ∧
    decode "%+f" = Utf8.decodeLenient out := by
  rintro ⟨out, scans, same⟩
  have apart : Apart [0x25, 0x2B, 0x66] [0x25, 0x20, 0x66] [0x0F] 1 := apart_nil.sign rfl
  have only : out = [0x25, 0x20, 0x66] := apart.scans.scansTo_digits.only out scans
  rw [only] at same
  exact absurd same (by decide +kernel)

end Query

end Signpost
