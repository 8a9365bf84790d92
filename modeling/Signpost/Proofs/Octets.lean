import Signpost.Octets

/-!
# Letter case and the octets of a text

Lowering the letters touches no slash and no space, doing it twice changes
nothing more, and a token stays one.  An ASCII octet is among the octets of a text only where its
character is in the text, because every other character is written with other
octets; so letters may be lowered before a text is written or after.
-/

namespace Signpost

namespace Octet

/-- The value of a hexadecimal digit, in either letter case. -/
def hexValue? (b : UInt8) : Option Nat :=
  if isDigit b then some (b.toNat - 0x30)
  else if 0x41 ≤ b && b ≤ 0x46 then some (b.toNat - 0x41 + 10)
  else if 0x61 ≤ b && b ≤ 0x66 then some (b.toNat - 0x61 + 10)
  else none

theorem isUpper_iff (b : UInt8) : isUpper b = true ↔ 0x41 ≤ b.toNat ∧ b.toNat ≤ 0x5A := by
  simp [isUpper, UInt8.le_iff_toNat_le]

theorem toNat_lower (b : UInt8) :
    (lower b).toNat = if 0x41 ≤ b.toNat ∧ b.toNat ≤ 0x5A then b.toNat + 0x20 else b.toNat := by
  rw [lower]
  simp only [isUpper_iff]
  split
  · next upper =>
    have step : (0x20 : UInt8).toNat = 0x20 := rfl
    rw [UInt8.toNat_add, step]
    omega
  · rfl

theorem lower_lower (b : UInt8) : lower (lower b) = lower b := by
  apply UInt8.toNat_inj.mp
  rw [toNat_lower (lower b), toNat_lower b, if_neg]
  split <;> omega

theorem isToken_lower (b : UInt8) : isToken (lower b) = isToken b := by
  by_cases upper : isUpper b = true
  · have letter : isLower (lower b) = true := by
      rw [isUpper_iff] at upper
      simp only [isLower, Bool.and_eq_true, decide_eq_true_eq, UInt8.le_iff_toNat_le]
      rw [toNat_lower, if_pos upper]
      exact ⟨Nat.add_le_add_right upper.1 0x20, Nat.add_le_add_right upper.2 0x20⟩
    rw [isToken, isToken, isAlnum, isAlnum, letter, upper]
    simp only [Bool.or_true, Bool.true_or]
  · rw [lower, if_neg upper]

theorem lower_eq_slash_iff (b : UInt8) : lower b = Octets.slash ↔ b = Octets.slash := by
  rw [← UInt8.toNat_inj, ← UInt8.toNat_inj, toNat_lower]
  have slash : Octets.slash.toNat = 0x2F := rfl
  rw [slash]
  split <;> omega

end Octet

namespace Octets

theorem lower_lower (bytes : Octets) : bytes.lower.lower = bytes.lower := by
  rw [lower, lower, List.map_map]
  apply List.map_congr_left
  intro b _
  exact Octet.lower_lower b

theorem isTokenText_iff {bytes : Octets} :
    bytes.isTokenText ↔ bytes ≠ [] ∧ ∀ b ∈ bytes, Octet.isToken b := by
  rw [isTokenText, Bool.and_eq_true, Bool.not_eq_true', List.isEmpty_eq_false_iff,
    List.all_eq_true]

theorem isTokenText_lower (bytes : Octets) : bytes.lower.isTokenText = bytes.isTokenText := by
  rw [isTokenText, isTokenText, lower, List.isEmpty_map, List.all_map]
  exact congrArg (!bytes.isEmpty && bytes.all ·) (funext Octet.isToken_lower)

theorem not_mem_of_isTokenText {bytes : Octets} (token : bytes.isTokenText) {b : UInt8}
    (other : Octet.isToken b = false) : b ∉ bytes := by
  intro mem
  rw [(isTokenText_iff.mp token).2 b mem] at other
  cases other

/-- A colon is no token octet. -/
theorem colon_not_mem {name : Octets} (token : name.isTokenText) : colon ∉ name :=
  not_mem_of_isTokenText token (by decide)

theorem lower_append (a b : Octets) : (a ++ b).lower = a.lower ++ b.lower := List.map_append

theorem ofText_append (a b : String) : ofText (a ++ b) = ofText a ++ ofText b := by
  rw [ofText, String.toList_append, List.flatMap_append]
  rfl

theorem ofText_join (texts : List String) : ofText (String.join texts) = texts.flatMap ofText := by
  induction texts with
  | nil => rfl
  | cons text rest ih =>
    rw [String.join_cons, ofText_append, ih, List.flatMap_cons]

/-- What holds of all ASCII characters is checked one by one. -/
theorem of_small {P : Char → Prop} (all : ∀ n < 0x80, P (Char.ofNat n)) {c : Char}
    (small : c.val.toNat < 0x80) : P c := by
  have own : Char.ofNat c.val.toNat = c := Char.ofNat_toNat c
  rw [← own]
  exact all c.val.toNat small

theorem utf8EncodeChar_of_small {c : Char} (small : c.val.toNat < 0x80) :
    String.utf8EncodeChar c = [UInt8.ofNat c.val.toNat] := by
  rw [String.utf8EncodeChar, if_pos (by omega)]

/-- An ASCII octet is written only for its own character. -/
theorem ascii_mem_utf8EncodeChar_iff {b : UInt8} (ascii : b.toNat < 0x80) (c : Char) :
    b ∈ String.utf8EncodeChar c ↔ c.val.toNat = b.toNat := by
  fun_cases String.utf8EncodeChar c
  all_goals
    simp only [List.mem_cons, List.not_mem_nil, or_false, ← UInt8.toNat_inj,
      UInt8.toNat_ofNat']
    omega

theorem ascii_mem_ofText_iff {a : Char} (ascii : a.val.toNat < 0x80) (text : String) :
    UInt8.ofNat a.val.toNat ∈ ofText text ↔ a ∈ text.toList := by
  have number : (UInt8.ofNat a.val.toNat).toNat = a.val.toNat := by
    rw [UInt8.toNat_ofNat', Nat.mod_eq_of_lt (by omega)]
  have same : ∀ c : Char, UInt8.ofNat a.val.toNat ∈ String.utf8EncodeChar c ↔ c = a := by
    intro c
    rw [ascii_mem_utf8EncodeChar_iff (by omega), number, Char.ext_iff, ← UInt32.toNat_inj]
  rw [ofText, List.mem_flatMap]
  constructor
  · rintro ⟨c, mem, written⟩
    exact (same c).mp written ▸ mem
  · intro mem
    exact ⟨a, mem, (same a).mpr rfl⟩

theorem slash_mem_ofText_iff (text : String) : slash ∈ ofText text ↔ '/' ∈ text.toList :=
  ascii_mem_ofText_iff (a := '/') (by decide) text

theorem return_mem_ofText_iff (text : String) : 0x0D ∈ ofText text ↔ '\r' ∈ text.toList :=
  ascii_mem_ofText_iff (a := '\r') (by decide) text

/-- The letters of a text are lowered as octets are. -/
theorem toNat_toLower (c : Char) :
    c.toLower.val.toNat =
      if 0x41 ≤ c.val.toNat ∧ c.val.toNat ≤ 0x5A then c.val.toNat + 0x20 else c.val.toNat := by
  have upper : (c.val ≥ 'A'.val ∧ c.val ≤ 'Z'.val) ↔ 0x41 ≤ c.val.toNat ∧ c.val.toNat ≤ 0x5A :=
    and_congr UInt32.le_iff_toNat_le UInt32.le_iff_toNat_le
  by_cases letter : c.val ≥ 'A'.val ∧ c.val ≤ 'Z'.val
  · have step : ('a'.val - 'A'.val).toNat = 0x20 := rfl
    have lowered : c.toLower = ⟨c.val + ('a'.val - 'A'.val), _⟩ := dif_pos letter
    rw [if_pos (upper.mp letter), lowered, UInt32.toNat_add, step]
    have most := (upper.mp letter).2
    omega
  · have lowered : c.toLower = c := dif_neg letter
    rw [if_neg (mt upper.mpr letter), lowered]

/-- Letters are lowered alike before and after they are written. -/
theorem lower_utf8EncodeChar (c : Char) :
    lower (String.utf8EncodeChar c) = String.utf8EncodeChar c.toLower := by
  have number := toNat_toLower c
  by_cases upper : 0x41 ≤ c.val.toNat ∧ c.val.toNat ≤ 0x5A
  · rw [if_pos upper] at number
    rw [utf8EncodeChar_of_small (by omega), utf8EncodeChar_of_small (by omega), number, lower,
      List.map_singleton]
    congr 1
    apply UInt8.toNat_inj.mp
    rw [Octet.toNat_lower, UInt8.toNat_ofNat', UInt8.toNat_ofNat', if_pos (by omega)]
    omega
  · rw [if_neg upper] at number
    have same : c.toLower = c := Char.ext (UInt32.toNat_inj.mp number)
    rw [same, lower]
    have fixed : ∀ b ∈ String.utf8EncodeChar c, Octet.lower b = b := by
      intro b mem
      rw [Octet.lower, if_neg]
      intro letter
      rw [Octet.isUpper_iff] at letter
      -- an upper-case octet is the letter itself
      have own := (ascii_mem_utf8EncodeChar_iff (by omega) c).mp mem
      exact upper (own ▸ letter)
    exact (List.map_congr_left fixed).trans (List.map_id _)

theorem lower_ofText (text : String) : lower (ofText text) = ofText (asciiLower text) := by
  rw [ofText, ofText, asciiLower, String.toList_map, List.flatMap_map]
  induction text.toList with
  | nil => rfl
  | cons c rest ih =>
    rw [List.flatMap_cons, List.flatMap_cons, lower_append, lower_utf8EncodeChar, ih]

theorem lower_ofText_asciiLower (text : String) :
    (ofText (asciiLower text)).lower = (ofText text).lower := by
  rw [← lower_ofText, lower_lower]

theorem ofText_eq_nil_iff (text : String) : ofText text = [] ↔ text = "" := by
  rw [ofText, List.flatMap_eq_nil_iff, ← String.toList_eq_nil_iff, List.eq_nil_iff_forall_not_mem]
  constructor
  · intro empty c mem
    exact String.utf8EncodeChar_ne_nil (empty c mem)
  · intro none c mem
    exact absurd mem (none c)

end Octets

end Signpost
