import Signpost.Proofs.Fallible
import Signpost.Proofs.Text.Trim
import Signpost.Text.Blank
import Signpost.Text.Numeral

/-!
# What is read as a number, and written for one

A text is trimmed and then read as a decimal number.  This takes digits, but
also digits with one plus sign before them and with blanks around them
(`readWord?_trim_eq_some_iff`).  No two numbers are written alike
(`decimalInt_injective`).
-/

namespace Signpost.Numeral

open Text (isBlank trimChars)

/-- The number before some more digits, and what they make of it. -/
def valueFrom (value : Nat) (digits : List Char) : Nat :=
  digits.foldl (fun value c => value * 10 + (c.toNat - '0'.toNat)) value

/-- A non-empty string of decimal digits, and its number. -/
structure Digits (cs : List Char) (n : Nat) : Prop where
  full : cs ≠ []
  digit : ∀ c ∈ cs, c.isDigit = true
  value : valueFrom 0 cs = n

/-- Digits behind at most one plus sign, with blanks around them. -/
def Spelled (cs : List Char) (n : Nat) : Prop :=
  ∃ before sign digits after, cs = before ++ (sign ++ digits) ++ after ∧
    (∀ c ∈ before ++ after, isBlank c = true) ∧ (sign = [] ∨ sign = ['+']) ∧ Digits digits n

theorem valueFrom_cons (value : Nat) (c : Char) (rest : List Char) :
    valueFrom value (c :: rest) = valueFrom (value * 10 + (c.toNat - '0'.toNat)) rest := by
  unfold valueFrom
  rw [List.foldl_cons]

theorem le_valueFrom (value : Nat) (digits : List Char) : value ≤ valueFrom value digits := by
  induction digits generalizing value with
  | nil => exact Nat.le_refl value
  | cons c rest ih =>
    rw [valueFrom_cons]
    have shifted : value ≤ value * 10 := Nat.le_mul_of_pos_right value (by decide)
    exact Nat.le_trans (Nat.le_add_right_of_le shifted) (ih _)

theorem digitValue?_of_isDigit {c : Char} (digit : c.isDigit = true) :
    digitValue? 10 c = some (c.toNat - '0'.toNat) := by
  have small : c.toNat - 48 < 10 := by
    simp only [Char.isDigit, Bool.and_eq_true, decide_eq_true_eq, ge_iff_le, UInt32.le_iff_toNat_le]
      at digit
    have high : c.toNat ≤ 57 := digit.2
    omega
  rw [digitValue?, if_pos digit]
  exact Option.filter_some_pos (decide_eq_true small)

theorem digitValue?_of_not_isDigit {c : Char} (other : ¬c.isDigit = true) :
    digitValue? 10 c = none := by
  rw [digitValue?, if_neg other]
  split
  · simp
  · split
    · simp
    · rfl

/-- Digits are read one by one, as long as the number stays within the bound. -/
theorem foldlM_pushDigit_eq_ok_iff {bound value n : Nat} {digits : List Char}
    (within : value ≤ bound) :
    digits.foldlM (pushDigit 10 bound) value = .ok n ↔
      (∀ c ∈ digits, c.isDigit = true) ∧ valueFrom value digits = n ∧ n ≤ bound := by
  induction digits generalizing value with
  | nil =>
    constructor
    · intro read
      cases read
      exact ⟨nofun, rfl, within⟩
    · rintro ⟨_, rfl, _⟩
      rfl
  | cons c rest ih =>
    rw [List.foldlM_cons, valueFrom_cons, List.forall_mem_cons]
    by_cases digit : c.isDigit = true
    · rw [pushDigit, digitValue?_of_isDigit digit]
      dsimp only
      by_cases tooLarge : bound < value * 10 + (c.toNat - '0'.toNat)
      · have larger := le_valueFrom (value * 10 + (c.toNat - '0'.toNat)) rest
        rw [if_pos tooLarge]
        refine iff_of_false nofun ?_
        rintro ⟨_, rfl, small⟩
        omega
      · rw [if_neg tooLarge]
        exact (ih (Nat.le_of_not_lt tooLarge)).trans (by simp [digit])
    · rw [pushDigit, digitValue?_of_not_isDigit digit]
      exact iff_of_false nofun fun all => digit all.1.1

theorem readChars_eq_ok_iff {bound n : Nat} {cs : List Char} :
    readChars 10 bound cs = .ok n ↔
      ∃ sign digits, cs = sign ++ digits ∧ (sign = [] ∨ sign = ['+']) ∧ Digits digits n ∧
        n ≤ bound := by
  have read : ∀ digits : List Char, digits.foldlM (pushDigit 10 bound) 0 = .ok n ∧ digits ≠ [] ↔
      Digits digits n ∧ n ≤ bound := by
    intro digits
    rw [foldlM_pushDigit_eq_ok_iff (Nat.zero_le bound)]
    constructor
    · rintro ⟨⟨digit, value, within⟩, full⟩
      exact ⟨⟨full, digit, value⟩, within⟩
    · rintro ⟨⟨full, digit, value⟩, within⟩
      exact ⟨⟨digit, value, within⟩, full⟩
  constructor
  · intro done
    unfold readChars at done
    split at done
    · cases done
    · cases done
    · next digits single =>
      obtain ⟨spelled, within⟩ := (read digits).mp ⟨done, fun empty => single (by rw [empty])⟩
      exact ⟨['+'], digits, rfl, .inr rfl, spelled, within⟩
    · next digits full _ _ =>
      obtain ⟨spelled, within⟩ := (read _).mp ⟨done, full⟩
      exact ⟨[], _, rfl, .inl rfl, spelled, within⟩
  · rintro ⟨sign, digits, rfl, signed, spelled, within⟩
    obtain ⟨done, full⟩ := (read digits).mpr ⟨spelled, within⟩
    have first : ∀ rest, digits ≠ '+' :: rest := by
      rintro rest rfl
      exact absurd (spelled.digit '+' List.mem_cons_self) (by decide)
    rcases signed with rfl | rfl
    · rw [List.nil_append]
      unfold readChars
      split
      · exact absurd rfl full
      · exact absurd rfl (first [])
      · next rest _ => exact absurd rfl (first rest)
      · exact done
    · rw [List.cons_append, List.nil_append]
      unfold readChars
      split
      · next empty => cases empty
      · next single =>
        cases single
        exact absurd rfl full
      · next eq =>
        cases eq
        exact done
      · next other => exact absurd rfl (other digits)

theorem not_isBlank_of_isDigit {c : Char} (digit : c.isDigit = true) : isBlank c = false := by
  simp only [Char.isDigit, Bool.and_eq_true, decide_eq_true_eq, ge_iff_le, UInt32.le_iff_toNat_le]
    at digit
  have low : 48 ≤ c.toNat := digit.1
  have high : c.toNat ≤ 57 := digit.2
  simp [isBlank, Text.blankRanges]
  omega

/-- A number that is spelled starts and ends with no blank. -/
theorem bare_of_digits {sign digits : List Char} {n : Nat} (signed : sign = [] ∨ sign = ['+'])
    (spelled : Digits digits n) : Bare isBlank (sign ++ digits) := by
  constructor
  · intro c first
    rcases signed with rfl | rfl
    · exact not_isBlank_of_isDigit (spelled.digit c (List.mem_of_mem_head? first))
    · cases first
      decide
  · intro c last
    have final : (sign ++ digits).getLast? = digits.getLast? := by
      rw [List.getLast?_append, List.getLast?_eq_some_getLast spelled.full]
      rfl
    rw [final] at last
    exact not_isBlank_of_isDigit (spelled.digit c (List.mem_of_getLast? last))

theorem readWord?_trim_eq_some_iff {text : String} {n : Nat} :
    readWord? (Text.trim text) = some n ↔ Spelled text.toList n ∧ n ≤ maxWord := by
  have same : (Text.trim text).toList = trimmed isBlank text.toList := String.toList_ofList
  rw [readWord?, toOption_eq_some_iff, read, same, readChars_eq_ok_iff]
  constructor
  · rintro ⟨sign, digits, eq, signed, spelled, within⟩
    obtain ⟨before, after, whole, blank, _⟩ := exists_trimmed isBlank text.toList
    rw [eq] at whole
    exact ⟨⟨before, sign, digits, after, whole, blank, signed, spelled⟩, within⟩
  · rintro ⟨⟨before, sign, digits, after, whole, blank, signed, spelled⟩, within⟩
    refine ⟨sign, digits, ?_, signed, spelled, within⟩
    rw [whole, trimmed_append blank (bare_of_digits signed spelled)]

/-! ## Two digits of any base -/

/-- Digits are ASCII characters. -/
theorem small_of_digitValue? {base digit : Nat} {c : Char}
    (found : digitValue? base c = some digit) : c.val.toNat < 0x80 := by
  unfold digitValue? at found
  rw [Option.filter_eq_some_iff] at found
  obtain ⟨found, _⟩ := found
  split at found
  · next digit =>
    simp only [Char.isDigit, Bool.and_eq_true, decide_eq_true_eq, ge_iff_le, UInt32.le_iff_toNat_le]
      at digit
    have high : c.val.toNat ≤ 57 := digit.2
    omega
  split at found
  · next letter =>
    have high : c.val.toNat ≤ 122 := UInt32.le_iff_toNat_le.mp letter.2
    omega
  split at found
  · next letter =>
    have high : c.val.toNat ≤ 90 := UInt32.le_iff_toNat_le.mp letter.2
    omega
  · cases found

theorem digitValue?_lt {base digit : Nat} {c : Char} (found : digitValue? base c = some digit) :
    digit < base := by
  unfold digitValue? at found
  rw [Option.filter_eq_some_iff] at found
  exact of_decide_eq_true found.2

theorem pushDigit_eq_ok_iff {base bound value n : Nat} {c : Char} :
    pushDigit base bound value c = .ok n ↔
      ∃ digit, digitValue? base c = some digit ∧ n = value * base + digit ∧ n ≤ bound := by
  unfold pushDigit
  cases digitValue? base c with
  | none => exact iff_of_false nofun nofun
  | some digit =>
    dsimp only
    split
    · next large =>
      refine iff_of_false nofun ?_
      rintro ⟨_, ⟨⟩, rfl, within⟩
      omega
    · next within =>
      constructor
      · intro read
        cases read
        exact ⟨digit, rfl, rfl, Nat.not_lt.mp within⟩
      · rintro ⟨_, ⟨⟩, rfl, _⟩
        rfl

theorem foldlM_pushDigit_one {base bound value n : Nat} {c : Char} :
    [c].foldlM (pushDigit base bound) value = .ok n ↔ pushDigit base bound value c = .ok n := by
  rw [List.foldlM_cons]
  cases pushDigit base bound value c with
  | error e => exact iff_of_false nofun nofun
  | ok next => exact Iff.rfl

theorem foldlM_pushDigit_two {base bound n : Nat} {c d : Char} :
    [c, d].foldlM (pushDigit base bound) 0 = .ok n ↔
      n ≤ bound ∧ ∃ first second, digitValue? base c = some first ∧
        digitValue? base d = some second ∧ n = first * base + second := by
  rw [List.foldlM_cons]
  constructor
  · intro read
    obtain ⟨value, front, read⟩ := exists_of_bind_eq_ok read
    obtain ⟨first, digit, rfl, _⟩ := pushDigit_eq_ok_iff.mp front
    obtain ⟨second, digit', eq, within⟩ := pushDigit_eq_ok_iff.mp (foldlM_pushDigit_one.mp read)
    rw [Nat.zero_mul, Nat.zero_add] at eq
    exact ⟨within, first, second, digit, digit', eq⟩
  · rintro ⟨within, first, second, digit, digit', eq⟩
    have shifted : first ≤ first * base :=
      Nat.le_mul_of_pos_right first (Nat.zero_lt_of_lt (digitValue?_lt digit))
    have front : pushDigit base bound 0 c = .ok first :=
      pushDigit_eq_ok_iff.mpr ⟨first, digit, by rw [Nat.zero_mul, Nat.zero_add], by omega⟩
    rw [front]
    exact foldlM_pushDigit_one.mpr (pushDigit_eq_ok_iff.mpr ⟨second, digit', eq, within⟩)

theorem digitValue?_plus (base : Nat) : digitValue? base '+' = none := rfl

/-- What is read of one character is its digit. -/
theorem digitValue?_of_readChars {base bound n : Nat} {c : Char}
    (read : readChars base bound [c] = .ok n) : digitValue? base c = some n := by
  unfold readChars at read
  split at read
  · cases read
  · cases read
  · next digits full eq =>
    rw [List.cons.injEq] at eq
    exact absurd eq.2.symm full
  · next single _ =>
    obtain ⟨digit, found, rfl, _⟩ := pushDigit_eq_ok_iff.mp (foldlM_pushDigit_one.mp read)
    rw [Nat.zero_mul, Nat.zero_add]
    exact found

/-- Two characters are read as two digits, or as one behind a plus sign. -/
theorem readChars_two_eq_ok_iff {base bound n : Nat} {c d : Char} :
    readChars base bound [c, d] = .ok n ↔
      n ≤ bound ∧ ((c = '+' ∧ digitValue? base d = some n) ∨
        ∃ first second, digitValue? base c = some first ∧ digitValue? base d = some second ∧
          n = first * base + second) := by
  by_cases sign : c = '+'
  · have digits : readChars base bound ['+', d] = [d].foldlM (pushDigit base bound) 0 := rfl
    rw [sign, digits, foldlM_pushDigit_one, pushDigit_eq_ok_iff, digitValue?_plus]
    simp only [Nat.zero_mul, Nat.zero_add, true_and, reduceCtorEq, false_and, exists_false,
      or_false]
    constructor
    · rintro ⟨_, found, rfl, within⟩
      exact ⟨within, found⟩
    · rintro ⟨within, found⟩
      exact ⟨n, found, rfl, within⟩
  · have digits : readChars base bound [c, d] = [c, d].foldlM (pushDigit base bound) 0 := by
      unfold readChars
      split
      · next eq => cases eq
      · next eq => cases eq
      · next eq =>
        rw [List.cons.injEq] at eq
        exact absurd eq.1 sign
      · rfl
    rw [digits, foldlM_pushDigit_two]
    exact and_congr_right fun _ => (or_iff_right fun signed => sign signed.1).symm

/-! ## Numbers as they are written -/

theorem decimal_injective : Function.Injective decimal := by
  intro m n same
  calc
    m = Nat.ofDigitChars 10 (Nat.toDigits 10 m) 0 := Nat.ofDigitChars_ten_toDigits.symm
    _ = Nat.ofDigitChars 10 (Nat.toDigits 10 n) 0 := by rw [String.ofList_injective same]
    _ = n := Nat.ofDigitChars_ten_toDigits

/-- A number that is not negative is written without a sign. -/
theorem decimal_ne_minus (m n : Nat) : decimal m ≠ "-" ++ decimal n := by
  intro same
  have signed : '-' ∈ (decimal m).toList := by
    rw [same, String.toList_append]
    exact List.mem_append_left _ (List.mem_singleton_self '-')
  rw [decimal, String.toList_ofList] at signed
  have digit := Nat.isDigit_of_mem_toDigits (by decide) (by decide) signed
  exact absurd digit (by decide)

theorem decimalInt_injective : Function.Injective decimalInt := by
  intro m n same
  cases m with
  | ofNat m =>
    cases n with
    | ofNat n => rw [decimal_injective same]
    | negSucc n => exact absurd same (decimal_ne_minus m (n + 1))
  | negSucc m =>
    cases n with
    | ofNat n => exact absurd same.symm (decimal_ne_minus n (m + 1))
    | negSucc n =>
      have digits := decimal_injective ((String.append_right_inj "-").mp same)
      rw [Nat.succ.inj digits]

end Signpost.Numeral
