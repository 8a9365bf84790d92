import Signpost.Proofs.Octets
import Signpost.Text.Utf8

/-!
# Reading and writing UTF-8

Octets are read as a text exactly if they are what the text is written as
(`decode?_eq_some_iff`).  Between the two stands `Sequence`, the sequences of one
to four octets that stand for a character: writing yields one of them for every
character, and reading takes one of them off wherever it finds a character.
Lowering the letters of octets lowers the letters of what is read from them, as
all octets of a longer sequence lie past ASCII (`scan_lower`).
-/

namespace Signpost.Utf8

/-- The range of an octet that is not the first of its sequence. -/
def Trails (b : UInt8) : Prop := 0x80 ≤ b.toNat ∧ b.toNat ≤ 0xBF

/-- The well-formed sequences, each with the number of its character.  After some first octets the
second one is held within narrower bounds, so that no number has two sequences and none is that of
a surrogate or too large. -/
inductive Sequence (n : Nat) : Octets → Prop
  | one {b : UInt8} : b.toNat < 0x80 → n = b.toNat → Sequence n [b]
  | two {b b₁ : UInt8} : 0xC2 ≤ b.toNat → b.toNat < 0xE0 → Trails b₁ →
    n = extend (b.toNat - 0xC0) b₁ → Sequence n [b, b₁]
  | three {b b₁ b₂ : UInt8} : 0xE0 ≤ b.toNat → b.toNat < 0xF0 → Trails b₁ →
    (b.toNat = 0xE0 → 0xA0 ≤ b₁.toNat) → (b.toNat = 0xED → b₁.toNat ≤ 0x9F) → Trails b₂ →
    n = extend (extend (b.toNat - 0xE0) b₁) b₂ → Sequence n [b, b₁, b₂]
  | four {b b₁ b₂ b₃ : UInt8} : 0xF0 ≤ b.toNat → b.toNat ≤ 0xF4 → Trails b₁ →
    (b.toNat = 0xF0 → 0x90 ≤ b₁.toNat) → (b.toNat = 0xF4 → b₁.toNat ≤ 0x8F) →
    Trails b₂ → Trails b₃ →
    n = extend (extend (extend (b.toNat - 0xF0) b₁) b₂) b₃ → Sequence n [b, b₁, b₂, b₃]

theorem extend_eq (bits : Nat) (b : UInt8) : extend bits b = bits * 64 + (b.toNat - 0x80) := by
  unfold extend
  rfl

/-! ## Writing -/

theorem toNat_ofNat {n : Nat} (valid : n.isValidChar) : (Char.ofNat n).val.toNat = n := by
  rw [Char.ofNat, dif_pos valid]
  rfl

theorem Sequence.isValidChar {bytes : Octets} {n : Nat} (sequence : Sequence n bytes) :
    n.isValidChar := by
  cases sequence <;> simp only [Nat.isValidChar, extend_eq, Trails] at * <;> omega

theorem ofNat_eq {n : Nat} {b : UInt8} (same : n = b.toNat) : UInt8.ofNat n = b := by
  rw [same]
  exact UInt8.ofNat_toNat

/-- Only the sequences of one octet are made of ASCII octets. -/
theorem Sequence.small {bytes : Octets} {n : Nat} (sequence : Sequence n bytes)
    (low : ∀ b ∈ bytes, b.toNat < 0x80) : n < 0x80 := by
  cases sequence with
  | one small eq => exact eq ▸ small
  | two first | three first | four first =>
    have small := low _ List.mem_cons_self
    omega

/-- A sequence is what its character is written as. -/
theorem Sequence.encode {bytes : Octets} {n : Nat} (sequence : Sequence n bytes) :
    String.utf8EncodeChar (Char.ofNat n) = bytes := by
  have number := toNat_ofNat sequence.isValidChar
  rw [String.utf8EncodeChar, number]
  clear number
  cases sequence with
  | one low eq =>
    rw [if_pos (by omega), ofNat_eq eq]
  | two low high trails eq =>
    simp only [extend_eq, Trails] at trails eq
    rw [if_neg (by omega), if_pos (by omega), List.cons.injEq, List.cons.injEq]
    exact ⟨ofNat_eq (by omega), ofNat_eq (by omega), rfl⟩
  | three low high trails least most trails' eq =>
    simp only [extend_eq, Trails] at trails trails' eq
    rw [if_neg (by omega), if_neg (by omega), if_pos (by omega), List.cons.injEq,
      List.cons.injEq, List.cons.injEq]
    exact ⟨ofNat_eq (by omega), ofNat_eq (by omega), ofNat_eq (by omega), rfl⟩
  | four low high trails least most trails' trails'' eq =>
    simp only [extend_eq, Trails] at trails trails' trails'' eq
    rw [if_neg (by omega), if_neg (by omega), if_neg (by omega), List.cons.injEq,
      List.cons.injEq, List.cons.injEq, List.cons.injEq]
    exact ⟨ofNat_eq (by omega), ofNat_eq (by omega), ofNat_eq (by omega), ofNat_eq (by omega),
      rfl⟩

/-- Every character is written as a sequence of its number. -/
theorem sequence_encode (c : Char) : Sequence c.val.toNat (String.utf8EncodeChar c) := by
  have valid : c.val.toNat.isValidChar := c.valid
  rw [String.utf8EncodeChar]
  generalize c.val.toNat = n at valid ⊢
  have small : ∀ {k : Nat}, k < 256 → (UInt8.ofNat k).toNat = k := fun below => by
    rw [UInt8.toNat_ofNat', Nat.mod_eq_of_lt below]
  simp only [Nat.isValidChar] at valid
  split
  · next low =>
    exact .one (by rw [small] <;> omega) (by rw [small]; omega)
  · split
    · next high =>
      refine .two ?_ ?_ ⟨?_, ?_⟩ ?_ <;>
        simp (disch := omega) only [extend_eq, small] <;> omega
    · split
      · next high =>
        refine .three ?_ ?_ ⟨?_, ?_⟩ ?_ ?_ ⟨?_, ?_⟩ ?_ <;>
          simp (disch := omega) only [extend_eq, small] <;> omega
      · refine .four ?_ ?_ ⟨?_, ?_⟩ ?_ ?_ ⟨?_, ?_⟩ ⟨?_, ?_⟩ ?_ <;>
          simp (disch := omega) only [extend_eq, small] <;> omega

/-! ## Reading -/

/-- The first octets, by their numbers. -/
theorem Lead.of?_eq (b : UInt8) :
    of? b =
      if b.toNat < 0xC2 then none
      else if b.toNat < 0xE0 then some ⟨1, b.toNat - 0xC0, 0x80, 0xBF⟩
      else if b.toNat = 0xE0 then some ⟨2, 0, 0xA0, 0xBF⟩
      else if b.toNat = 0xED then some ⟨2, 13, 0x80, 0x9F⟩
      else if b.toNat < 0xF0 then some ⟨2, b.toNat - 0xE0, 0x80, 0xBF⟩
      else if b.toNat = 0xF0 then some ⟨3, 0, 0x90, 0xBF⟩
      else if b.toNat < 0xF4 then some ⟨3, b.toNat - 0xF0, 0x80, 0xBF⟩
      else if b.toNat = 0xF4 then some ⟨3, 4, 0x80, 0x8F⟩
      else none := by
  unfold of?
  simp only [UInt8.lt_iff_toNat_lt, beq_iff_eq, ← UInt8.toNat_inj]
  rfl

theorem Lead.of?_eq_none {b : UInt8} (outside : b.toNat < 0xC2 ∨ 0xF4 < b.toNat) :
    of? b = none := by
  rw [of?_eq]
  rcases outside with low | high
  · rw [if_pos low]
  · repeat rw [if_neg (by omega)]

theorem Lead.exists_two {b : UInt8} (low : 0xC2 ≤ b.toNat) (high : b.toNat < 0xE0) :
    ∃ least most, of? b = some ⟨1, b.toNat - 0xC0, least, most⟩ ∧
      ∀ b₁, (least ≤ b₁ && b₁ ≤ most) = true ↔ Trails b₁ := by
  refine ⟨0x80, 0xBF, by rw [of?_eq, if_neg (by omega), if_pos high], fun b₁ => ?_⟩
  simp [Trails, UInt8.le_iff_toNat_le]

theorem Lead.exists_three {b : UInt8} (low : 0xE0 ≤ b.toNat) (high : b.toNat < 0xF0) :
    ∃ least most, of? b = some ⟨2, b.toNat - 0xE0, least, most⟩ ∧
      ∀ b₁, (least ≤ b₁ && b₁ ≤ most) = true ↔
        Trails b₁ ∧ (b.toNat = 0xE0 → 0xA0 ≤ b₁.toNat) ∧ (b.toNat = 0xED → b₁.toNat ≤ 0x9F) := by
  rw [of?_eq, if_neg (by omega), if_neg (by omega), if_pos high]
  simp only [Trails]
  split
  · next first =>
    refine ⟨_, _, by rw [first], fun b₁ => ?_⟩
    simp [UInt8.le_iff_toNat_le, first]
    omega
  · split
    · next surrogates =>
      refine ⟨_, _, by rw [surrogates], fun b₁ => ?_⟩
      simp [UInt8.le_iff_toNat_le, surrogates]
      omega
    · refine ⟨_, _, rfl, fun b₁ => ?_⟩
      simp [UInt8.le_iff_toNat_le, *]

theorem Lead.exists_four {b : UInt8} (low : 0xF0 ≤ b.toNat) (high : b.toNat ≤ 0xF4) :
    ∃ least most, of? b = some ⟨3, b.toNat - 0xF0, least, most⟩ ∧
      ∀ b₁, (least ≤ b₁ && b₁ ≤ most) = true ↔
        Trails b₁ ∧ (b.toNat = 0xF0 → 0x90 ≤ b₁.toNat) ∧ (b.toNat = 0xF4 → b₁.toNat ≤ 0x8F) := by
  rw [of?_eq, if_neg (by omega), if_neg (by omega), if_neg (by omega), if_neg (by omega),
    if_neg (by omega)]
  simp only [Trails]
  split
  · next first =>
    refine ⟨_, _, by rw [first], fun b₁ => ?_⟩
    simp [UInt8.le_iff_toNat_le, first]
    omega
  · split
    · next below =>
      refine ⟨_, _, rfl, fun b₁ => ?_⟩
      have other : b.toNat ≠ 0xF4 := by omega
      simp [UInt8.le_iff_toNat_le, *]
    · have last : b.toNat = 0xF4 := by omega
      rw [if_pos last]
      refine ⟨_, _, by rw [last], fun b₁ => ?_⟩
      simp [UInt8.le_iff_toNat_le, last]
      omega

theorem isTrailing_iff {b : UInt8} : isTrailing b = true ↔ Trails b := by
  simp [isTrailing, Trails, UInt8.le_iff_toNat_le]

theorem small_iff {b : UInt8} : b < 0x80 ↔ b.toNat < 0x80 := UInt8.lt_iff_toNat_lt

/-- A sequence at the front is read as its character. -/
theorem Sequence.scan {bytes : Octets} {n : Nat} (sequence : Sequence n bytes) (rest : Octets) :
    scan (bytes ++ rest) = some (Char.ofNat n) :: scan rest := by
  cases sequence with
  | one low eq =>
    rw [eq, List.cons_append, List.nil_append, Utf8.scan, if_pos (small_iff.mpr low)]
  | two low high trails eq =>
    obtain ⟨least, most, lead, within⟩ := Lead.exists_two low high
    rw [List.cons_append, Utf8.scan, if_neg (by rw [small_iff]; omega), lead]
    dsimp only [List.cons_append, List.nil_append]
    rw [if_pos ((within _).mpr trails), if_pos (by decide), eq]
  | three low high trails least most trails' eq =>
    obtain ⟨_, _, lead, within⟩ := Lead.exists_three low high
    rw [List.cons_append, Utf8.scan, if_neg (by rw [small_iff]; omega), lead]
    dsimp only [List.cons_append, List.nil_append]
    rw [if_pos ((within _).mpr ⟨trails, least, most⟩), if_neg (by decide),
      if_pos (isTrailing_iff.mpr trails'), if_pos (by decide), eq]
  | four low high trails least most trails' trails'' eq =>
    obtain ⟨_, _, lead, within⟩ := Lead.exists_four low high
    rw [List.cons_append, Utf8.scan, if_neg (by rw [small_iff]; omega), lead]
    dsimp only [List.cons_append, List.nil_append]
    rw [if_pos ((within _).mpr ⟨trails, least, most⟩), if_neg (by decide),
      if_pos (isTrailing_iff.mpr trails'), if_neg (by decide), if_pos (isTrailing_iff.mpr trails''),
      eq]

section Inversion

variable {b : UInt8} {bytes front rest : Octets} {n : Nat} {c : Char} {more : List (Option Char)}

theorem exists_of_sequence (sequence : Sequence n front)
    (read : some (Char.ofNat n) :: scan rest = some c :: more) :
    ∃ front' rest' n, front ++ rest = front' ++ rest' ∧ Sequence n front' ∧ c = Char.ofNat n ∧
      scan rest' = more := by
  rw [List.cons.injEq, Option.some_inj] at read
  exact ⟨front, rest, n, rfl, sequence, read.1.symm, read.2⟩

theorem exists_two_of_scan (low : 0xC2 ≤ b.toNat) (high : b.toNat < 0xE0)
    (read : scan (b :: rest) = some c :: more) :
    ∃ front rest' n, b :: rest = front ++ rest' ∧ Sequence n front ∧ c = Char.ofNat n ∧
      scan rest' = more := by
  obtain ⟨_, _, lead, within⟩ := Lead.exists_two low high
  rw [scan, if_neg (by rw [small_iff]; omega), lead] at read
  dsimp only at read
  split at read
  · cases read
  split at read
  · next inside =>
    rw [if_pos (by decide)] at read
    exact exists_of_sequence (.two low high ((within _).mp inside) rfl) read
  · cases read

theorem exists_three_of_scan (low : 0xE0 ≤ b.toNat) (high : b.toNat < 0xF0)
    (read : scan (b :: rest) = some c :: more) :
    ∃ front rest' n, b :: rest = front ++ rest' ∧ Sequence n front ∧ c = Char.ofNat n ∧
      scan rest' = more := by
  obtain ⟨_, _, lead, within⟩ := Lead.exists_three low high
  rw [scan, if_neg (by rw [small_iff]; omega), lead] at read
  dsimp only at read
  split at read
  · cases read
  split at read
  · next inside =>
    obtain ⟨trails, least, most⟩ := (within _).mp inside
    rw [if_neg (by decide)] at read
    split at read
    · cases read
    split at read
    · next inside' =>
      rw [if_pos (by decide)] at read
      exact exists_of_sequence
        (.three low high trails least most (isTrailing_iff.mp inside') rfl) read
    · cases read
  · cases read

theorem exists_four_of_scan (low : 0xF0 ≤ b.toNat) (high : b.toNat ≤ 0xF4)
    (read : scan (b :: rest) = some c :: more) :
    ∃ front rest' n, b :: rest = front ++ rest' ∧ Sequence n front ∧ c = Char.ofNat n ∧
      scan rest' = more := by
  obtain ⟨_, _, lead, within⟩ := Lead.exists_four low high
  rw [scan, if_neg (by rw [small_iff]; omega), lead] at read
  dsimp only at read
  split at read
  · cases read
  split at read
  · next inside =>
    obtain ⟨trails, least, most⟩ := (within _).mp inside
    rw [if_neg (by decide)] at read
    split at read
    · cases read
    split at read
    · next inside' =>
      rw [if_neg (by decide)] at read
      split at read
      · cases read
      split at read
      · next inside'' =>
        exact exists_of_sequence (.four low high trails least most
          (isTrailing_iff.mp inside') (isTrailing_iff.mp inside'') rfl) read
      · cases read
    · cases read
  · cases read

/-- Where a character is read, its sequence stands. -/
theorem exists_sequence_of_scan (read : scan bytes = some c :: more) :
    ∃ front rest n, bytes = front ++ rest ∧ Sequence n front ∧ c = Char.ofNat n ∧
      scan rest = more := by
  cases bytes with
  | nil => cases read
  | cons b rest =>
    by_cases small : b.toNat < 0x80
    · rw [scan, if_pos (small_iff.mpr small)] at read
      exact exists_of_sequence (.one small rfl) read
    by_cases outside : b.toNat < 0xC2 ∨ 0xF4 < b.toNat
    · rw [scan, if_neg (by rwa [small_iff]), Lead.of?_eq_none outside] at read
      cases read
    rw [not_or, Nat.not_lt, Nat.not_lt] at outside
    rcases Nat.lt_or_ge b.toNat 0xE0 with two | more
    · exact exists_two_of_scan outside.1 two read
    rcases Nat.lt_or_ge b.toNat 0xF0 with three | four
    · exact exists_three_of_scan more three read
    · exact exists_four_of_scan four outside.2 read

end Inversion

/-! ## Texts -/

theorem scan_ofText (text : String) : scan (Octets.ofText text) = text.toList.map some := by
  rw [Octets.ofText]
  induction text.toList with
  | nil => rfl
  | cons c rest ih =>
    rw [List.flatMap_cons, (sequence_encode c).scan, ih, List.map_cons]
    congr 2
    exact Char.ofNat_toNat c

theorem decodeLenient_ofText (text : String) : decodeLenient (Octets.ofText text) = text := by
  rw [decodeLenient, scan_ofText, List.map_map]
  exact (congrArg String.ofList (List.map_id text.toList)).trans String.ofList_toList

theorem eq_nil_of_scan {bytes : Octets} (read : scan bytes = []) : bytes = [] := by
  revert read
  fun_cases scan bytes
  case case1 => exact fun _ => rfl
  all_goals exact nofun

theorem eq_of_scan {bytes : Octets} {chars : List Char} (read : scan bytes = chars.map some) :
    chars.flatMap String.utf8EncodeChar = bytes := by
  induction chars generalizing bytes with
  | nil => rw [eq_nil_of_scan read, List.flatMap_nil]
  | cons c more ih =>
    obtain ⟨front, rest, n, rfl, sequence, rfl, others⟩ := exists_sequence_of_scan read
    rw [List.flatMap_cons, sequence.encode, ih others]

/-- Pieces that are all read yield their characters. -/
theorem mapM_id_eq_some_iff {pieces : List (Option Char)} {chars : List Char} :
    pieces.mapM id = some chars ↔ pieces = chars.map some := by
  induction pieces generalizing chars with
  | nil => cases chars <;> simp
  | cons piece rest ih =>
    cases piece with
    | none => cases chars <;> simp
    | some c =>
      have step : (some c :: rest).mapM id = (rest.mapM id).map (c :: ·) := by
        rw [List.mapM_cons]
        cases rest.mapM id <;> rfl
      rw [step, Option.map_eq_some_iff]
      simp only [ih]
      constructor
      · rintro ⟨more, rfl, rfl⟩
        rfl
      · intro same
        cases chars with
        | nil => cases same
        | cons d more =>
          rw [List.map_cons, List.cons.injEq, Option.some_inj] at same
          exact ⟨more, same.2, by rw [same.1]⟩

/-- Octets are read as a text exactly if they are its form. -/
theorem decode?_eq_some_iff {bytes : Octets} {text : String} :
    decode? bytes = some text ↔ Octets.ofText text = bytes := by
  rw [decode?, Option.map_eq_some_iff]
  simp only [mapM_id_eq_some_iff]
  constructor
  · rintro ⟨chars, all, rfl⟩
    rw [Octets.ofText, String.toList_ofList, eq_of_scan all]
  · rintro rfl
    exact ⟨text.toList, scan_ofText text, String.ofList_toList⟩

theorem ofText_inj {a b : String} : Octets.ofText a = Octets.ofText b ↔ a = b := by
  constructor
  · intro same
    have read := decode?_eq_some_iff.mpr same
    rw [decode?_eq_some_iff.mpr rfl, Option.some_inj] at read
    exact read.symm
  · intro same
    rw [same]

/-! ## Letter case -/

theorem lower_of_not_small {b : UInt8} (high : ¬b < 0x80) : Octet.lower b = b := by
  rw [small_iff] at high
  rw [Octet.lower, if_neg]
  rw [Octet.isUpper_iff]
  omega

theorem lower_small_iff (b : UInt8) : Octet.lower b < 0x80 ↔ b < 0x80 := by
  rw [small_iff, small_iff, Octet.toNat_lower]
  split <;> omega

/-- Lowering moves no octet into or out of a range past ASCII. -/
theorem within_lower {low : UInt8} (past : ¬low < 0x80) (high b : UInt8) :
    (low ≤ Octet.lower b && Octet.lower b ≤ high) = (low ≤ b && b ≤ high) := by
  by_cases letter : b < 0x80
  · have lowered := (lower_small_iff b).mpr letter
    rw [small_iff] at past letter lowered
    have out : ∀ {c : UInt8}, c.toNat < 0x80 → ¬low ≤ c := by
      intro c below within
      rw [UInt8.le_iff_toNat_le] at within
      omega
    rw [decide_eq_false (out letter), decide_eq_false (out lowered), Bool.false_and, Bool.false_and]
  · rw [lower_of_not_small letter]

theorem isTrailing_lower (b : UInt8) : isTrailing (Octet.lower b) = isTrailing b :=
  within_lower (by decide) 0xBF b

theorem lower_of_within {low high b : UInt8} (past : ¬low < 0x80)
    (within : (low ≤ b && b ≤ high) = true) : Octet.lower b = b := by
  refine lower_of_not_small ?_
  rw [Bool.and_eq_true, decide_eq_true_eq, UInt8.le_iff_toNat_le] at within
  rw [small_iff] at past ⊢
  omega

theorem lower_of_isTrailing {b : UInt8} (trailing : isTrailing b = true) : Octet.lower b = b :=
  lower_of_within (by decide) trailing

/-- The second octet lies past ASCII, and so does what is read. -/
structure Lead.Sound (lead : Lead) : Prop where
  past : ¬lead.low < 0x80
  two : lead.trailing = 1 → 2 ≤ lead.bits
  more {b : UInt8} : lead.low ≤ b → 2 ≤ extend lead.bits b

theorem Lead.sound {b : UInt8} {lead : Lead} (found : of? b = some lead) : lead.Sound := by
  rw [of?_eq] at found
  repeat' split at found
  all_goals cases found
  all_goals
    constructor
    all_goals intros
    all_goals simp_all [extend_eq, UInt8.le_iff_toNat_le, small_iff]
    all_goals try omega

theorem Lead.more_of_within {b b₁ : UInt8} {lead : Lead} (found : of? b = some lead)
    (within : (lead.low ≤ b₁ && b₁ ≤ lead.high) = true) : 2 ≤ extend lead.bits b₁ := by
  rw [Bool.and_eq_true, decide_eq_true_eq] at within
  exact (Lead.sound found).more within.1

theorem le_extend {bits : Nat} (more : 2 ≤ bits) (b : UInt8) : 0x80 ≤ extend bits b := by
  rw [extend_eq]
  omega

theorem toLower_of_le {n : Nat} (past : 0x80 ≤ n) : (Char.ofNat n).toLower = Char.ofNat n := by
  by_cases valid : n.isValidChar
  · have number := Octets.toNat_toLower (Char.ofNat n)
    rw [toNat_ofNat valid, if_neg (by omega)] at number
    exact Char.ext (UInt32.toNat_inj.mp (number.trans (toNat_ofNat valid).symm))
  · rw [Char.ofNat, dif_neg valid]
    rfl

theorem ofNat_lower {b : UInt8} (low : b < 0x80) :
    Char.ofNat (Octet.lower b).toNat = (Char.ofNat b.toNat).toLower := by
  have valid : ∀ {c : UInt8}, c < 0x80 → c.toNat.isValidChar := by
    intro c small
    rw [small_iff] at small
    exact .inl (by omega)
  refine Char.ext (UInt32.toNat_inj.mp ?_)
  have lowered := valid ((lower_small_iff b).mpr low)
  rw [Octets.toNat_toLower, toNat_ofNat (valid low), toNat_ofNat lowered, Octet.toNat_lower]

/-- Octets in lower case are read as the same characters in lower case, and broken off at the same
places. -/
theorem scan_lower (bytes : Octets) :
    scan bytes.lower = (scan bytes).map (Option.map Char.toLower) := by
  have cons : ∀ (b : UInt8) (rest : Octets),
      Octets.lower (b :: rest) = Octet.lower b :: Octets.lower rest := fun _ _ => rfl
  -- One case for each way through `scan`; what it takes past ASCII stays as it is.
  fun_induction scan bytes with
  | case1 => rfl
  | case2 b rest low ih =>
    rw [cons, scan, if_pos ((lower_small_iff b).mpr low), ofNat_lower low, ih]
    rfl
  | case3 b rest high unknown ih =>
    rw [cons, lower_of_not_small high, scan]
    simp only [high, unknown, ih, ↓reduceIte]
    rfl
  | case4 b high lead found =>
    rw [cons, lower_of_not_small high, scan]
    simp only [high, found, ↓reduceIte]
    rfl
  | case5 b high lead found b₁ rest within two ih =>
    have sound := Lead.sound found
    rw [cons, cons, lower_of_not_small high, lower_of_within sound.past within, scan]
    simp only [high, found, within, two, ih, ↓reduceIte, List.map_cons, Option.map_some]
    rw [toLower_of_le (le_extend (sound.two (eq_of_beq two)) b₁)]
  | case6 b high lead found b₁ within more =>
    rw [cons, cons, lower_of_not_small high, lower_of_within (Lead.sound found).past within, scan]
    simp only [high, found, within, more, ↓reduceIte]
    rfl
  | case7 b high lead found b₁ within more b₂ rest trailing three ih =>
    have large := le_extend (Lead.more_of_within found within) b₂
    rw [cons, cons, cons, lower_of_not_small high, lower_of_within (Lead.sound found).past within,
      lower_of_isTrailing trailing, scan]
    simp only [high, found, within, more, trailing, three, ih, ↓reduceIte, Bool.false_eq_true,
      List.map_cons, Option.map_some]
    rw [toLower_of_le large]
  | case8 b high lead found b₁ within more b₂ trailing four =>
    rw [cons, cons, cons, lower_of_not_small high, lower_of_within (Lead.sound found).past within,
      lower_of_isTrailing trailing, scan]
    simp only [high, found, within, more, trailing, four, ↓reduceIte]
    rfl
  | case9 b high lead found b₁ within more b₂ trailing four b₃ rest trailing' ih =>
    have large := le_extend (Lead.more_of_within found within) b₂
    rw [cons, cons, cons, cons, lower_of_not_small high,
      lower_of_within (Lead.sound found).past within, lower_of_isTrailing trailing,
      lower_of_isTrailing trailing', scan]
    simp only [high, found, within, more, trailing, four, trailing', ih, ↓reduceIte,
      Bool.false_eq_true, List.map_cons, Option.map_some]
    rw [toLower_of_le (le_extend (by omega) b₃)]
  | case10 b high lead found b₁ within more b₂ trailing four b₃ rest broken ih =>
    rw [cons] at ih
    rw [cons, cons, cons, cons, lower_of_not_small high,
      lower_of_within (Lead.sound found).past within, lower_of_isTrailing trailing, scan]
    simp only [high, found, within, more, trailing, four, isTrailing_lower, broken, ih, ↓reduceIte]
    rfl
  | case11 b high lead found b₁ within more b₂ rest broken ih =>
    rw [cons] at ih
    rw [cons, cons, cons, lower_of_not_small high, lower_of_within (Lead.sound found).past within,
      scan]
    simp only [high, found, within, more, isTrailing_lower, broken, ih, ↓reduceIte]
    rfl
  | case12 b high lead found b₁ rest outside ih =>
    rw [cons] at ih
    rw [cons, cons, lower_of_not_small high, scan]
    simp only [high, found, within_lower (Lead.sound found).past, outside, ih, ↓reduceIte]
    rfl

theorem asciiLower_decodeLenient (bytes : Octets) :
    asciiLower (decodeLenient bytes) = decodeLenient bytes.lower := by
  rw [decodeLenient, decodeLenient, scan_lower, asciiLower, ← String.toList_inj, String.toList_map,
    String.toList_ofList, String.toList_ofList, List.map_map, List.map_map]
  apply List.map_congr_left
  intro piece _
  cases piece with
  | none => rfl
  | some c => rfl

/-! ## ASCII octets among others -/

/-- No ASCII octet goes on with a sequence. -/
theorem not_within_of_small {low b : UInt8} (past : ¬low < 0x80) (small : b < 0x80)
    (high : UInt8) : (low ≤ b && b ≤ high) = false := by
  rw [Bool.and_eq_false_iff, decide_eq_false_iff_not, UInt8.le_iff_toNat_le]
  rw [small_iff] at past small
  omega

/-- Octets come apart before every ASCII octet. -/
theorem scan_append_small {b : UInt8} (small : b < 0x80) (front rest : Octets) :
    scan (front ++ b :: rest) = scan front ++ scan (b :: rest) := by
  have trailing : isTrailing b = false := not_within_of_small (by decide) small 0xBF
  -- One case for each way through `scan`; where the front breaks off, the octet does not go on.
  fun_induction scan front with
  | case1 => rfl
  | case2 c front low ih =>
    rw [List.cons_append, scan, if_pos low, ih, List.cons_append]
  | case3 c front high unknown ih =>
    rw [List.cons_append, scan]
    simp only [high, unknown, ih, ↓reduceIte, List.cons_append]
  | case4 c high lead found =>
    rw [List.cons_append, scan]
    simp only [high, found, not_within_of_small (Lead.sound found).past small, ↓reduceIte,
      List.nil_append, Bool.false_eq_true, List.cons_append]
  | case5 c high lead found b₁ front within two ih =>
    rw [List.cons_append, scan]
    simp only [high, found, within, two, ih, ↓reduceIte, List.cons_append]
  | case6 c high lead found b₁ within more =>
    rw [List.cons_append, scan]
    simp only [high, found, within, more, trailing, ↓reduceIte, List.nil_append, List.cons_append,
      Bool.false_eq_true]
  | case7 c high lead found b₁ within more b₂ front trails three ih =>
    rw [List.cons_append, scan]
    simp only [high, found, within, more, trails, three, ih, ↓reduceIte, List.cons_append,
      Bool.false_eq_true]
  | case8 c high lead found b₁ within more b₂ trails four =>
    rw [List.cons_append, scan]
    simp only [high, found, within, more, trails, four, trailing, ↓reduceIte, List.nil_append,
      List.cons_append, Bool.false_eq_true]
  | case9 c high lead found b₁ within more b₂ trails four b₃ front trails' ih =>
    rw [List.cons_append, scan]
    simp only [high, found, within, more, trails, four, trails', ih, ↓reduceIte, List.cons_append,
      Bool.false_eq_true]
  | case10 c high lead found b₁ within more b₂ trails four b₃ front broken ih =>
    rw [List.cons_append] at ih
    rw [List.cons_append, scan]
    simp only [high, found, within, more, trails, four, broken, ih, ↓reduceIte, List.cons_append,
      Bool.false_eq_true]
  | case11 c high lead found b₁ within more b₂ front broken ih =>
    rw [List.cons_append] at ih
    rw [List.cons_append, scan]
    simp only [high, found, within, more, broken, ih, ↓reduceIte, List.cons_append,
      Bool.false_eq_true]
  | case12 c high lead found b₁ front outside ih =>
    rw [List.cons_append] at ih
    rw [List.cons_append, scan]
    simp only [high, found, outside, ih, ↓reduceIte, List.cons_append, Bool.false_eq_true]

end Signpost.Utf8
