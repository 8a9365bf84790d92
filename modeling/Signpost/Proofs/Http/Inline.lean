import Signpost.Proofs.Fallible
import Signpost.Proofs.Octets
import Signpost.Response.Head

/-!
# Texts that stay within their line

A carriage return starts every line end, so a text without one leaves the line
that it is put into whole.  Everything a response head is written from is such a
text once it has passed its check: header names that were read, header values,
cookies with their attributes, dates, content types and numbers.  The parts that a
cookie is written from hold no semicolon either, and stay within their piece of the
line (`IsPiece`).
-/

namespace Signpost

/-- A text without a carriage return. -/
def Inline (text : String) : Prop := '\r' ∉ text.toList

instance (text : String) : Decidable (Inline text) := inferInstanceAs (Decidable (¬_))

theorem inline_iff {text : String} : Inline text ↔ 0x0D ∉ Octets.ofText text := by
  rw [Inline, Octets.return_mem_ofText_iff]

theorem inline_append {a b : String} : Inline (a ++ b) ↔ Inline a ∧ Inline b := by
  rw [Inline, String.toList_append, List.mem_append, not_or]
  rfl

theorem inline_join {texts : List String} (each : ∀ text ∈ texts, Inline text) :
    Inline (String.join texts) := by
  induction texts with
  | nil => exact List.not_mem_nil
  | cons text rest ih =>
    rw [List.forall_mem_cons] at each
    rw [String.join_cons, inline_append]
    exact ⟨each.1, ih each.2⟩

/-- What holds of all octets of a text, but not of the carriage return, keeps the text inline. -/
theorem inline_of_all {text : String} {p : UInt8 → Bool} (all : (Octets.ofText text).all p)
    (other : p 0x0D = false) : Inline text := by
  rw [inline_iff]
  intro mem
  rw [List.all_eq_true.mp all 0x0D mem] at other
  cases other

/-! ## Pieces of a line -/

/-- The octets of a piece of a line that semicolons part: visible ASCII without the semicolon, and
the space. -/
def Octet.isPiece (b : UInt8) : Bool := Cookie.isAttributeOctet b || b == Octets.space

theorem Octet.isPiece_of_isAttributeOctet (b : UInt8) (octet : Cookie.isAttributeOctet b = true) :
    isPiece b = true :=
  Bool.or_eq_true_iff.mpr (.inl octet)

/-- A text that stays within its piece of a line. -/
def IsPiece (text : String) : Prop := (Octets.ofText text).all Octet.isPiece = true

instance (text : String) : Decidable (IsPiece text) := inferInstanceAs (Decidable (_ = _))

theorem isPiece_append {a b : String} : IsPiece (a ++ b) ↔ IsPiece a ∧ IsPiece b := by
  rw [IsPiece, Octets.ofText_append, List.all_append, Bool.and_eq_true]
  rfl

theorem isPiece_of_all {text : String} {p : UInt8 → Bool} (all : (Octets.ofText text).all p)
    (within : ∀ b, p b = true → Octet.isPiece b = true) : IsPiece text := by
  rw [IsPiece, List.all_eq_true]
  exact fun b mem => within b (List.all_eq_true.mp all b mem)

theorem IsPiece.inline {text : String} (piece : IsPiece text) : Inline text :=
  inline_of_all piece (by decide)

theorem IsPiece.semicolon_not_mem {text : String} (piece : IsPiece text) : ';' ∉ text.toList := by
  intro mem
  have octet := (Octets.ascii_mem_ofText_iff (by decide) text).mpr mem
  exact absurd (List.all_eq_true.mp piece _ octet) (by decide)

/-! ## Numbers and dates -/

theorem isPiece_of_digits {digits : List Char} (each : ∀ c ∈ digits, c.isDigit = true) :
    IsPiece (String.ofList digits) := by
  have written := @Octets.of_small
    (fun c => c.isDigit = true → (String.utf8EncodeChar c).all Octet.isPiece = true) (by decide)
  rw [IsPiece, Octets.ofText, String.toList_ofList, List.all_flatMap, List.all_eq_true]
  intro c mem
  have digit := each c mem
  refine written ?_ digit
  rw [Char.isDigit, Bool.and_eq_true, decide_eq_true_iff, decide_eq_true_iff] at digit
  exact Nat.lt_of_le_of_lt (UInt32.le_iff_toNat_le.mp digit.2) (by decide)

namespace Numeral

theorem isPiece_decimal (n : Nat) : IsPiece (decimal n) :=
  isPiece_of_digits fun _ mem => Nat.isDigit_of_mem_toDigits (by decide) (by decide) mem

theorem isPiece_decimalInt (n : Int) : IsPiece (decimalInt n) := by
  cases n with
  | ofNat n => exact isPiece_decimal n
  | negSucc n => exact isPiece_append.mpr ⟨by decide, isPiece_decimal (n + 1)⟩

theorem isPiece_padded (width n : Nat) : IsPiece (padded 10 width n) := by
  refine isPiece_of_digits fun c mem => ?_
  rcases List.mem_append.mp mem with zero | digit
  · rw [List.eq_of_mem_replicate zero]
    rfl
  · exact Nat.isDigit_of_mem_toDigits (by decide) (by decide) digit

end Numeral

theorem isPiece_getD {texts : List String} (each : ∀ text ∈ texts, IsPiece text) (i : Nat) :
    IsPiece (texts[i]?.getD "") := by
  cases found : texts[i]? with
  | none => exact List.all_nil
  | some text => exact each text (List.mem_of_getElem? found)

theorem Moment.isPiece_text (m : Moment) : IsPiece m.text := by
  have weekday : ∀ i, IsPiece (weekdays[i]?.getD "") := isPiece_getD (by decide)
  have month : ∀ i, IsPiece (months[i]?.getD "") := isPiece_getD (by decide)
  simp only [Moment.text, isPiece_append, Numeral.isPiece_padded, weekday, month]
  decide

/-! ## Cookies -/

namespace Cookie

theorem mem_unquoted {bytes : Octets} {b : UInt8} (mem : b ∈ bytes) (other : b ≠ 0x22) :
    b ∈ unquoted bytes := by
  unfold unquoted
  split
  · next rest =>
    split
    · next quoted =>
      have inside : b ∈ rest := (List.mem_cons.mp mem).resolve_left other
      obtain ⟨front, rfl⟩ := List.getLast?_eq_some_iff.mp (eq_of_beq quoted)
      rw [List.mem_append, List.mem_singleton] at inside
      rw [List.dropLast_concat]
      exact inside.resolve_right other
    · exact mem
  · exact mem

/-- What has passed the check. -/
theorem parts_of_check {c : Cookie} (checked : c.check = .ok ()) :
    (Octets.ofText c.name).isTokenText ∧ c.hasValidValue ∧ c.hasValidPath ∧ c.hasValidDomain := by
  unfold check at checked
  split at checked
  · cases checked
  · next name =>
    split at checked
    · cases checked
    · next value =>
      split at checked
      · cases checked
      · next path =>
        split at checked
        · cases checked
        · next domain => exact ⟨by simpa using name, by simpa using value, by simpa using path,
            by simpa using domain⟩

theorem isAttributeOctet_of_isToken (b : UInt8) (token : Octet.isToken b = true) :
    isAttributeOctet b = true := by
  have each : ∀ n < 256, Octet.isToken (UInt8.ofNat n) = true →
      isAttributeOctet (UInt8.ofNat n) = true := by decide +kernel
  rw [← b.ofNat_toNat] at token ⊢
  exact each b.toNat b.toNat_lt token

/-- The name and the value are visible, and hold no semicolon. -/
theorem isAttributeOctet_pair {c : Cookie} (name : (Octets.ofText c.name).isTokenText)
    (valid : c.hasValidValue) :
    (Octets.ofText (c.name ++ "=" ++ c.value)).all isAttributeOctet = true := by
  rw [Octets.isTokenText, Bool.and_eq_true] at name
  simp only [Octets.ofText_append, List.all_append, Bool.and_eq_true, List.all_eq_true]
  refine ⟨⟨fun b mem => ?_, List.all_eq_true.mp (by decide)⟩, fun b mem => ?_⟩
  · exact isAttributeOctet_of_isToken b (List.all_eq_true.mp name.2 b mem)
  · by_cases quote : b = 0x22
    · rw [quote]
      rfl
    · have inside := List.all_eq_true.mp valid b (mem_unquoted mem quote)
      simp only [isValueOctet, Bool.and_eq_true] at inside
      exact Bool.and_eq_true_iff.mpr ⟨inside.1.1.1.1, inside.1.2⟩

/-- The name and the value make up the first piece. -/
theorem isPiece_pair {c : Cookie} (name : (Octets.ofText c.name).isTokenText)
    (valid : c.hasValidValue) : IsPiece (c.name ++ "=" ++ c.value) :=
  isPiece_of_all (isAttributeOctet_pair name valid) Octet.isPiece_of_isAttributeOctet

theorem isPiece_attributes {c : Cookie} (path : c.hasValidPath) (domain : c.hasValidDomain) :
    ∀ part ∈ c.attributes, IsPiece part := by
  have within := Octet.isPiece_of_isAttributeOctet
  intro part mem
  obtain ⟨part?, among, there⟩ := List.mem_filterMap.mp mem
  simp only [List.mem_cons, List.not_mem_nil, or_false] at among
  rcases among with rfl | rfl | rfl | rfl | rfl | rfl | rfl
  · obtain ⟨text, own, rfl⟩ := Option.map_eq_some_iff.mp there
    rw [hasValidPath, own] at path
    exact isPiece_append.mpr ⟨by decide, isPiece_of_all path within⟩
  · obtain ⟨text, own, rfl⟩ := Option.map_eq_some_iff.mp there
    rw [hasValidDomain, own] at domain
    dsimp only at domain
    rw [Bool.and_eq_true] at domain
    exact isPiece_append.mpr ⟨by decide, isPiece_of_all domain.2 within⟩
  · obtain ⟨moment, _, rfl⟩ := Option.map_eq_some_iff.mp there
    exact isPiece_append.mpr ⟨by decide, moment.isPiece_text⟩
  · obtain ⟨seconds, _, rfl⟩ := Option.map_eq_some_iff.mp there
    exact isPiece_append.mpr ⟨by decide, Numeral.isPiece_decimalInt seconds⟩
  · obtain ⟨_, same⟩ := Option.ite_none_right_eq_some.mp there
    cases same
    decide
  · obtain ⟨_, same⟩ := Option.ite_none_right_eq_some.mp there
    cases same
    decide
  · obtain ⟨sameSite, _, rfl⟩ := Option.map_eq_some_iff.mp there
    have site : IsPiece sameSite.text := by cases sameSite <;> decide
    exact isPiece_append.mpr ⟨by decide, site⟩

/-- A cookie that passes its check leaves its line whole. -/
theorem inline_render {c : Cookie} (checked : c.check = .ok ()) : Inline c.render := by
  obtain ⟨name, value, path, domain⟩ := parts_of_check checked
  have pieces : ∀ piece ∈ c.attributes.map ("; " ++ ·), Inline piece := by
    rw [List.forall_mem_map]
    intro part mem
    exact inline_append.mpr ⟨by decide, (isPiece_attributes path domain part mem).inline⟩
  rw [render, inline_append]
  exact ⟨(isPiece_pair name value).inline, inline_join pieces⟩

end Cookie

/-! ## Content types and header fields -/

theorem ContentType.inline_text (c : ContentType) : Inline c.text := by
  have mediaType : Inline c.mediaType.text := by cases c.mediaType <;> decide
  rw [ContentType.text]
  split
  · next charset _ =>
    have charset : Inline charset.text := by cases charset <;> decide
    simp only [inline_append]
    exact ⟨⟨mediaType, by decide⟩, charset⟩
  · exact mediaType

theorem Status.inline_lineText (s : Status) (v : Version) : Inline (s.lineText v) := by
  have version : Inline v.text := by cases v <;> decide
  simp only [lineText, inline_append]
  exact ⟨⟨version, by decide⟩, (Numeral.isPiece_decimal s.code).inline⟩

theorem HeaderValue.inline_of_isValid {value : String} (valid : isValid value) : Inline value := by
  intro mem
  have kept := List.all_eq_true.mp valid '\r' mem
  exact absurd kept (by decide)

end Signpost
