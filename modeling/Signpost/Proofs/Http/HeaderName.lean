import Signpost.Http.HeadError
import Signpost.Proofs.Octets
import Signpost.Proofs.Text.Utf8

/-!
# Header names that were read

Exactly the tokens are read as header names, each as what it is in lower case
(`parse_eq_ok_iff`).  Names that were read are told apart by what they are on
the wire: no custom one is a standard one in another letter case
(`Read.eq_standard`), so a name which no response may carry cannot come in as a
custom text.  Two texts are therefore read as one name exactly if they are the
same up to letter case (`eq_iff_of_parse`).
-/

namespace Signpost

namespace StandardHeader

theorem ofText?_text (known : StandardHeader) : ofText? known.text = some known := by
  cases known <;> decide +kernel

theorem text_of_ofText? {name : String} {known : StandardHeader}
    (found : ofText? name = some known) : known.text = name := by
  have same := List.find?_some found
  exact eq_of_beq same

theorem isTokenText_text (known : StandardHeader) : (Octets.ofText known.text).isTokenText := by
  cases known <;> decide +kernel

theorem lower_text (known : StandardHeader) :
    (Octets.ofText known.text).lower = Octets.ofText known.text := by
  cases known <;> decide +kernel

theorem text_injective : Function.Injective text := by
  intro a b same
  have found := a.ofText?_text
  rw [same, b.ofText?_text] at found
  exact (Option.some.inj found).symm

/-- No two standard names are the same in any letter case. -/
theorem eqFold_text_iff {a b : StandardHeader} :
    (Octets.ofText a.text).eqFold (Octets.ofText b.text) ↔ a = b := by
  rw [Octets.eqFold, beq_iff_eq, a.lower_text, b.lower_text, Utf8.ofText_inj]
  exact text_injective.eq_iff

end StandardHeader

namespace HeaderName

variable {name other : HeaderName} {a b : String}

/-- The name that a token in lower case stands for. -/
def ofLower (lower : String) : HeaderName :=
  (StandardHeader.ofText? lower).elim (custom lower) standard

theorem text_ofLower (lower : String) : (ofLower lower).text = lower := by
  rw [ofLower]
  cases found : StandardHeader.ofText? lower with
  | some known => exact StandardHeader.text_of_ofText? found
  | none => rfl

/-- Every token is read, and nothing else is. -/
theorem parse_eq (text : String) :
    parse text = if (Octets.ofText text).isTokenText then .ok (ofLower (asciiLower text))
      else .error (.invalidName text) := by
  rw [parse, ofText?]
  by_cases token : (Octets.ofText text).isTokenText = true
  · rw [if_pos token, if_pos token, ofLower]
    dsimp only
    cases StandardHeader.ofText? (asciiLower text) with
    | some known => rfl
    | none => rfl
  · rw [if_neg token, if_neg token]

theorem parse_eq_ok_iff :
    parse a = .ok name ↔ (Octets.ofText a).isTokenText ∧ ofLower (asciiLower a) = name := by
  rw [parse_eq]
  by_cases token : (Octets.ofText a).isTokenText = true
  · rw [if_pos token, Except.ok.injEq, and_iff_right token]
  · rw [if_neg token]
    exact ⟨nofun, fun both => absurd both.1 token⟩

theorem text_of_parse (read : parse a = .ok name) : name.text = asciiLower a := by
  rw [← (parse_eq_ok_iff.mp read).2, text_ofLower]

/-- A name that reading yields. -/
def Read (name : HeaderName) : Prop := ∃ text, parse text = .ok name

theorem Read.lower_text (read : name.Read) :
    (Octets.ofText name.text).lower = Octets.ofText name.text := by
  obtain ⟨text, read⟩ := read
  rw [text_of_parse read, Octets.lower_ofText_asciiLower, Octets.lower_ofText]

theorem Read.isTokenText (read : name.Read) : (Octets.ofText name.text).isTokenText := by
  obtain ⟨text, read⟩ := read
  rw [text_of_parse read, ← Octets.lower_ofText, Octets.isTokenText_lower]
  exact (parse_eq_ok_iff.mp read).1

/-- What a name is on the wire tells the name, also where it is a custom one. -/
theorem Read.ofLower_text (read : name.Read) : ofLower name.text = name := by
  obtain ⟨text, read⟩ := read
  rw [text_of_parse read]
  exact (parse_eq_ok_iff.mp read).2

/-- A token that is in lower case already is read as what it stands for. -/
theorem parse_of_lower (token : (Octets.ofText a).isTokenText)
    (lower : (Octets.ofText a).lower = Octets.ofText a) : parse a = .ok (ofLower a) := by
  have settled : asciiLower a = a := by
    rw [← Utf8.ofText_inj, ← Octets.lower_ofText, lower]
  rw [parse_eq, if_pos token, settled]

/-- What a name is on the wire is read as that name. -/
theorem Read.parse_text (read : name.Read) : parse name.text = .ok name := by
  rw [parse_of_lower read.isTokenText read.lower_text, read.ofLower_text]

theorem read_standard (known : StandardHeader) : (standard known).Read := by
  refine ⟨known.text, ?_⟩
  rw [parse_of_lower known.isTokenText_text known.lower_text, ofLower, known.ofText?_text]
  rfl

/-- Names that were read are the same exactly if they are the same on the wire, up to letter
case. -/
theorem Read.eq_iff_eqFold (read : name.Read) (read' : other.Read) :
    name = other ↔ (Octets.ofText name.text).eqFold (Octets.ofText other.text) := by
  rw [Octets.eqFold, beq_iff_eq, read.lower_text, read'.lower_text, Utf8.ofText_inj]
  constructor
  · exact congrArg HeaderName.text
  · intro same
    rw [← read.ofLower_text, same, read'.ofLower_text]

/-- No custom name that was read is a standard one in another letter case. -/
theorem Read.eq_standard (read : name.Read) {known : StandardHeader}
    (same : (Octets.ofText name.text).eqFold (Octets.ofText known.text)) :
    name = .standard known :=
  (read.eq_iff_eqFold (read_standard known)).mpr same

/-- Two texts are read as one name exactly if they are the same up to letter case. -/
theorem eq_iff_of_parse (read : parse a = .ok name) (read' : parse b = .ok other) :
    name = other ↔ (Octets.ofText a).eqFold (Octets.ofText b) := by
  rw [Read.eq_iff_eqFold ⟨a, read⟩ ⟨b, read'⟩, text_of_parse read, text_of_parse read',
    Octets.eqFold, Octets.eqFold, Octets.lower_ofText_asciiLower, Octets.lower_ofText_asciiLower]

/-- A standard name is read from what it is on the wire in any letter case, and from nothing
else. -/
theorem parse_eq_standard_iff {known : StandardHeader} :
    parse a = .ok (.standard known) ↔ (Octets.ofText a).eqFold (Octets.ofText known.text) := by
  have own : parse known.text = .ok (.standard known) := (read_standard known).parse_text
  constructor
  · intro read
    exact (eq_iff_of_parse read own).mp rfl
  · intro same
    -- letter case makes no token of a text that is none, so the text is read
    have token : (Octets.ofText a).isTokenText = true := by
      rw [← Octets.isTokenText_lower, beq_iff_eq.mp same, Octets.isTokenText_lower]
      exact known.isTokenText_text
    have read := parse_eq_ok_iff.mpr ⟨token, rfl⟩
    rw [read, (eq_iff_of_parse read own).mpr same]

end HeaderName

end Signpost
