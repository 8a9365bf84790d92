import Mathlib.Data.List.Forall2
import Signpost.Proofs.Http.HeaderName
import Signpost.Response.Head

/-!
# Headers under a name

A response head compares the names of headers as values.  A client compares them as they are
on the wire, up to letter case (`spelledAlike`).  For names that were read this comes to the
same (`HeaderName.Read.spelledAlike_iff`), so a head sets, removes and finds the headers that a
client takes for those of the name (`HeaderName.parse_canonicalizes`).  Edits in a row therefore
leave in a head what they leave in a list of fields whose names are only ever compared as they
are spelled (`SpelledFields.ReadAs.run`), and every name that is looked up afterwards finds the same
value in both (`SpelledFields.ReadAs.get?_run`).
-/

namespace Signpost

/-- Whether two texts spell one header name, that is, are the same up to ASCII letter case. -/
def spelledAlike (a b : String) : Bool := (Octets.ofText a).eqFold (Octets.ofText b)

namespace HeaderName

variable {name other : HeaderName} {a : String}

/-- On the wire a name is spelled like the text that it was read from. -/
theorem spelledAlike_text (read : parse a = .ok name) (b : String) :
    spelledAlike name.text b = spelledAlike a b := by
  rw [text_of_parse read, spelledAlike, spelledAlike, Octets.eqFold, Octets.eqFold,
    Octets.lower_ofText_asciiLower]

/-- A text spells a name that was read exactly if it is read as that name. -/
theorem Read.spelledAlike_iff (read : other.Read) (read' : parse a = .ok name) :
    spelledAlike other.text a ↔ other = name :=
  (eq_iff_of_parse read.parse_text read').symm

end HeaderName

namespace ResponseHead

variable {h : ResponseHead} {name : HeaderName} {a : String}

/-- The headers that are removed are those whose names are spelled like the text of the name. -/
theorem remove_eq (names : ∀ header ∈ h.headers, header.1.Read)
    (read : HeaderName.parse a = .ok name) :
    h.remove name =
      { h with headers := h.headers.filter fun header => !spelledAlike header.1.text a } := by
  have same : ∀ header ∈ h.headers, (header.1 != name) = !spelledAlike header.1.text a := by
    intro header mem
    rw [bne, Bool.not_inj_iff, Bool.eq_iff_iff, beq_iff_eq]
    exact ((names header mem).spelledAlike_iff read).symm
  rw [remove, List.filter_congr same]

theorem set_eq (names : ∀ header ∈ h.headers, header.1.Read)
    (read : HeaderName.parse a = .ok name) (value : String) :
    h.set name value =
      { h with
        headers := (h.headers.filter fun header => !spelledAlike header.1.text a) ++
          [(name, value)] } := by
  rw [set, remove_eq names read]
  rfl

theorem get?_eq (names : ∀ header ∈ h.headers, header.1.Read)
    (read : HeaderName.parse a = .ok name) :
    h.get? name =
      (h.headers.find? fun header => spelledAlike header.1.text a).map Prod.snd := by
  rw [get?]
  generalize h.headers = headers at names ⊢
  induction headers with
  | nil => rfl
  | cons header rest ih =>
    rw [List.forall_mem_cons] at names
    have own := names.1.spelledAlike_iff read
    rw [List.lookup_cons, List.find?_cons]
    by_cases same : header.1 = name
    · rw [own.mpr same, same, beq_self_eq_true]
      rfl
    · rw [beq_false_of_ne (Ne.symm same), Bool.eq_false_iff.mpr (mt own.mp same)]
      exact ih names.2

end ResponseHead

namespace HeaderName

/-- Reading makes one header name of all that clients take for the same.  Exactly the tokens are
read, each as the name that it is in lower case, which is read as itself again.  A standard name is
read from its own spellings, and two texts as one name exactly if they are spelled alike.  So among
headers whose names were read, those that are replaced, removed and found under a name that was read
are the ones that a client takes for it. -/
theorem parse_canonicalizes (a b : String) :
    ((∃ name, parse a = .ok name) ↔ a ≠ "" ∧ ∀ octet ∈ Octets.ofText a, Octet.isToken octet) ∧
      (∀ known, parse a = .ok (.standard known) ↔ spelledAlike a known.text) ∧
      ∀ name, parse a = .ok name →
        name.text = asciiLower a ∧ parse name.text = .ok name ∧
        (∀ other, parse b = .ok other → (name = other ↔ spelledAlike a b)) ∧
        ∀ h : ResponseHead, (∀ header ∈ h.headers, header.1.Read) →
          (∀ value, h.set name value =
            { h with
              headers := (h.headers.filter fun header => !spelledAlike header.1.text a) ++
                [(name, value)] }) ∧
          h.remove name =
            { h with headers := h.headers.filter fun header => !spelledAlike header.1.text a } ∧
          h.get? name =
            (h.headers.find? fun header => spelledAlike header.1.text a).map Prod.snd := by
  refine ⟨?_, fun known => parse_eq_standard_iff, ?_⟩
  · rw [ne_eq, ← Octets.ofText_eq_nil_iff, ← ne_eq, ← Octets.isTokenText_iff]
    constructor
    · rintro ⟨name, read⟩
      exact (parse_eq_ok_iff.mp read).1
    · intro token
      exact ⟨_, parse_eq_ok_iff.mpr ⟨token, rfl⟩⟩
  · intro name read
    have own : name.Read := ⟨a, read⟩
    refine ⟨text_of_parse read, own.parse_text, fun other read' => eq_iff_of_parse read read', ?_⟩
    intro h names
    exact ⟨ResponseHead.set_eq names read, ResponseHead.remove_eq names read,
      ResponseHead.get?_eq names read⟩

/-- A head with two headers of one name, and another one between them. -/
def repeatedHead : ResponseHead where
  headers := [(.custom "x-trace", "1"), (.standard .server, "2"), (.custom "x-trace", "3")]

/-- Under a spelling that none of them has, the first header is found and both are replaced. -/
theorem parse_canonicalizes_repeatedHead :
    ((parse "X-Trace" = .ok (.custom "x-trace") ∧ parse "x-TRACE" = .ok (.custom "x-trace")) ∧
        ∀ header ∈ repeatedHead.headers, header.1.Read) ∧
      spelledAlike "X-Trace" "x-TRACE" ∧ parse "x-trace" = .ok (.custom "x-trace") ∧
      repeatedHead.get? (.custom "x-trace") = some "1" ∧
      repeatedHead.set (.custom "x-trace") "4" =
        { headers := [(.standard .server, "2"), (.custom "x-trace", "4")] } := by
  have lower : asciiLower "X-Trace" = "x-trace" := by
    rw [← String.toList_inj, asciiLower, String.toList_map]
    decide
  have lower' : asciiLower "x-TRACE" = "x-trace" := by
    rw [← String.toList_inj, asciiLower, String.toList_map]
    decide
  have read : parse "X-Trace" = .ok (.custom "x-trace") :=
    parse_eq_ok_iff.mpr ⟨by decide, by rw [lower]; rfl⟩
  have read' : parse "x-TRACE" = .ok (.custom "x-trace") :=
    parse_eq_ok_iff.mpr ⟨by decide, by rw [lower']; rfl⟩
  have names : ∀ header ∈ repeatedHead.headers, header.1.Read := by
    rw [repeatedHead, List.forall_mem_cons, List.forall_mem_cons, List.forall_mem_singleton]
    exact ⟨⟨_, read⟩, read_standard .server, ⟨_, read⟩⟩
  obtain ⟨_, _, canonical⟩ := parse_canonicalizes "X-Trace" "x-TRACE"
  obtain ⟨_, again, alike, within⟩ := canonical _ read
  obtain ⟨replaced, _, found⟩ := within repeatedHead names
  refine ⟨⟨⟨read, read'⟩, names⟩, (alike _ read').mp rfl, again, ?_, ?_⟩
  · rw [found]
    decide
  · rw [replaced]
    decide

end HeaderName

/-! ## Edits in a row -/

/-- Header fields in order, each with its name as it was spelled, and its value. -/
abbrev SpelledFields := List (String × String)

namespace SpelledFields

def remove (fields : SpelledFields) (name : String) : SpelledFields :=
  fields.filter fun field => !spelledAlike field.1 name

def set (fields : SpelledFields) (name value : String) : SpelledFields :=
  fields.remove name ++ [(name, value)]

def get? (fields : SpelledFields) (name : String) : Option String :=
  (fields.find? fun field => spelledAlike field.1 name).map Prod.snd

/-- What the fields are in a head, once their names have been read. -/
def ReadAs (fields : SpelledFields) (headers : List (HeaderName × String)) : Prop :=
  List.Forall₂ (fun field header => HeaderName.parse field.1 = .ok header.1 ∧ field.2 = header.2)
    fields headers

variable {fields : SpelledFields} {headers : List (HeaderName × String)} {h : ResponseHead}
  {name : HeaderName} {a : String}

namespace ReadAs

theorem names_read (readAs : fields.ReadAs headers) : ∀ header ∈ headers, header.1.Read := by
  induction readAs with
  | nil => exact nofun
  | cons pair _ ih => exact List.forall_mem_cons.mpr ⟨⟨_, pair.1⟩, ih⟩

theorem remove (readAs : fields.ReadAs headers) (a : String) :
    (fields.remove a).ReadAs (headers.filter fun header => !spelledAlike header.1.text a) := by
  refine List.rel_filter ?_ readAs
  intro field header pair
  dsimp only
  rw [HeaderName.spelledAlike_text pair.1]

theorem concat (readAs : fields.ReadAs headers) (read : HeaderName.parse a = .ok name)
    (value : String) : ReadAs (fields ++ [(a, value)]) (headers ++ [(name, value)]) :=
  List.rel_append readAs (.cons ⟨read, rfl⟩ .nil)

theorem get?_eq (readAs : fields.ReadAs h.headers) (read : HeaderName.parse a = .ok name) :
    h.get? name = fields.get? a := by
  rw [ResponseHead.get?_eq readAs.names_read read, SpelledFields.get?]
  generalize h.headers = headers at readAs
  induction readAs with
  | nil => rfl
  | cons pair _ ih =>
    rw [List.find?_cons, List.find?_cons, HeaderName.spelledAlike_text pair.1]
    split
    · exact congrArg some pair.2.symm
    · exact ih

end ReadAs

end SpelledFields

/-- A call that changes the headers of a head, under a name as the caller spells it. -/
inductive HeaderEdit where
  | append (name value : String)
  | set (name value : String)
  | remove (name : String)

namespace HeaderEdit

def name : HeaderEdit → String
  | append name _ | set name _ | remove name => name

/-- What the call makes of a head.  If its name cannot be read, it is not made. -/
def onHead (edit : HeaderEdit) (h : ResponseHead) : ResponseHead :=
  match HeaderName.parse edit.name with
  | .error _ => h
  | .ok name =>
    match edit with
    | append _ value => h.append name value
    | set _ value => h.set name value
    | remove _ => h.remove name

/-- What the call comes to where names are only compared. -/
def onFields (edit : HeaderEdit) (fields : SpelledFields) : SpelledFields :=
  if (Octets.ofText edit.name).isTokenText then
    match edit with
    | append name value => fields ++ [(name, value)]
    | set name value => fields.set name value
    | remove name => fields.remove name
  else fields

end HeaderEdit

namespace SpelledFields.ReadAs

variable {fields : SpelledFields} {h : ResponseHead}

/-- One edit leaves in a head what it leaves among the fields. -/
theorem step (readAs : fields.ReadAs h.headers) (edit : HeaderEdit) :
    ∃ headers, edit.onHead h = { h with headers := headers } ∧
      (edit.onFields fields).ReadAs headers := by
  unfold HeaderEdit.onHead HeaderEdit.onFields
  rw [HeaderName.parse_eq]
  -- both sides ask the same of the name, so the call is made on both or on neither
  by_cases token : (Octets.ofText edit.name).isTokenText = true
  · have read := HeaderName.parse_eq_ok_iff.mpr ⟨token, rfl⟩
    rw [if_pos token, if_pos token]
    cases edit with
    | append a value => exact ⟨_, rfl, readAs.concat read value⟩
    | set a value =>
      have onHead := ResponseHead.set_eq readAs.names_read read value
      exact ⟨_, onHead, (readAs.remove a).concat read value⟩
    | remove a => exact ⟨_, ResponseHead.remove_eq readAs.names_read read, readAs.remove a⟩
  · rw [if_neg token, if_neg token]
    exact ⟨h.headers, rfl, readAs⟩

/-- After any edits a head has the headers that the same edits leave among the fields, and
everything else in it is as it was. -/
theorem run (readAs : fields.ReadAs h.headers) (edits : List HeaderEdit) :
    ∃ headers, edits.foldl (fun h edit => edit.onHead h) h = { h with headers := headers } ∧
      (edits.foldl (fun fields edit => edit.onFields fields) fields).ReadAs headers := by
  induction edits generalizing fields h with
  | nil => exact ⟨h.headers, rfl, readAs⟩
  | cons edit rest ih =>
    obtain ⟨headers, first, readAs⟩ := readAs.step edit
    rw [List.foldl_cons, List.foldl_cons, first]
    exact ih readAs

/-- After any edits a name finds in a head what it finds among the fields. -/
theorem get?_run (readAs : fields.ReadAs h.headers) (edits : List HeaderEdit) {name : HeaderName}
    {a : String} (read : HeaderName.parse a = .ok name) :
    (edits.foldl (fun h edit => edit.onHead h) h).get? name =
      (edits.foldl (fun fields edit => edit.onFields fields) fields).get? a := by
  obtain ⟨headers, whole, readAs⟩ := readAs.run edits
  rw [whole]
  exact readAs.get?_eq read

end SpelledFields.ReadAs

end Signpost
