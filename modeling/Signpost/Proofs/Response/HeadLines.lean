import Signpost.Proofs.Http.HeaderName
import Signpost.Proofs.Http.Inline
import Signpost.Proofs.Request.HeadLength
import Signpost.Proofs.Text.Pieces

/-!
# The lines of a response head

A head is written as the lines it declares, with an end behind each of them and a
blank line (`render_dated`, `render_undated`).  If it passes its check, and its names
are tokens, no line holds a line end (`unbroken_headLines`), so the first blank line
is where the head ends, and the lines come apart again.  Where no name is one that
responses write of their own accord, such lines are there only as the response has
written them (`filter_headLines`).
-/

namespace Signpost

open Octets (colon crlf headEnd)

/-- The headers that a response writes of its own accord. -/
def StandardHeader.guarded : List StandardHeader :=
  [.contentLength, .transferEncoding, .date, .contentType, .setCookie]

namespace HeaderName

/-- The name is a token, and none of those that a response writes of its own accord, in any letter
case. -/
structure Harmless (name : HeaderName) : Prop where
  token : (Octets.ofText name.text).isTokenText
  unlike : ∀ known ∈ StandardHeader.guarded,
    ¬(Octets.ofText name.text).eqFold (Octets.ofText known.text)

/-- No name that was read is a guarded one, unless it is refused. -/
theorem Read.harmless {name : HeaderName} (read : name.Read)
    (allowed : ResponseHead.isReserved name = false) : name.Harmless := by
  refine ⟨read.isTokenText, ?_⟩
  intro known guarded same
  rw [read.eq_standard same] at allowed
  simp only [StandardHeader.guarded, List.mem_cons, List.not_mem_nil, or_false] at guarded
  rcases guarded with rfl | rfl | rfl | rfl | rfl <;> cases allowed

end HeaderName

namespace Octets

/-- A header line without its line end. -/
def fieldLine (name : String) (value : Octets) : Octets := ofText name ++ ofText ": " ++ value

/-- Whether a line is a header line of a name, in any letter case. -/
def isField (name : String) (line : Octets) : Bool := eqFold (upTo colon line) (ofText name)

theorem unbroken_fieldLine {name : String} {value : Octets} (free : Inline name)
    (unbroken : Unbroken value) : Unbroken (fieldLine name value) := by
  rw [fieldLine, List.append_assoc]
  exact unbroken_append (inline_iff.mp free) (unbroken_append (by decide) unbroken)

/-- No date of a moment holds a line end. -/
theorem unbroken_wire (m : Moment) : Unbroken m.wire :=
  unbroken_of_not_mem (inline_iff.mp m.isPiece_text.inline)

theorem fieldLine_ne_nil (name : String) (value : Octets) : fieldLine name value ≠ [] := by
  intro empty
  have inside : colon ∈ fieldLine name value :=
    List.mem_append_left _ (List.mem_append_right _ (by decide))
  rw [empty] at inside
  cases inside

/-- The name of a header line is what stands before its colon. -/
theorem isField_fieldLine {name : String} (free : colon ∉ ofText name) (known : String)
    (value : Octets) :
    isField known (fieldLine name value) = eqFold (ofText name) (ofText known) := by
  have cut : upTo colon (fieldLine name value) = ofText name := by
    rw [fieldLine, List.append_assoc]
    exact upTo_append_sep free _
  rw [isField, cut]

/-- Lines of one name are the header lines of that name, and of no other. -/
theorem filter_isField_map {α : Type} {k : StandardHeader} {n : String} (spelled : k.text = n)
    (known : StandardHeader) (value : α → Octets) (items : List α) :
    (items.map fun item => fieldLine n (value item)).filter (isField known.text) =
      if k = known then items.map fun item => fieldLine n (value item) else [] := by
  have free : colon ∉ ofText k.text := colon_not_mem k.isTokenText_text
  subst spelled
  split
  · next same =>
    rw [List.filter_eq_self, List.forall_mem_map]
    intro item _
    rw [isField_fieldLine free]
    exact StandardHeader.eqFold_text_iff.mpr same
  · next other =>
    rw [List.filter_eq_nil_iff, List.forall_mem_map]
    intro item _
    rw [isField_fieldLine free]
    exact mt StandardHeader.eqFold_text_iff.mp other

/-- Lines with an end behind each of them, and a blank line. -/
theorem flatten_map_append_crlf (first : Octets) (rest : List Octets) :
    ((first :: rest).map (· ++ crlf)).flatten ++ crlf = joined crlf (first :: rest) ++ headEnd := by
  induction rest generalizing first with
  | nil =>
    rw [List.map_singleton, List.flatten_singleton, List.append_assoc]
    rfl
  | cons next more ih =>
    rw [List.map_cons, List.flatten_cons, List.append_assoc, ih,
      joined_cons (List.cons_ne_nil next more)]
    simp only [List.append_assoc]

end Octets

namespace ResponseHead

open Octets (fieldLine isField)

variable {h : ResponseHead} {date? : Option Octets} {framing : Framing}

def framingField : Framing → List Octets
  | .length n => [fieldLine "content-length" (Octets.ofText (Numeral.decimal n))]
  | .chunked => [fieldLine "transfer-encoding" (Octets.ofText "chunked")]
  | .bare => []

/-- The lines between the date and the framing, without their line ends. -/
def fields (h : ResponseHead) : List Octets :=
  h.headers.map (fun (name, value) => fieldLine name.text (Octets.ofText value)) ++
    h.cookies.map (fun cookie => fieldLine "set-cookie" (Octets.ofText cookie.render)) ++
    h.contentType.toList.map (fun c => fieldLine "content-type" (Octets.ofText c.text))

/-- The lines before the framing. -/
def declared (h : ResponseHead) (date? : Option Octets) : List Octets :=
  Octets.ofText (h.status.lineText h.version) ::
    (date?.toList.map (fieldLine "date") ++ h.fields)

/-- The lines of one name that a response writes of its own accord. -/
def ownLines (h : ResponseHead) (date? : Option Octets) (framing : Framing) :
    StandardHeader → List Octets
  | .date => date?.toList.map (fieldLine "date")
  | .setCookie => h.cookies.map fun cookie => fieldLine "set-cookie" (Octets.ofText cookie.render)
  | .contentType =>
    h.contentType.toList.map fun c => fieldLine "content-type" (Octets.ofText c.text)
  | .contentLength =>
    match framing with
    | .length n => [fieldLine "content-length" (Octets.ofText (Numeral.decimal n))]
    | _ => []
  | .transferEncoding =>
    match framing with
    | .chunked => [fieldLine "transfer-encoding" (Octets.ofText "chunked")]
    | _ => []
  | _ => []

/-- The lines of a head in order, without their line ends. -/
def headLines (h : ResponseHead) (date? : Option Octets) (framing : Framing) : List Octets :=
  h.declared date? ++ framingField framing

/-! ## Rendering -/

theorem tail_eq (h : ResponseHead) (framing : Framing) :
    h.tail framing = ((h.fields ++ framingField framing).map (· ++ crlf)).flatten ++ crlf := by
  have framed : framingLines framing = (framingField framing).map (· ++ crlf) := by
    cases framing <;> rfl
  rw [tail, fieldLines, framed, fields]
  simp only [List.map_append, List.map_map]
  rfl

theorem render_undated (h : ResponseHead) (framing : Framing) :
    (h.render framing false).front = joined crlf (h.headLines none framing) ++ headEnd := by
  rw [headLines, declared, List.cons_append, ← Octets.flatten_map_append_crlf]
  simp only [render, tail_eq, Status.line, List.map_cons, List.flatten_cons, List.append_assoc,
    Option.toList_none, List.map_nil, List.nil_append]
  rfl

theorem render_dated (h : ResponseHead) (framing : Framing) (date : Octets) :
    (h.render framing true).front ++ date ++ (h.render framing true).back =
      joined crlf (h.headLines (some date) framing) ++ headEnd := by
  have label : dateLabel ++ date = fieldLine "date" date := rfl
  rw [headLines, declared, List.cons_append, ← Octets.flatten_map_append_crlf]
  simp only [render, tail_eq, Status.line, List.map_cons, List.flatten_cons, List.append_assoc,
    Option.toList_some, List.map_nil, List.cons_append, List.nil_append, ← label,
    if_true]

/-! ## Checked heads -/

theorem parts_of_check (checked : h.check = .ok ()) :
    (∀ header ∈ h.headers, isReserved header.1 = false ∧ HeaderValue.isValid header.2) ∧
      ∀ cookie ∈ h.cookies, cookie.check = .ok () := by
  rw [check] at checked
  obtain ⟨_, headers, cookies⟩ := exists_of_bind_eq_ok checked
  rw [forM_eq_ok_iff] at headers cookies
  refine ⟨fun header mem => ?_, fun cookie mem => eq_ok_of_mapError_eq_ok (cookies cookie mem)⟩
  have passed := headers header mem
  dsimp only at passed
  rw [checkHeader] at passed
  split at passed
  · cases passed
  · next allowed =>
    rw [HeaderName.checkValue] at passed
    split at passed
    · next valid => exact ⟨by simpa using allowed, valid⟩
    · cases passed

/-- In a head that passes its check, names that were read are harmless. -/
theorem harmless_of_read (checked : h.check = .ok ()) (read : ∀ header ∈ h.headers, header.1.Read) :
    ∀ header ∈ h.headers, header.1.Harmless := by
  intro header mem
  exact (read header mem).harmless ((parts_of_check checked).1 header mem).1

/-- What holds of every kind of line holds of all that are declared. -/
theorem forall_mem_declared {P : Octets → Prop}
    (status : P (Octets.ofText (h.status.lineText h.version)))
    (date : ∀ date ∈ date?, P (fieldLine "date" date))
    (headers : ∀ header ∈ h.headers, P (fieldLine header.1.text (Octets.ofText header.2)))
    (cookies : ∀ cookie ∈ h.cookies, P (fieldLine "set-cookie" (Octets.ofText cookie.render)))
    (contentType : ∀ c ∈ h.contentType, P (fieldLine "content-type" (Octets.ofText c.text))) :
    ∀ line ∈ h.declared date?, P line := by
  rw [declared, fields, List.forall_mem_cons]
  refine ⟨status, ?_⟩
  simp only [List.forall_mem_append, List.forall_mem_map, Option.mem_toList]
  exact ⟨date, ⟨headers, cookies⟩, contentType⟩

/-- The status line starts with a letter that no framing name starts with. -/
theorem exists_statusLine (h : ResponseHead) :
    ∃ rest, Octets.ofText (h.status.lineText h.version) = 0x48 :: rest := by
  rw [Status.lineText, Octets.ofText_append, Octets.ofText_append]
  cases h.version <;> exact ⟨_, rfl⟩

theorem full_headLines (h : ResponseHead) (date? : Option Octets) (framing : Framing) :
    [] ∉ h.headLines date? framing := by
  have declared : ∀ line ∈ h.declared date?, line ≠ [] := by
    obtain ⟨rest, status⟩ := h.exists_statusLine
    refine forall_mem_declared (status ▸ List.cons_ne_nil _ _) ?_ ?_ ?_ ?_ <;>
      exact fun _ _ => Octets.fieldLine_ne_nil _ _
  have framed : ∀ line ∈ framingField framing, line ≠ [] := by
    cases framing with
    | length n => exact List.forall_mem_singleton.mpr (Octets.fieldLine_ne_nil _ _)
    | chunked => exact List.forall_mem_singleton.mpr (Octets.fieldLine_ne_nil _ _)
    | bare => exact nofun
  intro mem
  rcases List.mem_append.mp mem with mem | mem
  · exact declared [] mem rfl
  · exact framed [] mem rfl

theorem unbroken_headLines (checked : h.check = .ok ())
    (token : ∀ header ∈ h.headers, (Octets.ofText header.1.text).isTokenText)
    (date : ∀ date ∈ date?, Octets.Unbroken date) :
    ∀ line ∈ h.headLines date? framing, line.Unbroken := by
  obtain ⟨headers, cookies⟩ := parts_of_check checked
  have text : ∀ {text : String}, Inline text → (Octets.ofText text).Unbroken :=
    fun free => Octets.unbroken_of_not_mem (inline_iff.mp free)
  have field : ∀ {name value : String}, Inline name → Inline value →
      (fieldLine name (Octets.ofText value)).Unbroken :=
    fun name value => Octets.unbroken_fieldLine name (text value)
  have framed : ∀ line ∈ framingField framing, line.Unbroken := by
    cases framing with
    | length n =>
      exact List.forall_mem_singleton.mpr (field (by decide) (Numeral.isPiece_decimal n).inline)
    | chunked => exact List.forall_mem_singleton.mpr (field (by decide) (by decide))
    | bare => exact nofun
  rw [headLines, List.forall_mem_append]
  refine ⟨forall_mem_declared ?_ ?_ ?_ ?_ ?_, framed⟩
  · exact text (h.status.inline_lineText h.version)
  · exact fun _ there => Octets.unbroken_fieldLine (by decide) (date _ there)
  · intro header mem
    have name := token header mem
    rw [Octets.isTokenText, Bool.and_eq_true] at name
    exact field (inline_of_all name.2 (by decide))
      (HeaderValue.inline_of_isValid (headers header mem).2)
  · exact fun cookie mem => field (by decide) (Cookie.inline_render (cookies cookie mem))
  · exact fun c _ => field (by decide) c.inline_text

/-- No status line is a header line of a guarded name. -/
theorem not_isField_statusLine (h : ResponseHead) {known : StandardHeader}
    (guarded : known ∈ StandardHeader.guarded) :
    ¬isField known.text (Octets.ofText (h.status.lineText h.version)) = true := by
  obtain ⟨rest, status⟩ := h.exists_statusLine
  intro same
  rw [status, isField, Octets.eqFold, beq_iff_eq] at same
  have first := congrArg List.head? same
  have start : (Octets.lower (upTo colon (0x48 :: rest))).head? = some 0x68 := rfl
  rw [start] at first
  simp only [StandardHeader.guarded, List.mem_cons, List.not_mem_nil, or_false] at guarded
  rcases guarded with rfl | rfl | rfl | rfl | rfl <;> exact absurd first (by decide)

theorem filter_framingField (framing : Framing) (known : StandardHeader) :
    (framingField framing).filter (isField known.text) =
      match framing with
      | .length n => if .contentLength = known then framingField (.length n) else []
      | .chunked => if .transferEncoding = known then framingField .chunked else []
      | .bare => [] := by
  cases framing with
  | length n =>
    exact Octets.filter_isField_map (k := .contentLength) rfl known
      (fun n => Octets.ofText (Numeral.decimal n)) [n]
  | chunked =>
    exact Octets.filter_isField_map (k := .transferEncoding) rfl known Octets.ofText ["chunked"]
  | bare => rfl

/-- Of the lines that a response writes of its own accord, a head without such names among its
headers holds no others. -/
theorem filter_headLines (harmless : ∀ header ∈ h.headers, header.1.Harmless)
    {known : StandardHeader} (guarded : known ∈ StandardHeader.guarded) :
    (h.headLines date? framing).filter (isField known.text) = h.ownLines date? framing known := by
  have headers : (h.headers.map fun (name, value) =>
      fieldLine name.text (Octets.ofText value)).filter (isField known.text) = [] := by
    rw [List.filter_eq_nil_iff, List.forall_mem_map]
    intro header mem
    rw [Octets.isField_fieldLine (Octets.colon_not_mem (harmless header mem).token)]
    exact (harmless header mem).unlike known guarded
  have dates := Octets.filter_isField_map (k := .date) (n := "date") rfl known fun date => date
  have cookies := Octets.filter_isField_map (k := .setCookie) (n := "set-cookie") rfl known
    fun cookie : Cookie => Octets.ofText cookie.render
  have types := Octets.filter_isField_map (k := .contentType) (n := "content-type") rfl known
    fun c : ContentType => Octets.ofText c.text
  rw [headLines, declared, fields, List.filter_append,
    List.filter_cons_of_neg (h.not_isField_statusLine guarded), List.filter_append,
    List.filter_append, List.filter_append, headers, List.nil_append, cookies, types, dates,
    filter_framingField]
  simp only [StandardHeader.guarded, List.mem_cons, List.not_mem_nil, or_false] at guarded
  rcases guarded with rfl | rfl | rfl | rfl | rfl
  · cases framing <;> simp [ownLines, framingField]
  · cases framing <;> simp [ownLines, framingField]
  · cases framing <;> simp [ownLines]
  · cases framing <;> simp [ownLines]
  · cases framing <;> simp [ownLines]

end ResponseHead

end Signpost
