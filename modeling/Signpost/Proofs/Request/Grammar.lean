import Signpost.Proofs.Request.Line
import Signpost.Proofs.Text.Trim
import Signpost.Proofs.Text.Utf8

/-!
# The grammar of requests

A `Spelling` is a request before it is written down: a start line, header fields
with the padding around their values, and a body.  Its octets are read as its
request, and octets that are read as a request spell it (`parse_eq_some_iff`).
There is one lemma for each part: the start line, the target, a header field, the
fields of a head.
-/

namespace Signpost

namespace Octets

/-- No space or tab at either end. -/
def Stripped (bytes : Octets) : Prop :=
  (∀ b ∈ bytes.head?, Octet.isPadding b = false) ∧
    ∀ b ∈ bytes.getLast?, Octet.isPadding b = false

/-- A part behind the mark that announces it. -/
def marked (mark : UInt8) : Option Octets → Octets
  | none => []
  | some part => mark :: part

end Octets

namespace Request

open Octets (space slash colon crlf headEnd)

/-- A target as its path, its query behind a question mark and its fragment behind a number sign. -/
structure Target where
  path : Octets
  query : Option Octets
  fragment : Option Octets
  path_free : 0x23 ∉ path ∧ 0x3F ∉ path
  query_free : ∀ text ∈ query, 0x23 ∉ text

def Target.octets (target : Target) : Octets :=
  target.path ++ Octets.marked 0x3F target.query ++ Octets.marked 0x23 target.fragment

/-- A header field as it is written: its name, and its value with the padding around it. -/
structure Field where
  name : Octets
  before : Octets
  value : Octets
  after : Octets
  token : name.isTokenText
  padding : ∀ b ∈ before ++ after, Octet.isPadding b
  stripped : value.Stripped

def Field.line (field : Field) : Octets :=
  field.name ++ colon :: (field.before ++ field.value ++ field.after)

def Field.header (field : Field) : Octets × Octets := (field.name, field.value)

/-- A request as it is written. -/
structure Spelling where
  method : Method
  target : Target
  version : Version
  fields : List Field
  body : Octets
  admitted : ∀ b ∈ target.octets, b ≠ space ∧ Octet.isControl b = false
  origin : target.octets.head? = some slash ∨ target.octets = [0x2A]
  segments : (fullPieces slash target.path).length ≤ 32
  room : fields.length ≤ 64
  unbroken : ∀ field ∈ fields, field.line.Unbroken

namespace Spelling

def lines (s : Spelling) : List Octets :=
  lineOf s.method s.target.octets s.version :: s.fields.map Field.line

def head (s : Spelling) : Octets := joined crlf s.lines

def octets (s : Spelling) : Octets := s.head ++ headEnd ++ s.body

/-- What is handed out of a spelling. -/
def request (s : Spelling) : Request where
  method := s.method
  version := s.version
  startLine := lineOf s.method s.target.path s.version
  path := s.target.path
  queryOctets := s.target.query
  segments := fullPieces slash s.target.path
  headers := s.fields.map Field.header
  headLength := s.head.length + headEnd.length
  body := s.body

end Spelling

/-! ## The start line -/

theorem ofWire?_wire_method (method : Method) : Method.ofWire? method.wire = some method := by
  cases method <;> decide

theorem ofWire?_wire_version (version : Version) : Version.ofWire? version.wire = some version := by
  cases version <;> decide

theorem space_not_mem_wire (method : Method) : space ∉ method.wire := by
  cases method <;> decide

theorem parseLine_eq_ok_iff {own : Octets} {line : Line} :
    parseLine own = .ok line ↔
      space ∉ line.target ∧ own = lineOf line.method line.target line.version := by
  constructor
  · intro read
    refine ⟨?_, parseLine_eq read⟩
    unfold parseLine at read
    split at read
    · cases read
    split at read
    · cases read
    split at read
    · cases read
    · next second =>
      split at read
      · cases read
      · cases read
        exact not_mem_of_cut? second
  · rintro ⟨free, rfl⟩
    rw [parseLine, lineOf, cut?_append_sep (space_not_mem_wire _)]
    dsimp only
    rw [ofWire?_wire_method]
    dsimp only
    rw [cut?_append_sep free]
    dsimp only
    rw [ofWire?_wire_version]

theorem checkTarget_eq_ok_iff {target : Octets} :
    checkTarget target = .ok () ↔
      (target.head? = some slash ∨ target = [0x2A]) ∧ ∀ b ∈ target, Octet.isControl b = false := by
  have origin : (target.head? == some slash || target == [0x2A]) = true ↔
      target.head? = some slash ∨ target = [0x2A] := by
    rw [Bool.or_eq_true, beq_iff_eq, beq_iff_eq]
  have free : target.any Octet.isControl = false ↔ ∀ b ∈ target, Octet.isControl b = false := by
    simp only [List.any_eq_false, Bool.not_eq_true]
  rw [← origin, ← free, checkTarget]
  cases target.head? == some slash || target == [0x2A] with
  | false => exact iff_of_false nofun fun both => Bool.false_ne_true both.1
  | true =>
    cases target.any Octet.isControl with
    | true => exact iff_of_false nofun fun both => Bool.false_ne_true both.2.symm
    | false => exact iff_of_true rfl ⟨rfl, rfl⟩

/-! ## The target -/

theorem upTo_marked {mark : UInt8} {front : Octets} (free : mark ∉ front) (part : Option Octets) :
    upTo mark (front ++ Octets.marked mark part) = front := by
  cases part with
  | none => rw [Octets.marked, List.append_nil, upTo_of_not_mem free]
  | some part => exact upTo_append_sep free part

theorem splitTarget_octets (target : Target) :
    splitTarget target.octets = (target.path, target.query) := by
  obtain ⟨path, query, fragment, path_free, query_free⟩ := target
  have free : 0x23 ∉ path ++ Octets.marked 0x3F query := by
    rw [List.mem_append, not_or]
    refine ⟨path_free.1, ?_⟩
    cases query with
    | none => exact List.not_mem_nil
    | some text =>
      rw [Octets.marked, List.mem_cons, not_or]
      exact ⟨by decide, query_free text rfl⟩
  rw [splitTarget, Target.octets, upTo_marked free]
  dsimp only
  cases query with
  | none => rw [Octets.marked, List.append_nil, cut?_eq_none_iff.mpr path_free.2]
  | some text => rw [Octets.marked, cut?_append_sep path_free.2]

theorem exists_target (bytes : Octets) : ∃ target : Target, target.octets = bytes := by
  -- the fragment comes off first, then the query
  have fragment : ∃ sent fragment, bytes = sent ++ Octets.marked 0x23 fragment ∧ 0x23 ∉ sent := by
    cases cut : cut? 0x23 bytes with
    | none => exact ⟨bytes, none, (List.append_nil bytes).symm, cut?_eq_none_iff.mp cut⟩
    | some found => exact ⟨found.1, some found.2, eq_append_of_cut? cut, not_mem_of_cut? cut⟩
  obtain ⟨sent, fragment, rfl, free⟩ := fragment
  cases cut : cut? 0x3F sent with
  | none =>
    refine ⟨⟨sent, none, fragment, ⟨free, cut?_eq_none_iff.mp cut⟩, nofun⟩, ?_⟩
    rw [Target.octets, Octets.marked, List.append_nil]
  | some found =>
    obtain ⟨path, query⟩ := found
    have split := eq_append_of_cut? cut
    rw [split, List.mem_append, List.mem_cons, not_or, not_or] at free
    refine ⟨⟨path, some query, fragment, ⟨free.1, not_mem_of_cut? cut⟩, ?_⟩, ?_⟩
    · intro text here
      cases here
      exact free.2.2
    · exact congrArg (· ++ Octets.marked 0x23 fragment) split.symm

/-! ## Header fields -/

theorem strip_append {before value after : Octets}
    (padding : ∀ b ∈ before ++ after, Octet.isPadding b) (stripped : value.Stripped) :
    (before ++ value ++ after).strip = value :=
  trimmed_append padding stripped

theorem exists_strip (bytes : Octets) :
    ∃ before after, bytes = before ++ bytes.strip ++ after ∧
      (∀ b ∈ before ++ after, Octet.isPadding b) ∧ bytes.strip.Stripped :=
  exists_trimmed Octet.isPadding bytes

theorem parseHeader_eq_ok_iff {line : Octets} {header : Octets × Octets} :
    parseHeader line = .ok header ↔ ∃ field : Field, field.line = line ∧ field.header = header := by
  constructor
  · intro read
    unfold parseHeader at read
    split at read
    · cases read
    · next name value cut =>
      split at read
      · cases read
      · next token =>
        cases read
        obtain ⟨before, after, eq, padding, stripped⟩ := exists_strip value
        rw [Bool.not_eq_true', Bool.not_eq_false] at token
        refine ⟨⟨name, before, Octets.strip value, after, token, padding, stripped⟩, ?_, rfl⟩
        rw [Field.line, ← eq, eq_append_of_cut? cut]
  · rintro ⟨field, rfl, rfl⟩
    rw [parseHeader, Field.line, cut?_append_sep (Octets.colon_not_mem field.token)]
    dsimp only
    rw [field.token, strip_append field.padding field.stripped]
    rfl

theorem parseHeaders_eq_ok_iff {room : Nat} {lines : List Octets}
    {headers : List (Octets × Octets)} :
    parseHeaders room lines = .ok headers ↔
      lines.length ≤ room ∧ ∃ fields : List Field,
        fields.map Field.line = lines ∧ fields.map Field.header = headers := by
  induction lines generalizing room headers with
  | nil =>
    constructor
    · intro read
      rw [parseHeaders, Except.ok.injEq] at read
      exact ⟨Nat.zero_le room, [], rfl, read⟩
    · rintro ⟨_, fields, none, rfl⟩
      rw [List.map_eq_nil_iff] at none
      rw [none, parseHeaders]
      rfl
  | cons line rest ih =>
    constructor
    · intro read
      rw [parseHeaders] at read
      split at read
      · cases read
      · next header first =>
        obtain ⟨field, rfl, rfl⟩ := parseHeader_eq_ok_iff.mp first
        cases room with
        | zero => cases read
        | succ room =>
          dsimp only at read
          obtain ⟨others, later, rfl⟩ := exists_of_map_eq_ok read
          obtain ⟨within, fields, rfl, rfl⟩ := ih.mp later
          exact ⟨Nat.succ_le_succ within, field :: fields, rfl, rfl⟩
    · rintro ⟨within, fields, spelled, rfl⟩
      cases fields with
      | nil => cases spelled
      | cons field fields =>
        rw [List.map_cons, List.cons.injEq] at spelled
        obtain ⟨own, others⟩ := spelled
        cases room with
        | zero => cases within
        | succ room =>
          have next := ih.mpr ⟨Nat.le_of_succ_le_succ within, fields, others, rfl⟩
          rw [parseHeaders, parseHeader_eq_ok_iff.mpr ⟨field, own, rfl⟩]
          dsimp only
          rw [next]
          rfl

/-! ## Heads -/

namespace Spelling

theorem return_not_mem_lineOf (s : Spelling) :
    0x0D ∉ lineOf s.method s.target.octets s.version := by
  have method : 0x0D ∉ s.method.wire := by cases s.method <;> decide
  have version : 0x0D ∉ s.version.wire := by cases s.version <;> decide
  have target : 0x0D ∉ s.target.octets := fun mem => by
    have control := (s.admitted 0x0D mem).2
    exact absurd control (by decide)
  have blank : (0x0D : UInt8) ≠ space := by decide
  simp only [lineOf, List.mem_append, List.mem_cons, not_or]
  exact ⟨method, blank, target, blank, version⟩

theorem unbroken_of_mem_lines (s : Spelling) : ∀ line ∈ s.lines, line.Unbroken := by
  rw [lines, List.forall_mem_cons, List.forall_mem_map]
  exact ⟨Octets.unbroken_of_not_mem s.return_not_mem_lineOf, s.unbroken⟩

theorem lines_head (s : Spelling) : s.head.lines = s.lines :=
  Octets.lines_joined (List.cons_ne_nil _ _) s.unbroken_of_mem_lines

theorem full_of_mem_lines (s : Spelling) : [] ∉ s.lines := by
  rw [lines, List.mem_cons, not_or]
  refine ⟨fun empty => ?_, fun mem => ?_⟩
  · have length := congrArg List.length empty
    simp [lineOf] at length
  · obtain ⟨field, _, empty⟩ := List.mem_map.mp mem
    have length := congrArg List.length empty
    simp [Field.line] at length

/-- The first blank line is the one behind the head. -/
theorem headLength?_octets (s : Spelling) : s.octets.headLength? = some s.request.headLength :=
  Octets.headLength?_joined (List.cons_ne_nil _ _) s.unbroken_of_mem_lines s.full_of_mem_lines
    s.body

theorem cutMark?_octets (s : Spelling) : cutMark? headEnd s.octets = some (s.head, s.body) := by
  obtain ⟨cut, _⟩ := Octets.cutMark?_of_headLength? s.headLength?_octets
  rw [cut, request, Nat.add_sub_cancel, octets, ← List.length_append, List.drop_left,
    List.append_assoc, List.take_left]

theorem parseHead_head (s : Spelling) : parseHead s.head s.body = .ok s.request := by
  have free : space ∉ s.target.octets := fun mem => (s.admitted space mem).1 rfl
  have line : parseLine (lineOf s.method s.target.octets s.version) =
      .ok ⟨s.method, s.target.octets, s.version⟩ := parseLine_eq_ok_iff.mpr ⟨free, rfl⟩
  have target : checkTarget s.target.octets = .ok () :=
    checkTarget_eq_ok_iff.mpr ⟨s.origin, fun b mem => (s.admitted b mem).2⟩
  have headers : parseHeaders maxHeaders (s.fields.map Field.line) =
      .ok (s.fields.map Field.header) := by
    refine parseHeaders_eq_ok_iff.mpr ⟨?_, s.fields, rfl, rfl⟩
    rw [List.length_map]
    exact s.room
  rw [parseHead, s.lines_head, lines]
  simp only [bind, Except.bind, line, target, splitTarget_octets, headers,
    canonicalLine_eq line s.target.path]
  have few : ¬maxSegments < (fullPieces slash s.target.path).length := Nat.not_lt.mpr s.segments
  rw [if_neg few]
  rfl

end Spelling

theorem parseHead_eq_ok_iff {head body : Octets} {r : Request} :
    parseHead head body = .ok r ↔
      ∃ s : Spelling, s.head = head ∧ s.body = body ∧ s.request = r := by
  constructor
  · intro read
    obtain ⟨own, rest, cut⟩ := Octets.exists_lines_eq_cons head
    have whole := Octets.joined_lines head
    have unbroken : ∀ line ∈ Octets.lines head, Octets.Unbroken line :=
      fun _ => Octets.unbroken_of_mem_lines
    rw [parseHead, cut] at read
    rw [cut] at whole unbroken
    obtain ⟨_, parted, read⟩ := exists_of_bind_eq_ok read
    cases parted
    obtain ⟨line, known, read⟩ := exists_of_bind_eq_ok read
    obtain ⟨_, checked, read⟩ := exists_of_bind_eq_ok read
    obtain ⟨method, text, version⟩ := line
    obtain ⟨target, rfl⟩ := exists_target text
    obtain ⟨free, rfl⟩ := parseLine_eq_ok_iff.mp known
    obtain ⟨origin, control⟩ := checkTarget_eq_ok_iff.mp checked
    rw [splitTarget_octets] at read
    dsimp only at read
    split at read
    · cases read
    · next few =>
      obtain ⟨headers, spelled, read⟩ := exists_of_bind_eq_ok read
      obtain ⟨room, fields, rfl, rfl⟩ := parseHeaders_eq_ok_iff.mp spelled
      rw [List.length_map] at room
      refine ⟨⟨method, target, version, fields, body, ?_, origin, Nat.not_lt.mp few, room, ?_⟩,
        whole, rfl, ?_⟩
      · exact fun b mem => ⟨fun eq => free (eq ▸ mem), control b mem⟩
      · exact fun field mem => unbroken _ (List.mem_cons_of_mem _ (List.mem_map_of_mem mem))
      · rw [canonicalLine_eq known, ← whole] at read
        exact Except.ok.inj read
  · rintro ⟨s, rfl, rfl, rfl⟩
    exact s.parseHead_head

theorem parse_eq_none_iff {bytes : Octets} : parse bytes = .ok none ↔ ¬headEnd <:+: bytes := by
  rw [← Octets.headLength?_eq_none_iff_not_infix]
  cases found : bytes.headLength? with
  | none => exact iff_of_true (parse_eq_none_of_headLength? found) rfl
  | some n =>
    refine iff_of_false (fun none => ?_) nofun
    rw [parse_eq_of_headLength? found] at none
    obtain ⟨r, _, same⟩ := exists_of_map_eq_ok none
    cases same

/-- What is read as a request are the octets that spell it. -/
theorem parse_eq_some_iff {bytes : Octets} {r : Request} :
    parse bytes = .ok (some r) ↔ ∃ s : Spelling, s.octets = bytes ∧ s.request = r := by
  constructor
  · intro read
    rw [parse] at read
    split at read
    · cases read
    · next head body cut =>
      obtain ⟨parsed, found, same⟩ := exists_of_map_eq_ok read
      cases same
      obtain ⟨s, rfl, rfl, rfl⟩ := parseHead_eq_ok_iff.mp found
      exact ⟨s, (eq_append_of_cutMark? cut).symm, rfl⟩
  · rintro ⟨s, rfl, rfl⟩
    rw [parse, s.cutMark?_octets]
    dsimp only
    rw [s.parseHead_head]
    rfl

theorem query?_eq_some_iff {r : Request} {text : String} :
    r.query? = some text ↔ r.queryOctets = some (Octets.ofText text) := by
  rw [query?, Option.bind_eq_some_iff]
  simp only [Utf8.decode?_eq_some_iff]
  constructor
  · rintro ⟨octets, there, rfl⟩
    exact there
  · intro there
    exact ⟨_, there, rfl⟩

/-- Everything that a request hands out stands among the octets it was read from. -/
structure Within (r : Request) (bytes : Octets) : Prop where
  path : r.path <:+: bytes
  query : ∀ text ∈ r.queryOctets, text <:+: bytes
  segments : ∀ segment ∈ r.segments, segment <:+: bytes
  headers : ∀ header ∈ r.headers, header.1 <:+: bytes ∧ header.2 <:+: bytes
  head : r.headLength ≤ bytes.length
  body : r.body <:+ bytes

namespace Spelling

theorem infix_octets_of_mem_lines {s : Spelling} {line : Octets} (mem : line ∈ s.lines) :
    line <:+: s.octets := by
  have head : s.head <+: s.octets := by
    rw [octets, List.append_assoc]
    exact List.prefix_append _ _
  exact (infix_joined_of_mem mem).trans head.isInfix

theorem within (s : Spelling) : s.request.Within s.octets := by
  have target : s.target.octets <:+: s.octets := by
    have line : lineOf s.method s.target.octets s.version ∈ s.lines := List.mem_cons_self
    refine List.IsInfix.trans ⟨s.method.wire ++ [space], space :: s.version.wire, ?_⟩
      (infix_octets_of_mem_lines line)
    simp only [lineOf, List.append_assoc, List.cons_append, List.nil_append]
  have path : s.target.path <:+: s.octets := by
    refine List.IsInfix.trans ?_ target
    rw [Target.octets, List.append_assoc]
    exact (List.prefix_append _ _).isInfix
  refine ⟨path, ?_, ?_, ?_, ?_, List.suffix_append _ _⟩
  · intro text there
    refine List.IsInfix.trans ⟨s.target.path ++ [0x3F], Octets.marked 0x23 s.target.fragment, ?_⟩
      target
    have query : s.target.query = some text := there
    simp only [Target.octets, query, Octets.marked, List.append_assoc, List.cons_append,
      List.nil_append]
  · intro segment mem
    exact (infix_of_mem_pieces (List.mem_filter.mp mem).1).trans path
  · intro header mem
    obtain ⟨field, there, rfl⟩ := List.mem_map.mp mem
    have line : field.line <:+: s.octets :=
      infix_octets_of_mem_lines (List.mem_cons_of_mem _ (List.mem_map_of_mem there))
    refine ⟨List.IsInfix.trans ?_ line, List.IsInfix.trans ?_ line⟩
    · exact (List.prefix_append _ _).isInfix
    · refine ⟨field.name ++ colon :: field.before, field.after, ?_⟩
      simp only [Field.line, Field.header, List.append_assoc, List.cons_append]
  · simp only [octets, request, List.length_append]
    omega

end Spelling

/-- Octets are read exactly by the grammar.  Without a blank line nothing is read yet.  What spells
a request yields it, cut at the first blank line and at every line end before that, with every part
in its place.  All else is refused. -/
theorem parse_spelling (bytes : Octets) :
    (parse bytes = .ok none ↔ ¬headEnd <:+: bytes) ∧
      (∀ r, parse bytes = .ok (some r) ↔ ∃ s : Spelling, s.octets = bytes ∧ s.request = r) ∧
      ((∃ e, parse bytes = .error e) ↔
        headEnd <:+: bytes ∧ ¬∃ s : Spelling, s.octets = bytes) ∧
      ∀ s : Spelling, s.octets = bytes →
        bytes.headLength? = some s.request.headLength ∧
          Octets.lines (bytes.take (s.request.headLength - headEnd.length)) = s.lines ∧
          bytes.drop s.request.headLength = s.request.body ∧
          (∀ text, s.request.query? = some text ↔ s.target.query = some (Octets.ofText text)) ∧
          s.request.Within bytes := by
  refine ⟨parse_eq_none_iff, fun r => parse_eq_some_iff, ?_, ?_⟩
  · constructor
    · rintro ⟨e, refused⟩
      refine ⟨?_, fun spelled => ?_⟩
      · by_cases ends : headEnd <:+: bytes
        · exact ends
        · rw [parse_eq_none_iff.mpr ends] at refused
          cases refused
      · obtain ⟨s, spelled⟩ := spelled
        rw [parse_eq_some_iff.mpr ⟨s, spelled, rfl⟩] at refused
        cases refused
    · rintro ⟨ends, unspelled⟩
      match read : parse bytes with
      | .error e => exact ⟨e, rfl⟩
      | .ok none => exact absurd ends (parse_eq_none_iff.mp read)
      | .ok (some r) =>
        obtain ⟨s, spelled, _⟩ := parse_eq_some_iff.mp read
        exact absurd ⟨s, spelled⟩ unspelled
  · rintro s rfl
    obtain ⟨head, _⟩ := Octets.cutMark?_of_headLength? s.headLength?_octets
    rw [s.cutMark?_octets, Option.some_inj, Prod.mk.injEq] at head
    refine ⟨s.headLength?_octets, ?_, head.2.symm, fun text => query?_eq_some_iff, s.within⟩
    rw [← head.1, s.lines_head]

/-- A request with a query, a fragment, padding around a header value, and a body. -/
def paddedSpelling : Spelling where
  method := .get
  target :=
    { path := Octets.ofText "/a"
      query := some (Octets.ofText "q=1")
      fragment := some (Octets.ofText "top?")
      path_free := by decide
      query_free := by decide }
  version := .http11
  fields :=
    [{ name := Octets.ofText "Host"
       before := [0x20]
       value := Octets.ofText "h:1"
       after := [0x09]
       token := by decide
       padding := List.all_eq_true.mp (by decide)
       stripped := by
         constructor
         · intro b first
           cases first
           decide
         · intro b last
           cases last
           decide }]
  body := Octets.ofText "hi"
  admitted := by
    intro b mem
    have all : (Octets.ofText "/a?q=1#top?").all
        (fun b => b != space && !Octet.isControl b) = true := by decide
    have octet := List.all_eq_true.mp all b mem
    rw [Bool.and_eq_true, bne_iff_ne, Bool.not_eq_true'] at octet
    exact octet
  origin := by decide
  segments := by decide
  room := by decide
  unbroken := by
    rw [List.forall_mem_singleton]
    exact Octets.unbroken_of_not_mem (by decide)

theorem parse_spelling_padded :
    parse (Octets.ofText "GET /a?q=1#top? HTTP/1.1\r\nHost: h:1\t\r\n\r\nhi") =
        .ok (some paddedSpelling.request) ∧
      paddedSpelling.octets.headLength? = some 40 ∧
      paddedSpelling.request.query? = some "q=1" := by
  obtain ⟨_, read, _, spelled⟩ := parse_spelling paddedSpelling.octets
  obtain ⟨head, _, _, query, _⟩ := spelled paddedSpelling rfl
  exact ⟨(read _).mpr ⟨paddedSpelling, by decide, rfl⟩, head, (query "q=1").mpr rfl⟩

end Request

end Signpost
