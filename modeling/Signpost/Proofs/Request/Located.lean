import Signpost.Proofs.Request.HeadLength
import Signpost.Proofs.Request.Offsets

/-!
# Reading a request by offsets

A reader that keeps the octets it was given need not copy what it hands out: it notes where the
parts stand (`Request.Located`).  `Request.locate` searches the octets that have come from left to
right, each time up to an end that it has found before, and what stands at the offsets is what
`Request.parse` hands out (`Request.parse_eq_locate`).  No search goes past the head: every span
that is found lies within it (`Request.inBounds_of_locate`), so nothing is sliced out of range, and
a head that is complete has its parts at the same offsets, whatever comes behind it
(`Request.locate_append`).
-/

namespace Signpost

open Octets (space slash colon crlf headEnd)

/-! ## Slices -/

namespace Octets

variable {bytes : Octets}

/-- Two offsets: of a first octet, and of the one behind the last. -/
abbrev Span := Nat × Nat

/-- A span that ends no earlier than it starts, and no later than an offset. -/
def Span.Within (span : Span) (stop : Nat) : Prop := span.1 ≤ span.2 ∧ span.2 ≤ stop

theorem Span.Within.mono {span : Span} {stop stop' : Nat} (within : span.Within stop)
    (later : stop ≤ stop') : span.Within stop' :=
  ⟨within.1, Nat.le_trans within.2 later⟩

/-- The octets between the two offsets of a span. -/
def part (bytes : Octets) (span : Span) : Octets := bytes.slice span.1 span.2

/-- Where a mark first stands. -/
def offset? (mark bytes : Octets) : Option Nat := (cutMark? mark bytes).map (·.1.length)

theorem le_length_of_offset? {mark : Octets} {n : Nat} (found : offset? mark bytes = some n) :
    n ≤ bytes.length := by
  obtain ⟨parts, cut, rfl⟩ := Option.map_eq_some_iff.mp found
  rw [eq_append_of_cutMark? cut, List.append_assoc, List.length_append]
  exact Nat.le_add_right _ _

theorem headLength?_eq_offset? (bytes : Octets) :
    headLength? bytes = (offset? headEnd bytes).map (· + headEnd.length) := by
  rw [headLength?_eq_cutMark?, offset?, Option.map_map]
  rfl

theorem length_slice (bytes : Octets) (start stop : Nat) :
    (bytes.slice start stop).length = min stop bytes.length - start := by
  rw [slice, List.length_drop, List.length_take]

theorem take_slice {start stop n : Nat} (within : start + n ≤ stop) :
    (bytes.slice start stop).take n = bytes.slice start (start + n) := by
  rw [slice, List.take_drop, List.take_take, Nat.min_eq_left within, slice]

theorem drop_slice (bytes : Octets) (start stop n : Nat) :
    (bytes.slice start stop).drop n = bytes.slice (start + n) stop := by
  rw [slice, List.drop_drop, slice]

theorem slice_take {start stop n : Nat} (within : stop ≤ n) :
    Octets.slice (bytes.take n) start stop = bytes.slice start stop := by
  rw [slice, List.take_take, Nat.min_eq_left within, slice]

/-- A slice stays where more octets come behind it. -/
theorem slice_append_left {start stop : Nat} (within : stop ≤ bytes.length) (extra : Octets) :
    (bytes ++ extra).slice start stop = bytes.slice start stop := by
  rw [slice, List.take_append_of_le_length within, slice]

theorem slice_append_slice {start middle stop : Nat} (first : start ≤ middle)
    (second : middle ≤ stop) :
    bytes.slice start middle ++ bytes.slice middle stop = bytes.slice start stop := by
  obtain ⟨n, rfl⟩ := Nat.exists_eq_add_of_le first
  rw [← take_slice second, ← drop_slice, List.take_append_drop]

theorem offset?_crlf_of_unbroken (unbroken : bytes.Unbroken) : offset? crlf bytes = none := by
  rw [offset?, Option.map_eq_none_iff]
  cases cut : cutMark? crlf bytes with
  | none => rfl
  | some parts => exact absurd ⟨_, _, (eq_append_of_cutMark? cut).symm⟩ unbroken

theorem offset?_crlf_append (unbroken : bytes.Unbroken) (rest : Octets) :
    offset? crlf (bytes ++ (crlf ++ rest)) = some bytes.length := by
  induction bytes with
  | nil => rfl
  | cons b more ih =>
    rw [unbroken_cons_iff] at unbroken
    have later : ¬crlf.isPrefixOf (b :: (more ++ (crlf ++ rest))) = true := by
      rw [List.isPrefixOf_iff_prefix, crlf, List.cons_prefix_cons]
      rintro ⟨isReturn, follows⟩
      -- only the return of the line end itself can follow the last octet of the line
      cases more with
      | nil => exact absurd (List.cons_prefix_cons.mp follows).1 (by decide)
      | cons next others =>
        have isFeed : 0x0A = next := (List.cons_prefix_cons.mp follows).1
        exact unbroken.1 ⟨isReturn.symm, congrArg some isFeed.symm⟩
    rw [offset?, Option.map_eq_some_iff] at ih ⊢
    obtain ⟨parts, cut, length⟩ := ih unbroken.2
    refine ⟨(b :: parts.1, parts.2), ?_, congrArg (· + 1) length⟩
    rw [List.cons_append, cutMark?, if_neg later, cut]
    rfl

/-- Pieces that are counted on from an offset end with the text that they are pieces of. -/
theorem within_of_mem_spans (sep : UInt8) {parts : List Octets} {offset : Nat} {span : Span}
    (mem : span ∈ spans offset parts) : span.Within (offset + (joined [sep] parts).length) := by
  induction parts generalizing offset with
  | nil => cases mem
  | cons part rest ih =>
    have later : span ∈ spans (offset + (part.length + 1)) rest →
        span.Within (offset + (joined [sep] (part :: rest)).length) := by
      intro mem
      cases rest with
      | nil => cases mem
      | cons next more =>
        refine (ih mem).mono ?_
        rw [joined_cons (List.cons_ne_nil next more), List.length_append, List.length_append,
          List.length_singleton]
        omega
    rw [spans] at mem
    split at mem
    · exact later mem
    · rcases List.mem_cons.mp mem with rfl | mem
      · have first := (joined_cons_eq_append [sep] part rest) ▸ List.prefix_append part _
        exact ⟨Nat.le_add_right _ _, Nat.add_le_add_left first.length_le offset⟩
      · exact later mem

end Octets

open Octets (Span)

/-! ## Separators by their offsets -/

theorem cut?_eq_idxOf? {α : Type} [BEq α] (sep : α) (xs : List α) :
    cut? sep xs = (xs.idxOf? sep).map fun i => (xs.take i, xs.drop (i + 1)) := by
  induction xs with
  | nil => rfl
  | cons a rest ih =>
    rw [cut?, List.idxOf?_cons]
    split
    · rfl
    · rw [ih, Option.map_map, Option.map_map]
      rfl

theorem upTo_eq_idxOf? {α : Type} [BEq α] [LawfulBEq α] (sep : α) (xs : List α) :
    upTo sep xs = (xs.idxOf? sep).elim xs xs.take := by
  have cut := cut?_eq_idxOf? sep xs
  cases found : xs.idxOf? sep with
  | none =>
    rw [found] at cut
    exact upTo_of_not_mem (cut?_eq_none_iff.mp cut)
  | some i =>
    rw [found] at cut
    have whole := upTo_append_sep (not_mem_of_cut? cut) (xs.drop (i + 1))
    rwa [← eq_append_of_cut? cut] at whole

theorem lt_length_of_idxOf? {α : Type} [BEq α] {sep : α} {xs : List α} {i : Nat}
    (found : xs.idxOf? sep = some i) : i < xs.length :=
  (List.findIdx?_eq_some_iff_getElem.mp found).1

namespace Request

/-! ## The parts of a request by their offsets -/

/-- What a start line is made of, its target by offsets. -/
structure LocatedLine where
  method : Method
  target : Span
  version : Version

/-- Find the two spaces of a start line. -/
def locateLine (line : Octets) : Except RequestError LocatedLine :=
  match line.idxOf? space with
  | none => .error (.malformed .noTarget)
  | some methodEnd =>
    match Method.ofWire? (line.take methodEnd) with
    | none => .error (.invalidMethod (Utf8.decodeLenient (line.take methodEnd)))
    | some method =>
      let start := methodEnd + 1
      match (line.drop start).idxOf? space with
      | none => .error (.malformed .noVersion)
      | some length =>
        let stop := start + length
        match Version.ofWire? (line.drop (stop + 1)) with
        | none =>
          .error (.malformed (.unsupportedVersion (Utf8.decodeLenient (line.drop (stop + 1)))))
        | some version => .ok ⟨method, (start, stop), version⟩

/-- The path and the query of a target: the fragment is left aside, and then the question mark is
looked for. -/
def locateTarget (raw : Octets) (target : Span) : Span × Option Span :=
  let stop := ((raw.part target).idxOf? 0x23).elim target.2 (target.1 + ·)
  match (raw.slice target.1 stop).idxOf? 0x3F with
  | some i => ((target.1, target.1 + i), some (target.1 + i + 1, stop))
  | none => ((target.1, stop), none)

/-- Go over the padding at both ends of a value. -/
def stripSpan (raw : Octets) (start stop : Nat) : Span :=
  let first := start + (raw.slice start stop).findIdx (!Octet.isPadding ·)
  (first, stop - (raw.slice first stop).reverse.findIdx (!Octet.isPadding ·))

/-- The name and the value of a header line. -/
def locateHeader (raw : Octets) (start stop : Nat) :
    Except RequestError (Span × Span) :=
  let line := raw.slice start stop
  match line.idxOf? colon with
  | none => .error (.malformed .headerWithoutColon)
  | some length =>
    if !(Octets.isTokenText (line.take length)) then
      .error (.malformed (.invalidHeaderName (Utf8.decodeLenient (line.take length))))
    else .ok ((start, start + length), stripSpan raw (start + length + 1) stop)

/-- Where the line that starts at an offset ends, in a head that ends at another. -/
def lineStop (raw : Octets) (start stop : Nat) : Nat :=
  start + (Octets.offset? crlf (raw.slice start stop)).getD (stop - start)

/-- The header lines from an offset up to the end of the head, while there is room for them. -/
def locateHeaders (raw : Octets) (stop : Nat) :
    Nat → Nat → Except RequestError (List (Span × Span))
  | room, start =>
    if start < stop then
      match locateHeader raw start (lineStop raw start stop) with
      | .error e => .error e
      | .ok header =>
        match room with
        | 0 => .error (.malformed .tooManyHeaders)
        | room + 1 =>
          (locateHeaders raw stop room (lineStop raw start stop + crlf.length)).map (header :: ·)
    else .ok []

/-- What is kept of a request beside its octets. -/
structure Located where
  method : Method
  version : Version
  startLine : Octets
  path : Span
  query : Option Span
  segments : List Span
  headers : List (Span × Span)
  headLength : Nat

/-- What is handed out of the octets. -/
def Located.request (found : Located) (raw : Octets) : Request where
  method := found.method
  version := found.version
  startLine := found.startLine
  path := raw.part found.path
  queryOctets := found.query.map raw.part
  segments := found.segments.map raw.part
  headers := found.headers.map fun (name, value) => (raw.part name, raw.part value)
  headLength := found.headLength
  body := raw.drop found.headLength

/-- All parts lie within the head, and the head among the octets. -/
structure Located.InBounds (found : Located) (raw : Octets) : Prop where
  path : found.path.Within found.headLength
  query : ∀ span, found.query = some span → span.Within found.headLength
  segments : ∀ span ∈ found.segments, span.Within found.headLength
  headers : ∀ header ∈ found.headers,
    header.1.Within found.headLength ∧ header.2.Within found.headLength
  head : found.headLength ≤ raw.length

/-- Find the parts of a head that ends at an offset. -/
def locateHead (raw : Octets) (stop : Nat) : Except RequestError Located := do
  let lineEnd := (Octets.offset? crlf (raw.take (stop + crlf.length))).getD stop
  let line ← locateLine (raw.take lineEnd)
  checkTarget (raw.part line.target)
  let (path, query) := locateTarget raw line.target
  let segments := Octets.spans path.1 (pieces slash (raw.part path))
  if maxSegments < segments.length then
    throw (.malformed .tooManySegments)
  let startLine :=
    if path.2 = lineEnd - line.version.wire.length - 1 then raw.take lineEnd
    else raw.take path.2 ++ space :: line.version.wire
  let headers ← locateHeaders raw stop maxHeaders (lineEnd + crlf.length)
  return {
    method := line.method
    version := line.version
    startLine
    path
    query
    segments
    headers
    headLength := stop + headEnd.length }

/-- Find the parts of the request that octets start with; none while its head has no end. -/
def locate (raw : Octets) : Except RequestError (Option Located) :=
  match Octets.offset? headEnd raw with
  | none => .ok none
  | some stop => (locateHead raw stop).map some

/-! ## The start line -/

/-- What is found of a line is what is read of it. -/
def LocatedLine.line (found : LocatedLine) (own : Octets) : Line :=
  ⟨found.method, own.part found.target, found.version⟩

theorem parseLine_eq_locateLine (own : Octets) :
    parseLine own = (locateLine own).map (·.line own) := by
  rw [parseLine, locateLine, cut?_eq_idxOf?]
  cases own.idxOf? space with
  | none => rfl
  | some methodEnd =>
    dsimp only [Option.map_some]
    cases Method.ofWire? (own.take methodEnd) with
    | none => rfl
    | some method =>
      dsimp only
      rw [cut?_eq_idxOf?]
      cases (own.drop (methodEnd + 1)).idxOf? space with
      | none => rfl
      | some length =>
        dsimp only [Option.map_some]
        rw [List.drop_drop, ← Nat.add_assoc]
        cases Version.ofWire? (own.drop (methodEnd + 1 + length + 1)) with
        | none => rfl
        | some version =>
          simp only [Except.map, LocatedLine.line, Octets.part, Octets.slice, List.take_drop]

/-- The target stands between the method and the version, with a space on either side. -/
theorem bounds_of_locateLine {own : Octets} {found : LocatedLine}
    (located : locateLine own = .ok found) :
    found.target.1 = found.method.wire.length + 1 ∧ found.target.1 ≤ found.target.2 ∧
      found.target.2 + 1 + found.version.wire.length = own.length := by
  unfold locateLine at located
  split at located
  · cases located
  · next methodEnd first =>
    split at located
    · cases located
    · next method known =>
      dsimp only at located
      split at located
      · cases located
      · next length second =>
        split at located
        · cases located
        · next version supported =>
          cases located
          have inside := lt_length_of_idxOf? first
          have inside' := lt_length_of_idxOf? second
          rw [wire_of_ofWire?_method known, wire_of_ofWire?_version supported, List.length_take,
            List.length_drop]
          rw [List.length_drop] at inside'
          refine ⟨?_, ?_, ?_⟩ <;> dsimp only <;> omega

/-! ## The target -/

section Target

variable {raw : Octets} {target : Span}

/-- The fragment is left out. -/
theorem slice_upTo (raw : Octets) (ordered : target.1 ≤ target.2) :
    let stop := ((raw.part target).idxOf? 0x23).elim target.2 (target.1 + ·)
    raw.slice target.1 stop = upTo 0x23 (raw.part target) ∧ target.1 ≤ stop ∧
      stop ≤ target.2 := by
  rw [upTo_eq_idxOf?]
  cases found : (raw.part target).idxOf? 0x23 with
  | none => exact ⟨rfl, ordered, Nat.le_refl _⟩
  | some i =>
    have inside := lt_length_of_idxOf? found
    rw [Octets.part, Octets.length_slice] at inside
    have within : target.1 + i ≤ target.2 := by omega
    exact ⟨(Octets.take_slice within).symm, Nat.le_add_right _ i, within⟩

theorem splitTarget_part (ordered : target.1 ≤ target.2) :
    splitTarget (raw.part target) =
      (raw.part (locateTarget raw target).1, (locateTarget raw target).2.map raw.part) := by
  obtain ⟨sent, first, _⟩ := slice_upTo raw ordered
  rw [splitTarget, locateTarget, ← sent, cut?_eq_idxOf?]
  cases found : (raw.slice target.1 _).idxOf? 0x3F with
  | none => rfl
  | some i =>
    have inside := lt_length_of_idxOf? found
    rw [Octets.length_slice] at inside
    rw [Option.map_some, Octets.drop_slice, Octets.take_slice (by omega)]
    rfl

theorem bounds_locateTarget (raw : Octets) (ordered : target.1 ≤ target.2) :
    (locateTarget raw target).1.1 = target.1 ∧
      target.1 ≤ (locateTarget raw target).1.2 ∧ (locateTarget raw target).1.2 ≤ target.2 := by
  obtain ⟨_, first, last⟩ := slice_upTo raw ordered
  rw [locateTarget]
  split
  · next i found =>
    have inside := lt_length_of_idxOf? found
    rw [Octets.length_slice] at inside
    exact ⟨rfl, Nat.le_add_right _ i, by dsimp only; omega⟩
  · exact ⟨rfl, first, last⟩

theorem within_query_of_locateTarget (ordered : target.1 ≤ target.2) {query : Span}
    (asked : (locateTarget raw target).2 = some query) : query.Within target.2 := by
  obtain ⟨_, _, last⟩ := slice_upTo raw ordered
  rw [locateTarget] at asked
  split at asked
  · next i found =>
    have inside := lt_length_of_idxOf? found
    rw [Octets.length_slice] at inside
    cases asked
    exact ⟨by dsimp only; omega, last⟩
  · cases asked

theorem map_part_spans {path : Span} (ordered : path.1 ≤ path.2)
    (inside : path.2 ≤ raw.length) :
    (Octets.spans path.1 (pieces slash (raw.part path))).map raw.part =
      fullPieces slash (raw.part path) := by
  have aligned := Octets.map_slice_spans slash (pieces_ne_nil slash (raw.part path))
    (raw.take path.1) (raw.drop path.2)
  have front : raw.take path.1 ++ raw.part path = raw.take path.2 :=
    Octets.slice_append_slice (Nat.zero_le _) ordered
  rw [joined_pieces, front, List.take_append_drop, List.length_take,
    Nat.min_eq_left (Nat.le_trans ordered inside)] at aligned
  exact aligned

end Target

/-! ## Header lines -/

section Headers

variable {raw : Octets} {start stop : Nat}

theorem dropWhile_eq_drop (bytes : Octets) :
    bytes.dropWhile Octet.isPadding = bytes.drop (bytes.findIdx (!Octet.isPadding ·)) :=
  List.dropWhile_eq_drop_findIdx_not

theorem part_stripSpan (ordered : start ≤ stop) (inside : stop ≤ raw.length) :
    raw.part (stripSpan raw start stop) = (raw.slice start stop).strip := by
  have shorter : ∀ bytes : Octets, bytes.findIdx (!Octet.isPadding ·) ≤ bytes.length :=
    fun _ => List.findIdx_le_length
  rw [Octets.strip, dropWhile_eq_drop, dropWhile_eq_drop, Octets.drop_slice, List.reverse_drop,
    List.reverse_reverse, List.length_reverse, Octets.part, stripSpan]
  dsimp only
  generalize skipped : (raw.slice start stop).findIdx (!Octet.isPadding ·) = front
  generalize skipped' : (raw.slice (start + front) stop).reverse.findIdx (!Octet.isPadding ·) = back
  have first := shorter (raw.slice start stop)
  have last := shorter (raw.slice (start + front) stop).reverse
  rw [skipped, Octets.length_slice] at first
  rw [skipped', List.length_reverse, Octets.length_slice] at last
  rw [Octets.length_slice, Octets.take_slice (by omega)]
  congr 1
  omega

theorem within_stripSpan (raw : Octets) (ordered : start ≤ stop) :
    (stripSpan raw start stop).Within stop := by
  have front : (raw.slice start stop).findIdx (!Octet.isPadding ·) ≤ stop - start := by
    refine Nat.le_trans List.findIdx_le_length ?_
    rw [Octets.length_slice]
    omega
  rw [stripSpan]
  generalize (raw.slice start stop).findIdx (!Octet.isPadding ·) = skipped at front ⊢
  have back : (raw.slice (start + skipped) stop).reverse.findIdx (!Octet.isPadding ·) ≤
      stop - (start + skipped) := by
    refine Nat.le_trans List.findIdx_le_length ?_
    rw [List.length_reverse, Octets.length_slice]
    omega
  exact ⟨by omega, Nat.sub_le _ _⟩

theorem within_of_locateHeader {header : Span × Span}
    (located : locateHeader raw start stop = .ok header) :
    header.1.Within stop ∧ header.2.Within stop := by
  unfold locateHeader at located
  dsimp only at located
  split at located
  · cases located
  · next length found =>
    have inside := lt_length_of_idxOf? found
    rw [Octets.length_slice] at inside
    split at located
    · cases located
    · cases located
      exact ⟨⟨Nat.le_add_right _ _, by dsimp only; omega⟩, within_stripSpan raw (by omega)⟩

theorem lineStop_le (raw : Octets) (ordered : start ≤ stop) : lineStop raw start stop ≤ stop := by
  rw [lineStop]
  cases found : Octets.offset? crlf (raw.slice start stop) with
  | none =>
    rw [Option.getD_none]
    omega
  | some n =>
    have inside := Octets.le_length_of_offset? found
    rw [Octets.length_slice] at inside
    rw [Option.getD_some]
    omega

theorem within_of_locateHeaders {room : Nat} {headers : List (Span × Span)}
    (located : locateHeaders raw stop room start = .ok headers) :
    ∀ header ∈ headers, header.1.Within stop ∧ header.2.Within stop := by
  induction room generalizing start headers with
  | zero =>
    rw [locateHeaders] at located
    split at located
    · split at located <;> cases located
    · cases located
      exact List.forall_mem_nil _
  | succ room ih =>
    rw [locateHeaders] at located
    split at located
    · next before =>
      split at located
      · cases located
      · next header first =>
        obtain ⟨others, rest, rfl⟩ := exists_of_map_eq_ok located
        have reach := lineStop_le raw (Nat.le_of_lt before)
        obtain ⟨name, value⟩ := within_of_locateHeader first
        exact List.forall_mem_cons.mpr ⟨⟨name.mono reach, value.mono reach⟩, ih rest⟩
    · cases located
      exact List.forall_mem_nil _

theorem parseHeader_slice (start : Nat) (inside : stop ≤ raw.length) :
    parseHeader (raw.slice start stop) =
      (locateHeader raw start stop).map (Prod.map raw.part raw.part) := by
  rw [parseHeader, locateHeader, cut?_eq_idxOf?]
  cases found : (raw.slice start stop).idxOf? colon with
  | none => rfl
  | some length =>
    have within := lt_length_of_idxOf? found
    rw [Octets.length_slice] at within
    dsimp only [Option.map_some]
    split
    · rfl
    · rw [Octets.drop_slice, Octets.take_slice (by omega), Except.map, Prod.map,
        part_stripSpan (by omega) inside]
      rfl

/-- The search for a line end stops at the end of the line, which may be that of the head. -/
theorem lineStop_eq (inside : stop ≤ raw.length) {line : Octets} {more : List Octets}
    (unbroken : line.Unbroken) (here : raw.slice start stop = joined crlf (line :: more)) :
    lineStop raw start stop = start + line.length := by
  rw [lineStop, here]
  cases more with
  | nil =>
    have length := congrArg List.length here
    rw [Octets.length_slice, Nat.min_eq_left inside] at length
    rw [joined, Octets.offset?_crlf_of_unbroken unbroken, Option.getD_none, length, joined]
  | cons next others =>
    rw [joined_cons (List.cons_ne_nil next others), Octets.offset?_crlf_append unbroken,
      Option.getD_some]

theorem parseHeaders_eq_locateHeaders (inside : stop ≤ raw.length) {lines : List Octets}
    (unbroken : ∀ line ∈ lines, line.Unbroken) (full : [] ∉ lines)
    (here : raw.slice start stop = joined crlf lines) (room : Nat) :
    parseHeaders room lines = (locateHeaders raw stop room start).map
      (List.map (Prod.map raw.part raw.part)) := by
  -- On the lines: each search starts where the one before it has ended.
  induction lines generalizing start room with
  | nil =>
    have length := congrArg List.length here
    rw [Octets.length_slice, Nat.min_eq_left inside, joined, List.length_nil] at length
    have past : ¬start < stop := by omega
    rw [parseHeaders, locateHeaders, if_neg past]
    rfl
  | cons line more ih =>
    rw [List.forall_mem_cons] at unbroken
    rw [List.mem_cons, not_or] at full
    have some_octet : 0 < line.length := List.length_pos_iff.mpr (Ne.symm full.1)
    have starts : line <+: raw.slice start stop := by
      rw [here, joined_cons_eq_append]
      exact List.prefix_append line _
    have reach := starts.length_le
    rw [Octets.length_slice, Nat.min_eq_left inside] at reach
    have fits : start + line.length ≤ stop := by omega
    have own : raw.slice start (start + line.length) = line := by
      rw [← Octets.take_slice fits, ← List.prefix_iff_eq_take.mp starts]
    have header := parseHeader_slice start (Nat.le_trans fits inside)
    rw [own] at header
    rw [parseHeaders, locateHeaders, if_pos (by omega), lineStop_eq inside unbroken.1 here, header]
    cases locateHeader raw start (start + line.length) with
    | error e => rfl
    | ok found =>
      cases room with
      | zero => rfl
      | succ room =>
        have rest : raw.slice (start + line.length + crlf.length) stop = joined crlf more := by
          rw [Nat.add_assoc, ← Octets.drop_slice, here, drop_joined_cons]
        dsimp only [Except.map]
        rw [ih unbroken.2 full.2 rest room]
        cases locateHeaders raw stop room (start + line.length + crlf.length) with
        | error e => rfl
        | ok headers => rfl

end Headers

/-! ## Heads -/

theorem offset?_firstLine {own : Octets} (unbroken : own.Unbroken) (rest : List Octets) :
    Octets.offset? crlf (joined crlf (own :: rest) ++ crlf) = some own.length := by
  cases rest with
  | nil => exact Octets.offset?_crlf_append unbroken []
  | cons next more =>
    rw [joined_cons (List.cons_ne_nil next more), List.append_assoc, List.append_assoc]
    exact Octets.offset?_crlf_append unbroken _

/-- What has come up to the first blank line is a head, made of a first line and others. -/
structure Headed (raw head own : Octets) (rest : List Octets) (body : Octets) : Prop where
  cut : cutMark? headEnd raw = some (head, body)
  lines : head.lines = own :: rest

namespace Headed

variable {raw head own body : Octets} {rest : List Octets} (headed : Headed raw head own rest body)

include headed

theorem whole : raw = head ++ headEnd ++ body := eq_append_of_cutMark? headed.cut

theorem joined_eq : joined crlf (own :: rest) = head := by
  rw [← headed.lines, Octets.joined_lines]

theorem unbroken : ∀ line ∈ own :: rest, line.Unbroken := by
  rw [← headed.lines]
  exact fun _ => Octets.unbroken_of_mem_lines

theorem own_prefix : own <+: head := by
  rw [← headed.joined_eq, joined_cons_eq_append]
  exact List.prefix_append own _

theorem inside : head.length ≤ raw.length := by
  rw [headed.whole, List.append_assoc, List.length_append]
  exact Nat.le_add_right _ _

theorem starts : raw.take own.length = own := by
  have first := headed.own_prefix.trans (List.prefix_append head (headEnd ++ body))
  rw [headed.whole, List.append_assoc, ← List.prefix_iff_eq_take.mp first]

/-- The first line end is the one behind the first line. -/
theorem lineEnd : Octets.offset? crlf (raw.take (head.length + crlf.length)) = some own.length := by
  have ended : head ++ headEnd ++ body = head ++ crlf ++ (crlf ++ body) := by
    rw [List.append_assoc, List.append_assoc]
    rfl
  rw [headed.whole, ended, List.take_left' List.length_append, ← headed.joined_eq]
  exact offset?_firstLine (headed.unbroken own List.mem_cons_self) rest

theorem rest_eq : raw.slice (own.length + crlf.length) head.length = joined crlf rest := by
  rw [Octets.slice, headed.whole, List.append_assoc, List.take_left, ← headed.joined_eq,
    drop_joined_cons]

theorem behind : raw.drop (head.length + headEnd.length) = body := by
  rw [headed.whole, ← List.length_append, List.drop_left]

/-- No header line is empty, for the head would have ended before it. -/
theorem full (some_octet : own ≠ []) : [] ∉ rest := by
  intro mem
  obtain ⟨before, after, rfl, free⟩ := List.eq_append_cons_of_mem mem
  have full : [] ∉ own :: before := by
    rw [List.mem_cons, not_or]
    exact ⟨Ne.symm some_octet, free⟩
  have unbroken : ∀ line ∈ own :: before, line.Unbroken :=
    fun line mem => headed.unbroken line (List.mem_append_left _ mem)
  have split : head = joined crlf (own :: before) ++ (crlf ++ joined crlf ([] :: after)) := by
    rw [← headed.joined_eq]
    exact joined_append (List.cons_ne_nil own before) (List.cons_ne_nil [] after)
  have blank : ∃ more, joined crlf ([] :: after) ++ headEnd = crlf ++ more := by
    cases after with
    | nil => exact ⟨crlf, rfl⟩
    | cons next others => exact ⟨joined crlf (next :: others) ++ headEnd, rfl⟩
  obtain ⟨more, blank⟩ := blank
  have earlier : raw = joined crlf (own :: before) ++ headEnd ++ (more ++ body) := by
    rw [headed.whole, split, List.append_assoc (joined crlf (own :: before)),
      List.append_assoc crlf, blank]
    simp only [List.append_assoc]
    rfl
  have stop := Octets.headLength?_joined (List.cons_ne_nil own before) unbroken full (more ++ body)
  rw [← earlier, Octets.headLength?_eq_cutMark?, headed.cut, Option.map_some, Option.some_inj,
    split, List.length_append, List.length_append] at stop
  simp [crlf] at stop

section Line

variable {found : LocatedLine} (located : locateLine own = .ok found)

include located

theorem target_eq : own.part found.target = raw.part found.target := by
  obtain ⟨_, _, last⟩ := bounds_of_locateLine located
  rw [← headed.starts, Octets.part, Octets.slice_take (by omega), Octets.part]

theorem parseLine_eq :
    parseLine own = .ok ⟨found.method, raw.part found.target, found.version⟩ := by
  rw [parseLine_eq_locateLine, located, ← headed.target_eq located]
  rfl

/-- The start line is the slice that ends with it, or is written behind the slice that ends with the
path. -/
theorem startLine_eq {path : Span} (first : path.1 = found.target.1)
    (ordered : path.1 ≤ path.2) (last : path.2 ≤ found.target.2) :
    (if path.2 = own.length - found.version.wire.length - 1 then own
      else raw.take path.2 ++ space :: found.version.wire) =
      lineOf found.method (raw.part path) found.version := by
  obtain ⟨start, _, stop⟩ := bounds_of_locateLine located
  have whole : own = lineOf found.method (raw.part found.target) found.version :=
    Request.parseLine_eq (headed.parseLine_eq located)
  split
  · next reaches =>
    have target : path = found.target := Prod.ext first (by omega)
    rw [target]
    exact whole
  · have short : path.1 ≤ own.length := by omega
    have opening : raw.take path.1 = found.method.wire ++ [space] := by
      rw [← Nat.min_eq_left short, ← List.take_take, headed.starts, whole, lineOf, first, start,
        ← List.singleton_append, ← List.append_assoc,
        List.take_left' (by rw [List.length_append, List.length_singleton])]
    have front : raw.take path.1 ++ raw.part path = raw.take path.2 :=
      Octets.slice_append_slice (Nat.zero_le _) ordered
    rw [← front, opening, lineOf]
    simp only [List.append_assoc, List.cons_append, List.nil_append]

end Line

theorem parseHeaders_eq (some_octet : own ≠ []) :
    parseHeaders maxHeaders rest =
      (locateHeaders raw head.length maxHeaders (own.length + crlf.length)).map
        (List.map (Prod.map raw.part raw.part)) :=
  parseHeaders_eq_locateHeaders headed.inside
    (fun line mem => headed.unbroken line (List.mem_cons_of_mem own mem)) (headed.full some_octet)
    headed.rest_eq maxHeaders

theorem parseHead_eq :
    parseHead head body = (locateHead raw head.length).map (·.request raw) := by
  rw [parseHead, locateHead, headed.lines, headed.lineEnd]
  simp only [bind, Except.bind, Option.getD_some, headed.starts]
  rw [parseLine_eq_locateLine]
  cases located : locateLine own with
  | error e => rfl
  | ok found =>
    obtain ⟨_, ordered, last⟩ := bounds_of_locateLine located
    have some_octet : 0 < own.length := by omega
    simp only [Except.map, LocatedLine.line, headed.target_eq located]
    cases checkTarget (raw.part found.target) with
    | error e => rfl
    | ok _ =>
      obtain ⟨first, ordered', last'⟩ := bounds_locateTarget raw ordered
      have short := headed.own_prefix.length_le
      have inside := headed.inside
      have segments := map_part_spans (first ▸ ordered')
        (show (locateTarget raw found.target).1.2 ≤ raw.length by omega)
      have count := congrArg List.length segments
      rw [List.length_map] at count
      dsimp only
      rw [splitTarget_part ordered, count]
      dsimp only
      split
      · rfl
      · rw [headed.parseHeaders_eq (List.length_pos_iff.mp some_octet)]
        cases locateHeaders raw head.length maxHeaders (own.length + crlf.length) with
        | error e => rfl
        | ok headers =>
          have line := headed.startLine_eq located first (first ▸ ordered') last'
          simp only [Except.map, pure, Except.pure, Located.request, segments, headed.behind, line,
            canonicalLine_eq (headed.parseLine_eq located)]
          rfl

end Headed

/-- What is found among the octets that have come is what is read of them. -/
theorem parse_eq_locate (raw : Octets) :
    parse raw = (locate raw).map (Option.map (·.request raw)) := by
  rw [parse, locate, Octets.offset?]
  cases cut : cutMark? headEnd raw with
  | none => rfl
  | some parts =>
    obtain ⟨own, rest, lines⟩ := Octets.exists_lines_eq_cons parts.1
    dsimp only [Option.map_some]
    rw [Headed.parseHead_eq ⟨cut, lines⟩]
    cases locateHead raw parts.1.length with
    | error e => rfl
    | ok found => rfl

/-! ## Where the parts lie -/

section Bounds

variable {raw : Octets}

/-- The start line ends with the head at the latest. -/
theorem lineEnd_le (raw : Octets) (stop : Nat) :
    (Octets.offset? crlf (raw.take (stop + crlf.length))).getD stop ≤ stop + crlf.length := by
  cases found : Octets.offset? crlf (raw.take (stop + crlf.length)) with
  | none => exact Nat.le_add_right _ _
  | some n =>
    have reach := Octets.le_length_of_offset? found
    rw [List.length_take] at reach
    exact Nat.le_trans reach (Nat.min_le_left _ _)

theorem inBounds_of_locateHead {stop : Nat} {found : Located}
    (located : locateHead raw stop = .ok found) (inside : stop + headEnd.length ≤ raw.length) :
    found.InBounds raw := by
  have lineEnd := lineEnd_le raw stop
  have headEnd_eq : headEnd.length = crlf.length + crlf.length := rfl
  unfold locateHead at located
  generalize (Octets.offset? crlf (raw.take (stop + crlf.length))).getD stop = n at located lineEnd
  simp only [bind, Except.bind] at located
  split at located
  · cases located
  next line first =>
  obtain ⟨_, ordered, last⟩ := bounds_of_locateLine first
  rw [List.length_take] at last
  have target : line.target.2 ≤ stop + headEnd.length := by omega
  obtain ⟨start, ordered', last'⟩ := bounds_locateTarget raw ordered
  have path := Nat.le_trans last' target
  split at located
  · cases located
  split at located
  · cases located
  split at located
  · cases located
  next headers others =>
  cases located
  refine ⟨⟨start ▸ ordered', path⟩, fun query asked => ?_, fun segment mem => ?_,
    fun header mem => ?_, inside⟩
  · exact (within_query_of_locateTarget ordered asked).mono target
  · have within := Octets.within_of_mem_spans slash mem
    rw [joined_pieces, Octets.part, Octets.length_slice] at within
    refine within.mono ?_
    dsimp only
    omega
  · obtain ⟨name, value⟩ := within_of_locateHeaders others header mem
    exact ⟨name.mono (Nat.le_add_right _ _), value.mono (Nat.le_add_right _ _)⟩

/-- Every span that is found ends behind its start, within the head, and the head is there. -/
theorem inBounds_of_locate {found : Located} (located : locate raw = .ok (some found)) :
    found.InBounds raw := by
  unfold locate at located
  split at located
  · cases located
  · next stop ends =>
    obtain ⟨own, head, same⟩ := exists_of_map_eq_ok located
    cases same
    have complete : raw.headLength? = some (stop + headEnd.length) := by
      rw [Octets.headLength?_eq_offset?, ends, Option.map_some]
    exact inBounds_of_locateHead head (Octets.headLength?_eq_some_iff.mp complete).1

end Bounds

/-! ## Octets behind the head -/

section Append

variable {raw : Octets} (extra : Octets)

theorem locateTarget_append {target : Span} (ordered : target.1 ≤ target.2)
    (within : target.2 ≤ raw.length) :
    locateTarget (raw ++ extra) target = locateTarget raw target := by
  obtain ⟨_, _, last⟩ := slice_upTo raw ordered
  have own : (raw ++ extra).part target = raw.part target :=
    Octets.slice_append_left within extra
  rw [locateTarget, locateTarget, own, Octets.slice_append_left (Nat.le_trans last within)]

variable {start stop : Nat}

theorem locateHeader_append (within : stop ≤ raw.length) :
    locateHeader (raw ++ extra) start stop = locateHeader raw start stop := by
  simp only [locateHeader, stripSpan, Octets.slice_append_left within]

theorem lineStop_append (within : stop ≤ raw.length) :
    lineStop (raw ++ extra) start stop = lineStop raw start stop := by
  rw [lineStop, lineStop, Octets.slice_append_left within]

theorem locateHeaders_append (within : stop ≤ raw.length) (room : Nat) :
    locateHeaders (raw ++ extra) stop room start = locateHeaders raw stop room start := by
  induction room generalizing start with
  | zero =>
    rw [locateHeaders, locateHeaders, lineStop_append extra within]
    split
    · next before =>
      have reach := Nat.le_trans (lineStop_le raw (Nat.le_of_lt before)) within
      rw [locateHeader_append extra reach]
    · rfl
  | succ room ih =>
    rw [locateHeaders, locateHeaders, lineStop_append extra within]
    split
    · next before =>
      have reach := Nat.le_trans (lineStop_le raw (Nat.le_of_lt before)) within
      rw [locateHeader_append extra reach]
      dsimp only
      rw [ih]
    · rfl

theorem locateHead_append (within : stop + crlf.length ≤ raw.length) :
    locateHead (raw ++ extra) stop = locateHead raw stop := by
  rw [locateHead, locateHead, List.take_append_of_le_length within]
  generalize reached : (Octets.offset? crlf (raw.take (stop + crlf.length))).getD stop = lineEnd
  have inside : lineEnd ≤ raw.length := by
    rw [← reached]
    exact Nat.le_trans (lineEnd_le raw stop) within
  rw [List.take_append_of_le_length inside]
  simp only [bind, Except.bind]
  cases located : locateLine (raw.take lineEnd) with
  | error e => rfl
  | ok found =>
    obtain ⟨_, ordered, last⟩ := bounds_of_locateLine located
    rw [List.length_take] at last
    have within' : found.target.2 ≤ raw.length := by omega
    obtain ⟨_, _, last'⟩ := bounds_locateTarget raw ordered
    have inside' := Nat.le_trans last' within'
    have target : (raw ++ extra).part found.target = raw.part found.target :=
      Octets.slice_append_left within' extra
    have path : (raw ++ extra).part (locateTarget raw found.target).1 =
        raw.part (locateTarget raw found.target).1 := Octets.slice_append_left inside' extra
    dsimp only
    rw [target, locateTarget_append extra ordered within', path,
      List.take_append_of_le_length inside',
      locateHeaders_append extra (Nat.le_trans (Nat.le_add_right _ _) within)]

end Append

/-- A head that is complete has its parts at the same offsets, whatever comes behind it, and what is
wrong with it stays wrong. -/
theorem locate_append {raw : Octets} {n : Nat} (complete : raw.headLength? = some n)
    (extra : Octets) : locate (raw ++ extra) = locate raw := by
  have bound := (Octets.headLength?_eq_some_iff.mp complete).1
  have complete' := @Octets.headLength?_append raw extra n complete
  rw [Octets.headLength?_eq_offset?, Option.map_eq_some_iff] at complete complete'
  obtain ⟨stop, found, rfl⟩ := complete
  obtain ⟨stop', found', same⟩ := complete'
  have within : stop + crlf.length ≤ raw.length :=
    Nat.le_trans (Nat.add_le_add_left (by decide) stop) bound
  rw [locate, locate, found, found', Nat.add_right_cancel same]
  dsimp only
  rw [locateHead_append extra within]

end Request

end Signpost
