import Signpost.Proofs.Request.Bare
import Signpost.Proofs.Request.Escapes
import Signpost.Proofs.Text.Dictionary
import Signpost.Proofs.Text.Pieces

/-!
# Form encoding

A form writes letters, digits and four marks as they are, a space as a plus sign or as an
escape, and every other octet as an escape.  All pairs can be written so
(`Query.exists_encodesAll`).  Names and values are put together with equals signs, and
pairs with ampersands, neither of which is written for anything else.  So the pairs come
apart as they were put together (`Query.pairs_of_encodes`).  What a form writes may stand
behind the question mark of every target, since no octet of it ends a target
(`Request.queryParams_of_encodes`).
-/

namespace Signpost

open Octets (of_small utf8EncodeChar_of_small)

namespace Query

/-- Letters, digits and the marks that are written as they are. -/
def isUnreserved (c : Char) : Bool :=
  c.isAlphanum || c == '-' || c == '.' || c == '_' || c == '~'

/-- Octets and a form encoding of them.  Escapes may be written for all octets. -/
inductive Encodes : Octets → List Char → Prop where
  | done : Encodes [] []
  | kept {c : Char} {rest : Octets} {out : List Char} (unreserved : isUnreserved c = true)
      (more : Encodes rest out) : Encodes (UInt8.ofNat c.val.toNat :: rest) (c :: out)
  | plus {rest : Octets} {out : List Char} (more : Encodes rest out) :
      Encodes (Octets.space :: rest) ('+' :: out)
  | escaped {c d : Char} {high low : Nat} {octet : UInt8} {rest : Octets} {out : List Char}
      (first : Numeral.digitValue? 16 c = some high) (second : Numeral.digitValue? 16 d = some low)
      (value : octet.toNat = 16 * high + low) (more : Encodes rest out) :
      Encodes (octet :: rest) ('%' :: c :: d :: out)

/-- A name and a value with an equals sign between their encodings. -/
def EncodesPair (pair : String × String) (part : List Char) : Prop :=
  ∃ name value, Encodes (Octets.ofText pair.1) name ∧ Encodes (Octets.ofText pair.2) value ∧
    part = name ++ '=' :: value

/-- Pairs with ampersands between their encodings. -/
def EncodesAll (pairs : List (String × String)) (query : String) : Prop :=
  ∃ parts, List.Forall₂ EncodesPair pairs parts ∧ query.toList = joined ['&'] parts

/-! ## All pairs have encodings -/

theorem exists_encodes (plain : Octets) : ∃ encoded, Encodes plain encoded := by
  have digit : ∀ n < 16, Numeral.digitValue? 16 (Nat.digitChar n) = some n := by decide
  induction plain with
  | nil => exact ⟨_, .done⟩
  | cons octet rest ih =>
    obtain ⟨encoded, more⟩ := ih
    have byte := octet.toNat_lt
    have high := digit (octet.toNat / 16) (by omega)
    have low := digit (octet.toNat % 16) (by omega)
    exact ⟨_, .escaped high low (by omega) more⟩

theorem exists_encodesAll (pairs : List (String × String)) : ∃ query, EncodesAll pairs query := by
  have parts : ∃ parts, List.Forall₂ EncodesPair pairs parts := by
    induction pairs with
    | nil => exact ⟨_, .nil⟩
    | cons pair rest ih =>
      obtain ⟨parts, all⟩ := ih
      obtain ⟨name, front⟩ := exists_encodes (Octets.ofText pair.1)
      obtain ⟨value, back⟩ := exists_encodes (Octets.ofText pair.2)
      exact ⟨_, .cons ⟨name, value, front, back, rfl⟩ all⟩
  obtain ⟨parts, all⟩ := parts
  exact ⟨String.ofList (joined ['&'] parts), parts, all, String.toList_ofList⟩

/-! ## What is written -/

/-- The characters of an encoding. -/
def isWritten (c : Char) : Bool := isUnreserved c || c == '+' || c == '%'

theorem isUnreserved_of_digitValue? {c : Char} {digit : Nat}
    (found : Numeral.digitValue? 16 c = some digit) : isUnreserved c = true := by
  refine of_small (P := fun c => (Numeral.digitValue? 16 c).isSome → isUnreserved c = true)
    (by decide +kernel) (Numeral.small_of_digitValue? found) ?_
  rw [found]
  rfl

theorem small_of_isUnreserved {c : Char} (unreserved : isUnreserved c = true) :
    c.val.toNat < 0x80 := by
  have kinds : isUnreserved c = (c.isUpper || c.isLower || c.isDigit || c == '-' || c == '.' ||
      c == '_' || c == '~') := rfl
  have below : ∀ {d : Char}, c.val ≤ d.val → d.val.toNat < 0x80 → c.val.toNat < 0x80 :=
    fun le small => Nat.lt_of_le_of_lt (UInt32.le_iff_toNat_le.mp le) small
  simp only [kinds, Bool.or_eq_true, beq_iff_eq] at unreserved
  rcases unreserved with (((((upper | lower) | digit) | rfl) | rfl) | rfl) | rfl
  · exact below (of_decide_eq_true upper).2 (by decide)
  · exact below (of_decide_eq_true (Bool.and_eq_true_iff.mp lower).2) (by decide)
  · exact below (of_decide_eq_true (Bool.and_eq_true_iff.mp digit).2) (by decide)
  all_goals decide

theorem small_of_isWritten {c : Char} (written : isWritten c = true) : c.val.toNat < 0x80 := by
  rw [isWritten, Bool.or_eq_true, Bool.or_eq_true, beq_iff_eq, beq_iff_eq] at written
  rcases written with (unreserved | rfl) | rfl
  · exact small_of_isUnreserved unreserved
  · decide
  · decide

theorem Encodes.isWritten {plain : Octets} {encoded : List Char} (encodes : Encodes plain encoded) :
    ∀ c ∈ encoded, isWritten c = true := by
  have own : ∀ {c : Char}, isUnreserved c = true → Query.isWritten c = true := by
    intro c unreserved
    rw [Query.isWritten, unreserved]
    rfl
  induction encodes with
  | done => exact nofun
  | kept unreserved _ ih => exact List.forall_mem_cons.mpr ⟨own unreserved, ih⟩
  | plus _ ih => exact List.forall_mem_cons.mpr ⟨by decide, ih⟩
  | escaped first second _ _ ih =>
    simp only [List.forall_mem_cons]
    exact ⟨by decide, own (isUnreserved_of_digitValue? first),
      own (isUnreserved_of_digitValue? second), ih⟩

/-! ## Undoing the encoding -/

/-- No character that is kept starts an escape or is a plus sign. -/
theorem bounds_of_isUnreserved {c : Char} (unreserved : isUnreserved c = true) :
    UInt8.ofNat c.val.toNat ≠ 0x25 ∧ UInt8.ofNat c.val.toNat ≠ 0x2B :=
  of_small (P := fun c => isUnreserved c = true →
      UInt8.ofNat c.val.toNat ≠ 0x25 ∧ UInt8.ofNat c.val.toNat ≠ 0x2B)
    (by decide +kernel) (small_of_isUnreserved unreserved) unreserved

theorem Encodes.scans {plain : Octets} {encoded : List Char} (encodes : Encodes plain encoded) :
    Scans Named (encoded.flatMap String.utf8EncodeChar) plain := by
  induction encodes with
  | done => exact .done
  | kept unreserved _ ih =>
    obtain ⟨mark, plus⟩ := bounds_of_isUnreserved unreserved
    rw [List.flatMap_cons, utf8EncodeChar_of_small (small_of_isUnreserved unreserved)]
    refine .kept plus ?_ ih
    rintro ⟨_, _, _, _, starts, _⟩
    exact mark (List.cons_eq_cons.mp starts).1
  | plus _ ih => exact .plus ih
  | escaped first second value _ ih =>
    have small := Numeral.small_of_digitValue? first
    have small' := Numeral.small_of_digitValue? second
    simp only [List.flatMap_cons]
    rw [utf8EncodeChar_of_small small, utf8EncodeChar_of_small small']
    refine .escape (.inl ⟨_, _, ?_, ?_, value⟩) ih
    · rw [hexValue?_encode small, first]
    · rw [hexValue?_encode small', second]

theorem decode_of_encodes {text : String} {encoded : List Char}
    (encodes : Encodes (Octets.ofText text) encoded) : decode (String.ofList encoded) = text := by
  have scans := encodes.scans
  rw [decode, Octets.ofText, String.toList_ofList,
    scans.scansTo_named.only _ (scans_decodeOctets _), Utf8.decodeLenient_ofText]

/-! ## Pairs -/

section Pairs

variable {plain : Octets} {encoded : List Char} {pair : String × String} {part : List Char}
  {pairs : List (String × String)} {parts : List (List Char)} {query : String}

theorem not_mem_of_encodes (encodes : Encodes plain encoded) {c : Char}
    (other : isWritten c = false) : c ∉ encoded := by
  intro mem
  rw [encodes.isWritten c mem] at other
  cases other

theorem mem_of_encodesPair (encodes : EncodesPair pair part) :
    ∀ c ∈ part, isWritten c = true ∨ c = '=' := by
  obtain ⟨name, value, front, back, rfl⟩ := encodes
  rw [List.forall_mem_append, List.forall_mem_cons]
  exact ⟨fun c mem => .inl (front.isWritten c mem), .inr rfl,
    fun c mem => .inl (back.isWritten c mem)⟩

theorem mem_of_encodesPairs (all : List.Forall₂ EncodesPair pairs parts) :
    ∀ part ∈ parts, ∀ c ∈ part, isWritten c = true ∨ c = '=' := by
  induction all with
  | nil => exact nofun
  | cons first _ ih => exact List.forall_mem_cons.mpr ⟨mem_of_encodesPair first, ih⟩

theorem cut?_of_encodesPair (encodes : EncodesPair pair part) :
    (cut? '=' part).map (fun (name, value) =>
      (decode (String.ofList name), decode (String.ofList value))) = some pair := by
  obtain ⟨name, value, front, back, rfl⟩ := encodes
  rw [cut?_append_sep (not_mem_of_encodes front (by decide)), Option.map_some]
  dsimp only
  rw [decode_of_encodes front, decode_of_encodes back]

theorem filterMap_of_encodesPairs (all : List.Forall₂ EncodesPair pairs parts) :
    parts.filterMap (fun part => (cut? '=' part).map fun (name, value) =>
      (decode (String.ofList name), decode (String.ofList value))) = pairs := by
  induction all with
  | nil => rfl
  | cons first _ ih => rw [List.filterMap_cons, cut?_of_encodesPair first, ih]

/-- Pairs come apart as they were put together. -/
theorem pairs_of_encodes (encodes : EncodesAll pairs query) : Query.pairs query = pairs := by
  obtain ⟨parts, all, whole⟩ := encodes
  have undone := filterMap_of_encodesPairs all
  have free : ∀ part ∈ parts, '&' ∉ part := by
    intro part there mem
    exact absurd (mem_of_encodesPairs all part there '&' mem) (by decide)
  rw [Query.pairs, whole]
  cases parts with
  | nil =>
    rw [← undone]
    rfl
  | cons part more =>
    rw [List.forall_mem_cons] at free
    rw [joined_cons_flatMap, pieces_append_flatMap free.1 free.2, undone]

/-- No octet of an encoding ends a target or is barred from it. -/
theorem admitted_of_encodes (encodes : EncodesAll pairs query) :
    ∀ b ∈ Octets.ofText query, b ≠ Octets.space ∧ Octet.isControl b = false ∧ b ≠ 0x23 := by
  obtain ⟨parts, all, whole⟩ := encodes
  have known : ∀ c ∈ query.toList, isWritten c = true ∨ c = '=' ∨ c = '&' := by
    intro c mem
    rw [whole] at mem
    rcases mem_of_mem_joined mem with mark | ⟨part, there, mem⟩
    · exact .inr (.inr (List.mem_singleton.mp mark))
    · exact (mem_of_encodesPairs all part there c mem).imp_right .inl
  rw [Octets.ofText]
  simp only [List.forall_mem_flatMap]
  intro c mem
  have small : c.val.toNat < 0x80 := by
    rcases known c mem with written | rfl | rfl
    · exact small_of_isWritten written
    · decide
    · decide
  rw [utf8EncodeChar_of_small small, List.forall_mem_singleton]
  exact of_small (P := fun c => isWritten c = true ∨ c = '=' ∨ c = '&' →
      UInt8.ofNat c.val.toNat ≠ Octets.space ∧
        Octet.isControl (UInt8.ofNat c.val.toNat) = false ∧ UInt8.ofNat c.val.toNat ≠ 0x23)
    (by decide +kernel) small (known c mem)

end Pairs

end Query

/-! ## In a target -/

namespace Request

open Octets (space slash crlf headEnd)

/-- The same target with another query, or with one where none was. -/
def Target.withQuery (target : Target) (query : Octets) (free : 0x23 ∉ query) : Target :=
  { target with
    query := some query
    query_free := by
      rintro _ ⟨⟩
      exact free }

theorem Target.octets_withQuery (target : Target) {query : Octets} (free : 0x23 ∉ query) :
    (target.withQuery query free).octets =
      target.path ++ 0x3F :: query ++ Octets.marked 0x23 target.fragment := rfl

namespace Spelling

/-- A path starts with a slash, unless the target is the asterisk. -/
theorem rooted_path (s : Spelling) (named : s.target.octets ≠ [0x2A]) :
    s.target.path.head? = some slash := by
  have rooted := s.origin.resolve_right named
  rw [Target.octets] at rooted
  cases path : s.target.path with
  | cons b rest =>
    rw [path] at rooted
    exact rooted
  | nil =>
    -- what stands at the front is a question mark, a number sign, or nothing
    rw [path] at rooted
    cases query : s.target.query with
    | some text =>
      rw [query] at rooted
      cases rooted
    | none =>
      cases fragment : s.target.fragment with
      | none =>
        rw [query, fragment] at rooted
        cases rooted
      | some text =>
        rw [query, fragment] at rooted
        cases rooted

/-- The octets of a request with another target in its place. -/
def octetsWith (s : Spelling) (target : Octets) : Octets :=
  joined crlf (lineOf s.method target s.version :: s.fields.map Field.line) ++ headEnd ++ s.body

/-- The same request with another query. -/
def withQuery (s : Spelling) (query : Octets) (named : s.target.octets ≠ [0x2A])
    (admitted : ∀ b ∈ query, b ≠ space ∧ Octet.isControl b = false ∧ b ≠ 0x23) : Spelling :=
  { s with
    target := s.target.withQuery query fun mem => (admitted 0x23 mem).2.2 rfl
    admitted := by
      intro b mem
      rw [Target.octets_withQuery, List.mem_append, List.mem_append, List.mem_cons] at mem
      have kept := s.admitted b
      rw [Target.octets, List.mem_append, List.mem_append] at kept
      rcases mem with (path | rfl | asked) | fragment
      · exact kept (.inl (.inl path))
      · decide
      · exact ⟨(admitted b asked).1, (admitted b asked).2.1⟩
      · exact kept (.inr fragment)
    origin := by
      obtain ⟨rest, path⟩ := List.head?_eq_some_iff.mp (s.rooted_path named)
      rw [Target.octets_withQuery, path]
      exact .inl rfl }

end Spelling

/-- A form that is put behind the question mark of a request is handed out as it was filled in: each
name once, with the value of the last pair of that name.  Only the asterisk takes no query. -/
theorem queryParams_of_encodes {pairs : List (String × String)} {query : String}
    (encodes : Query.EncodesAll pairs query) (s : Spelling) (named : s.target.octets ≠ [0x2A]) :
    ∃ r, parse (s.octetsWith (s.target.path ++ 0x3F :: Octets.ofText query ++
          Octets.marked 0x23 s.target.fragment)) = .ok (some r) ∧
      r.query? = some query ∧ Dictionary.IsMapOf r.queryParams pairs := by
  let asking := s.withQuery (Octets.ofText query) named (Query.admitted_of_encodes encodes)
  have asked : asking.request.query? = some query := Utf8.decode?_eq_some_iff.mpr rfl
  refine ⟨asking.request, parse_eq_some_iff.mpr ⟨asking, rfl, rfl⟩, asked, ?_⟩
  rw [queryParams, asked]
  dsimp only
  rw [Query.params, Query.pairs_of_encodes encodes]
  exact Dictionary.isMapOf_ofPairs pairs

/-- Of two values of a name the last one counts, and escapes are read in either letter case. -/
theorem queryParams_of_encodes_repeated :
    ∃ r, parse (paddedSpelling.octetsWith (Octets.ofText "/a?a=+&a=%c3%A9#top?")) = .ok (some r) ∧
      r.query? = some "a=+&a=%c3%A9" ∧
      Dictionary.IsMapOf r.queryParams [("a", " "), ("a", "é")] := by
  have name : Query.Encodes (Octets.ofText "a") ['a'] := .kept (by decide) .done
  have space : Query.Encodes (Octets.ofText " ") ['+'] := .plus .done
  have letter : Query.Encodes (Octets.ofText "é") ['%', 'c', '3', '%', 'A', '9'] :=
    .escaped rfl rfl rfl (.escaped rfl rfl rfl .done)
  have encodes : Query.EncodesAll [("a", " "), ("a", "é")] "a=+&a=%c3%A9" :=
    ⟨_, .cons ⟨_, _, name, space, rfl⟩ (.cons ⟨_, _, name, letter, rfl⟩ .nil), by decide⟩
  exact queryParams_of_encodes encodes paddedSpelling (by decide)

end Request

end Signpost
