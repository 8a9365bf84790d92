import Mathlib.Data.List.Basic
import Signpost.Proofs.Http.Attributes
import Signpost.Proofs.Request.Grammar

/-!
# The cookies of a request

A client sends cookies in groups.  A group is written as its names and values with
semicolons between them (`Cookie.groupText`), and is the value of a header field of its own
(`CookieField`), which stands among fields of other names (`Carried`).  Names and values
that pass the check of a cookie hold no blank and no semicolon, and no name holds an equals
sign, so a group comes apart as it was put together (`Cookie.pairs_groupText`).  A request
therefore hands out the cookies of all its groups in order (`cookies_of_carried`).
-/

namespace Signpost

open Text (isBlank trimChars)

/-! ## One pair -/

/-- A text whose octets are visible is one of characters that are no blanks. -/
theorem Text.not_isBlank_of_visible {text : String}
    (visible : (Octets.ofText text).all Octet.isGraphic = true) :
    ∀ c ∈ text.toList, isBlank c = false := by
  intro c mem
  have written : ∀ b ∈ String.utf8EncodeChar c, Octet.isGraphic b = true :=
    fun b part => List.all_eq_true.mp visible b (List.mem_flatMap.mpr ⟨c, mem, part⟩)
  have below : ∀ b, Octet.isGraphic b = true → b.toNat < 0x80 := by
    intro b graphic
    rw [Octet.isGraphic, Bool.and_eq_true, decide_eq_true_iff, decide_eq_true_iff] at graphic
    exact Nat.lt_of_le_of_lt (UInt8.le_iff_toNat_le.mp graphic.2) (by decide)
  have small : c.val.toNat < 0x80 :=
    (Utf8.sequence_encode c).small fun b part => below b (written b part)
  rw [Octets.utf8EncodeChar_of_small small, List.forall_mem_singleton] at written
  exact Octets.of_small
    (P := fun c => Octet.isGraphic (UInt8.ofNat c.val.toNat) = true → isBlank c = false)
    (by decide +kernel) small written

namespace Cookie

/-- The cookie of a name and a value, without attributes. -/
def plain (pair : String × String) : Cookie := { name := pair.1, value := pair.2 }

@[simp] theorem plain_name (pair : String × String) : (plain pair).name = pair.1 := rfl

@[simp] theorem plain_value (pair : String × String) : (plain pair).value = pair.2 := rfl

/-- What a client sends of a cookie. -/
def pairText (pair : String × String) : String := pair.1 ++ "=" ++ pair.2

/-- What a client sends of a group of cookies. -/
def groupText (group : List (String × String)) : String :=
  String.intercalate "; " (group.map pairText)

variable {pair : String × String} {group : List (String × String)}

theorem pairText_eq (pair : String × String) :
    pairText pair = (plain pair).name ++ "=" ++ (plain pair).value := rfl

theorem visible_pairText (checked : (plain pair).check = .ok ()) :
    (Octets.ofText (pairText pair)).all isAttributeOctet = true := by
  obtain ⟨name, value, _, _⟩ := parts_of_check checked
  rw [pairText_eq]
  exact isAttributeOctet_pair name value

theorem not_isBlank_pairText (checked : (plain pair).check = .ok ()) :
    ∀ c ∈ (pairText pair).toList, isBlank c = false := by
  refine Text.not_isBlank_of_visible (List.all_eq_true.mpr fun b mem => ?_)
  have octet := List.all_eq_true.mp (visible_pairText checked) b mem
  exact (Bool.and_eq_true_iff.mp octet).1

/-- A blank before a piece makes no difference. -/
theorem pair?_cons_blank {c : Char} (blank : isBlank c = true) (piece : List Char) :
    pair? (c :: piece) = pair? piece := by
  have other : ¬(c == '=') = true := by
    intro same
    rw [eq_of_beq same] at blank
    exact absurd blank (by decide)
  have trimmed : ∀ name, trimChars (c :: name) = trimChars name := fun name => by
    rw [trimChars, List.dropWhile_cons_of_pos blank]
    rfl
  rw [pair?, pair?, cut?, if_neg other]
  cases cut? '=' piece with
  | none => rfl
  | some parts =>
    rw [Option.map_some]
    dsimp only
    rw [trimmed]

theorem pair?_pairText (checked : (plain pair).check = .ok ()) :
    pair? (pairText pair).toList = some pair := by
  have free := not_isBlank_pairText checked
  rw [pairText, String.toList_append, String.toList_append, List.forall_mem_append,
    List.forall_mem_append] at free
  have kept : ∀ {text : String}, (∀ c ∈ text.toList, isBlank c = false) →
      trimChars text.toList = text.toList := fun free => trimmed_of_bare (Bare.of_all free)
  have full : ¬(pair.1.toList.isEmpty) = true := by
    have token := (parts_of_check checked).1
    intro empty
    rw [List.isEmpty_iff] at empty
    rw [plain_name, Octets.isTokenText, Octets.ofText, empty] at token
    cases token
  have cut := cut?_pair checked
  rw [← pairText_eq, plain_name, plain_value] at cut
  rw [pair?, cut]
  dsimp only
  rw [kept free.1.1, kept free.2, if_neg full, String.ofList_toList, String.ofList_toList]

/-! ## A group -/

theorem toList_groupText (group : List (String × String)) :
    (groupText group).toList =
      joined [';', ' '] (group.map fun pair => (pairText pair).toList) := by
  rw [groupText, String.toList_intercalate, List.map_map, joined_eq_intercalate]
  rfl

theorem ofText_groupText (group : List (String × String)) :
    Octets.ofText (groupText group) =
      joined [0x3B, 0x20] (group.map fun pair => Octets.ofText (pairText pair)) := by
  rw [Octets.ofText, toList_groupText, flatMap_joined, List.map_map]
  rfl

theorem semicolon_not_mem_pairText (checked : (plain pair).check = .ok ()) :
    ';' ∉ (pairText pair).toList := by
  obtain ⟨name, value, _, _⟩ := parts_of_check checked
  exact (isPiece_pair name value).semicolon_not_mem

/-- Every piece but the first one has the space in front of it. -/
theorem pieces_groupText {first : String × String} {rest : List (String × String)}
    (checked : (plain first).check = .ok ())
    (others : ∀ pair ∈ rest, (plain pair).check = .ok ()) :
    pieces ';' (groupText (first :: rest)).toList =
      (pairText first).toList :: rest.map fun pair => ' ' :: (pairText pair).toList := by
  have free : ∀ pair ∈ rest, ';' ∉ ' ' :: (pairText pair).toList := by
    intro pair mem
    rw [List.mem_cons, not_or]
    exact ⟨by decide, semicolon_not_mem_pairText (others pair mem)⟩
  have apart := pieces_append_flatMap (semicolon_not_mem_pairText checked)
    (List.forall_mem_map.mpr free)
  rw [List.flatMap_map] at apart
  rw [toList_groupText, List.map_cons, joined_cons_eq_append, List.flatMap_map]
  exact apart

/-- A group comes apart as it was put together. -/
theorem pairs_groupText (checked : ∀ pair ∈ group, (plain pair).check = .ok ()) :
    pairs (groupText group) = group := by
  cases group with
  | nil => rfl
  | cons first rest =>
    rw [List.forall_mem_cons] at checked
    have own : ∀ pair ∈ rest, pair? (' ' :: (pairText pair).toList) = some pair := by
      intro pair mem
      rw [pair?_cons_blank (by decide), pair?_pairText (checked.2 pair mem)]
    rw [pairs, pieces_groupText checked.1 checked.2, List.filterMap_cons,
      pair?_pairText checked.1, List.filterMap_map]
    exact congrArg (first :: ·) ((List.filterMap_congr own).trans List.filterMap_some)

theorem visible_groupText (checked : ∀ pair ∈ group, (plain pair).check = .ok ()) :
    ∀ b ∈ Octets.ofText (groupText group), isAttributeOctet b = true ∨ b = 0x3B ∨ b = 0x20 := by
  intro b mem
  rw [ofText_groupText] at mem
  rcases mem_of_mem_joined mem with mark | ⟨text, there, mem⟩
  · exact .inr (by simpa using mark)
  · obtain ⟨pair, within, rfl⟩ := List.mem_map.mp there
    exact .inl (List.all_eq_true.mp (visible_pairText (checked pair within)) b mem)

/-- There is no padding at the ends of a group, for it starts with a name and ends with a value or
an equals sign. -/
theorem stripped_groupText (checked : ∀ pair ∈ group, (plain pair).check = .ok ()) :
    (Octets.ofText (groupText group)).Stripped := by
  have other : ∀ b, isAttributeOctet b = true → Octet.isPadding b = false := by
    intro b octet
    by_contra padding
    rw [Bool.not_eq_false, Octet.isPadding, Bool.or_eq_true, beq_iff_eq, beq_iff_eq] at padding
    rcases padding with rfl | rfl <;> exact absurd octet (by decide)
  rw [ofText_groupText]
  refine Bare.joined _ (List.forall_mem_map.mpr fun pair mem => ⟨?_, Bare.of_all fun b part => ?_⟩)
  · rw [Ne, Octets.ofText_eq_nil_iff, ← String.toList_inj, pairText, String.toList_append,
      String.toList_append]
    simp
  · exact other b (List.all_eq_true.mp (visible_pairText (checked pair mem)) b part)

end Cookie

namespace Request

open Octets (crlf headEnd)

/-! ## Looking a name up -/

section Lookup

variable {r : Request} {name value : String}

theorem cookie?_eq_some_iff :
    r.cookie? name = some value ↔
      ∃ front back, r.cookies = front ++ (name, value) :: back ∧ ∀ pair ∈ front, pair.1 ≠ name := by
  simp only [cookie?, List.lookup_eq_some_iff, bne_iff_ne, ne_comm]

theorem cookie?_eq_none_iff : r.cookie? name = none ↔ ∀ pair ∈ r.cookies, pair.1 ≠ name := by
  simp only [cookie?, List.lookup_eq_none_iff, bne_iff_ne, ne_comm]

end Lookup

/-! ## Header fields that carry cookies -/

/-- Whether a header of this name carries cookies. -/
def carriesCookies (name : Octets) : Bool := name.eqFold (Octets.ofText "cookie")

/-- The cookies that one header carries. -/
def cookiesIn (header : Octets × Octets) : List (String × String) :=
  if carriesCookies header.1 then ((Utf8.decode? header.2).map Cookie.pairs).getD [] else []

theorem cookies_eq_flatMap (r : Request) : r.cookies = r.headers.flatMap cookiesIn := by
  rw [cookies]
  induction r.headers with
  | nil => rfl
  | cons header rest ih =>
    obtain ⟨name, value⟩ := header
    rw [List.filter_cons, List.flatMap_cons, ← ih, cookiesIn, carriesCookies]
    dsimp only
    split
    · rw [List.flatMap_cons]
      cases Utf8.decode? value <;> rfl
    · rfl

theorem isTokenText_of_carriesCookies {name : Octets} (named : carriesCookies name = true) :
    name.isTokenText = true := by
  have lowered : name.lower = Octets.ofText "cookie" := eq_of_beq named
  rw [← Octets.isTokenText_lower, lowered]
  decide

/-- A header field that carries a group of cookies, as it is written. -/
structure CookieField where
  name : Octets
  before : Octets
  group : List (String × String)
  after : Octets
  named : carriesCookies name = true
  padding : ∀ b ∈ before ++ after, Octet.isPadding b
  checked : ∀ pair ∈ group, (Cookie.plain pair).check = .ok ()

namespace CookieField

def field (c : CookieField) : Field where
  name := c.name
  before := c.before
  value := Octets.ofText (Cookie.groupText c.group)
  after := c.after
  token := isTokenText_of_carriesCookies c.named
  padding := c.padding
  stripped := Cookie.stripped_groupText c.checked

theorem unbroken_line (c : CookieField) : c.field.line.Unbroken := by
  have name : 0x0D ∉ c.name :=
    Octets.not_mem_of_isTokenText (isTokenText_of_carriesCookies c.named) (by decide)
  have padding : 0x0D ∉ c.before ++ c.after := fun mem => absurd (c.padding _ mem) (by decide)
  have value : 0x0D ∉ Octets.ofText (Cookie.groupText c.group) :=
    fun mem => absurd (Cookie.visible_groupText c.checked _ mem) (by decide)
  rw [List.mem_append, not_or] at padding
  refine Octets.unbroken_of_not_mem ?_
  simp only [Field.line, field, List.mem_append, List.mem_cons, not_or]
  exact ⟨name, by decide, ⟨padding.1, value⟩, padding.2⟩

end CookieField

/-- A header field of a request with cookies: one that carries a group of them, or one of another
name. -/
inductive Carried where
  | cookies (own : CookieField)
  | other (own : Field) (named : carriesCookies own.name = false) (unbroken : own.line.Unbroken)

namespace Carried

def field : Carried → Field
  | cookies own => own.field
  | other own _ _ => own

/-- The names and values of the group that the field carries, if it carries one. -/
def pairs : Carried → List (String × String)
  | cookies own => own.group
  | other _ _ _ => []

theorem unbroken_line (c : Carried) : c.field.line.Unbroken := by
  cases c with
  | cookies own => exact own.unbroken_line
  | other own _ unbroken => exact unbroken

theorem cookiesIn_header (c : Carried) : cookiesIn c.field.header = c.pairs := by
  cases c with
  | cookies own =>
    have text : Utf8.decode? own.field.value = some (Cookie.groupText own.group) :=
      Utf8.decode?_eq_some_iff.mpr rfl
    have named : carriesCookies own.field.name = true := own.named
    rw [cookiesIn, field, Field.header, named, text]
    exact Cookie.pairs_groupText own.checked
  | other own named =>
    rw [cookiesIn, field, Field.header, named]
    rfl

end Carried

/-- The request with other header fields in place of its own. -/
def Spelling.carrying (s : Spelling) (carried : List Carried) (room : carried.length ≤ maxHeaders) :
    Spelling :=
  { s with
    fields := carried.map Carried.field
    room := by
      rw [List.length_map]
      exact room
    unbroken := List.forall_mem_map.mpr fun c _ => c.unbroken_line }

/-- The octets of a request with other header fields in place of its own. -/
def Spelling.octetsCarrying (s : Spelling) (carried : List Carried) : Octets :=
  joined crlf (lineOf s.method s.target.octets s.version :: carried.map (·.field.line)) ++
    headEnd ++ s.body

/-- A request that carries groups of cookies, each in a header of its own, is read, and hands out
the cookies of all groups in order.  Of several cookies of one name the first one is found. -/
theorem cookies_of_carried (s : Spelling) (carried : List Carried)
    (room : carried.length ≤ maxHeaders) :
    ∃ r, parse (s.octetsCarrying carried) = .ok (some r) ∧
      r.cookies = carried.flatMap Carried.pairs ∧
      ∀ name, (∀ value, r.cookie? name = some value ↔
          ∃ front back, carried.flatMap Carried.pairs = front ++ (name, value) :: back ∧
            ∀ pair ∈ front, pair.1 ≠ name) ∧
        (r.cookie? name = none ↔ ∀ pair ∈ carried.flatMap Carried.pairs, pair.1 ≠ name) := by
  let sending := s.carrying carried room
  have spelled : sending.octets = s.octetsCarrying carried := by
    rw [Spelling.octetsCarrying, ← Function.comp_def Field.line, ← List.map_map]
    rfl
  have headers : sending.request.headers = carried.map (·.field.header) := List.map_map
  have handed : sending.request.cookies = carried.flatMap Carried.pairs := by
    rw [cookies_eq_flatMap, headers, List.flatMap_map, funext Carried.cookiesIn_header]
  refine ⟨sending.request, parse_eq_some_iff.mpr ⟨sending, spelled, rfl⟩, handed, fun name => ?_⟩
  rw [← handed]
  exact ⟨fun value => cookie?_eq_some_iff, cookie?_eq_none_iff⟩

/-- Two groups of cookies with another header in between. -/
def twoGroups : List Carried :=
  [.cookies
    { name := Octets.ofText "Cookie"
      before := [0x20]
      group := [("a", "1"), ("b", "\"x\"")]
      after := []
      named := by decide
      padding := List.all_eq_true.mp (by decide)
      checked := by decide },
   .other
    { name := Octets.ofText "Accept"
      before := [0x20]
      value := Octets.ofText "*/*"
      after := []
      token := by decide
      padding := List.all_eq_true.mp (by decide)
      stripped := Bare.of_all fun b mem => by
        have free : (Octets.ofText "*/*").all (!Octet.isPadding ·) = true := by decide
        exact (Bool.not_eq_true' _).mp (List.all_eq_true.mp free b mem) }
    (by decide) (Octets.unbroken_of_not_mem (by decide)),
   .cookies
    { name := Octets.ofText "COOKIE"
      before := [0x09]
      group := [("a", ""), ("c", "d=e")]
      after := [0x20]
      named := by decide
      padding := List.all_eq_true.mp (by decide)
      checked := by decide }]

/-- A value may be quoted or empty and hold an equals sign, and of two cookies of one name the first
one is found. -/
theorem cookies_of_carried_twoGroups :
    ∃ r, parse (Octets.ofText ("GET /a?q=1#top? HTTP/1.1\r\nCookie: a=1; b=\"x\"\r\n" ++
          "Accept: */*\r\nCOOKIE:\ta=; c=d=e \r\n\r\nhi")) = .ok (some r) ∧
      r.cookies = [("a", "1"), ("b", "\"x\""), ("a", ""), ("c", "d=e")] ∧
      r.cookie? "a" = some "1" ∧ r.cookie? "A" = none := by
  obtain ⟨r, read, handed, found⟩ := cookies_of_carried paddedSpelling twoGroups (by decide)
  have spelled : paddedSpelling.octetsCarrying twoGroups =
      Octets.ofText ("GET /a?q=1#top? HTTP/1.1\r\nCookie: a=1; b=\"x\"\r\n" ++
        "Accept: */*\r\nCOOKIE:\ta=; c=d=e \r\n\r\nhi") := by decide
  rw [spelled] at read
  exact ⟨r, read, handed, ((found "a").1 "1").mpr ⟨[], _, rfl, nofun⟩,
    (found "A").2.mpr (by decide)⟩

end Request

end Signpost
