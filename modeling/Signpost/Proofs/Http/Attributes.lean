import Signpost.Proofs.Http.Inline
import Signpost.Proofs.Text.Marks
import Signpost.Proofs.Text.Numeral
import Signpost.Proofs.Text.Pieces

/-!
# The attributes of a cookie

A cookie is written as pieces with a semicolon and a space between them: its name and
value, and then one piece for each attribute it has (`Cookie.given`).  No piece of a
cookie that passes its check holds a semicolon, so these are the pieces that its header
value comes apart into.  A piece tells its attribute (`Attribute.text_injective`), and so
the header value tells the cookie, up to the second of its expiry (`Cookie.pieces_render`).
-/

namespace Signpost

theorem SameSite.text_injective : Function.Injective text := by
  intro a b same
  cases a <;> cases b <;> first | rfl | exact absurd same (by decide)

namespace Cookie

/-- What a client may be told about a cookie beside its name and value. -/
inductive Attribute where
  | path (text : String)
  | domain (text : String)
  | expires (date : String)
  | maxAge (seconds : Int)
  | secure
  | httpOnly
  | sameSite (site : SameSite)

namespace Attribute

/-- The piece that the attribute is written as. -/
def text : Attribute → String
  | path text => "Path=" ++ text
  | domain text => "Domain=" ++ text
  | expires date => "Expires=" ++ date
  | maxAge seconds => "Max-Age=" ++ Numeral.decimalInt seconds
  | secure => "Secure"
  | httpOnly => "HttpOnly"
  | sameSite site => "SameSite=" ++ site.text

/-- What a piece is labelled with. -/
def label : Attribute → String
  | path _ => "Path"
  | domain _ => "Domain"
  | expires _ => "Expires"
  | maxAge _ => "Max-Age"
  | secure => "Secure"
  | httpOnly => "HttpOnly"
  | sameSite _ => "SameSite"

/-- What stands behind the equals sign of a piece, if there is one. -/
def value? : Attribute → Option String
  | path text => some text
  | domain text => some text
  | expires date => some date
  | maxAge seconds => some (Numeral.decimalInt seconds)
  | secure | httpOnly => none
  | sameSite site => some site.text

variable {a b : Attribute}

theorem text_eq_label (valueless : a.value? = none) : a.text = a.label := by
  cases a with
  | secure => rfl
  | httpOnly => rfl
  | _ => cases valueless

theorem text_eq_append {value : String} (valued : a.value? = some value) :
    a.text.toList = a.label.toList ++ '=' :: value.toList := by
  have marked : ∀ {mark name value : String}, mark.toList = name.toList ++ ['='] →
      (mark ++ value).toList = name.toList ++ '=' :: value.toList := by
    intro mark name value eq
    rw [String.toList_append, eq, List.append_assoc]
    rfl
  cases a with
  | secure => cases valued
  | httpOnly => cases valued
  | _ =>
    cases valued
    refine marked ?_
    dsimp only [label]
    decide

/-- No label holds an equals sign, so a piece comes apart into its label and its value. -/
theorem cut?_text (a : Attribute) :
    cut? '=' a.text.toList = a.value?.map fun value => (a.label.toList, value.toList) := by
  have free : '=' ∉ a.label.toList := by cases a <;> dsimp only [label] <;> decide
  cases valued : a.value? with
  | none =>
    rw [text_eq_label valued]
    exact cut?_eq_none_iff.mpr free
  | some value =>
    rw [text_eq_append valued]
    exact cut?_append_sep free value.toList

theorem parts_of_text (same : a.text = b.text) : a.label = b.label ∧ a.value? = b.value? := by
  have cut := (cut?_text a).symm.trans ((congrArg (cut? '=' ·.toList) same).trans (cut?_text b))
  cases valued : a.value? with
  | none =>
    cases valued' : b.value? with
    | none =>
      rw [text_eq_label valued, text_eq_label valued'] at same
      exact ⟨same, rfl⟩
    | some value' =>
      rw [valued, valued'] at cut
      cases cut
  | some value =>
    cases valued' : b.value? with
    | none =>
      rw [valued, valued'] at cut
      cases cut
    | some value' =>
      rw [valued, valued', Option.map_some, Option.map_some, Option.some_inj, Prod.mk.injEq,
        String.toList_inj, String.toList_inj] at cut
      rw [cut.2]
      exact ⟨cut.1, rfl⟩

/-- No two attributes have the same label, and each is known by its value. -/
theorem text_injective : Function.Injective text := by
  intro a b same
  -- one case per kind; any other kind has another label
  obtain ⟨labels, values⟩ := parts_of_text same
  cases a with
  | path text =>
    cases b with
    | path text' => rw [Option.some_inj.mp values]
    | _ => simp [label] at labels
  | domain text =>
    cases b with
    | domain text' => rw [Option.some_inj.mp values]
    | _ => simp [label] at labels
  | expires date =>
    cases b with
    | expires date' => rw [Option.some_inj.mp values]
    | _ => simp [label] at labels
  | maxAge seconds =>
    cases b with
    | maxAge seconds' => rw [Numeral.decimalInt_injective (Option.some_inj.mp values)]
    | _ => simp [label] at labels
  | secure =>
    cases b with
    | secure => rfl
    | _ => simp [label] at labels
  | httpOnly =>
    cases b with
    | httpOnly => rfl
    | _ => simp [label] at labels
  | sameSite site =>
    cases b with
    | sameSite site' => rw [SameSite.text_injective (Option.some_inj.mp values)]
    | _ => simp [label] at labels

end Attribute

/-- A place for each kind of attribute, in the order they are written, with what the cookie has of
the kind. -/
def places (c : Cookie) : List (Option Attribute) :=
  [c.path.map .path, c.domain.map .domain, (c.expires.map Moment.text).map .expires,
   c.maxAge.map .maxAge, if c.secure then some .secure else none,
   if c.httpOnly then some .httpOnly else none, c.sameSite.map .sameSite]

/-- The attributes that a cookie has, at most one of each kind. -/
def given (c : Cookie) : List Attribute := c.places.filterMap id

variable {c d : Cookie}

theorem attributes_eq (c : Cookie) : c.attributes = c.given.map Attribute.text := by
  have written : c.places.map (Option.map Attribute.text) =
      [c.path.map ("Path=" ++ ·), c.domain.map ("Domain=" ++ ·),
        c.expires.map fun moment => "Expires=" ++ moment.text,
        c.maxAge.map fun seconds => "Max-Age=" ++ Numeral.decimalInt seconds,
        if c.secure then some "Secure" else none, if c.httpOnly then some "HttpOnly" else none,
        c.sameSite.map fun s => "SameSite=" ++ s.text] := by
    simp only [places, List.map_cons, List.map_nil, Option.map_map, apply_ite (Option.map _)]
    rfl
  rw [attributes, ← written, given, List.map_filterMap, List.filterMap_map]
  rfl

/-- The attributes of a cookie are those that its fields name. -/
theorem mem_given {a : Attribute} :
    a ∈ c.given ↔
      match a with
      | .path text => c.path = some text
      | .domain text => c.domain = some text
      | .expires date => c.expires.map Moment.text = some date
      | .maxAge seconds => c.maxAge = some seconds
      | .secure => c.secure = true
      | .httpOnly => c.httpOnly = true
      | .sameSite site => c.sameSite = some site := by
  have named : ∀ {α : Type} {f : α → Attribute} {field : Option α} {a : Attribute},
      some a = field.map f ↔ ∃ value, field = some value ∧ f value = a :=
    eq_comm.trans Option.map_eq_some_iff
  rw [given, List.mem_filterMap]
  cases a <;> simp [places, named]

/-! ## Coming apart -/

theorem toList_render (c : Cookie) :
    c.render.toList = joined [';', ' ']
      ((c.name ++ "=" ++ c.value).toList :: c.given.map (·.text.toList)) := by
  rw [render, String.toList_append, String.toList_join, joined_cons_eq_append, attributes_eq,
    List.map_map, List.flatMap_map, List.flatMap_map]
  simp only [Function.comp_apply, String.toList_append]
  rfl

theorem isPiece_given (checked : c.check = .ok ()) : ∀ a ∈ c.given, IsPiece a.text := by
  obtain ⟨_, _, path, domain⟩ := parts_of_check checked
  have parts := isPiece_attributes path domain
  rw [attributes_eq, List.forall_mem_map] at parts
  exact parts

/-- Between its semicolons a cookie that passes its check has its name and value, and each of its
attributes. -/
theorem piecesAt_render (checked : c.check = .ok ()) :
    piecesAt ';' [' '] c.render.toList =
      (c.name ++ "=" ++ c.value).toList :: c.given.map (·.text.toList) := by
  obtain ⟨name, value, _, _⟩ := parts_of_check checked
  rw [toList_render]
  refine piecesAt_joined (List.cons_ne_nil _ _) ?_ [' ']
  rw [List.forall_mem_cons, List.forall_mem_map]
  exact ⟨(isPiece_pair name value).semicolon_not_mem,
    fun a mem => (isPiece_given checked a mem).semicolon_not_mem⟩

/-- No equals sign is in the name. -/
theorem cut?_pair (checked : c.check = .ok ()) :
    cut? '=' (c.name ++ "=" ++ c.value).toList = some (c.name.toList, c.value.toList) := by
  have free : '=' ∉ c.name.toList := by
    intro mem
    have octet := (Octets.ascii_mem_ofText_iff (by decide) c.name).mpr mem
    exact Octets.not_mem_of_isTokenText (parts_of_check checked).1 (by decide) octet
  rw [String.toList_append, String.toList_append, List.append_assoc]
  exact cut?_append_sep free c.value.toList

/-- Cookies that have the same attributes are the same, as far as their attributes tell. -/
theorem fields_of_given (same : c.given = d.given) :
    c.path = d.path ∧ c.domain = d.domain ∧ c.expires.map Moment.text = d.expires.map Moment.text ∧
      c.maxAge = d.maxAge ∧ c.secure = d.secure ∧ c.httpOnly = d.httpOnly ∧
      c.sameSite = d.sameSite := by
  have has : ∀ a, a ∈ c.given ↔ a ∈ d.given := fun a => by rw [same]
  simp only [mem_given] at has
  exact ⟨Option.ext fun text => has (.path text), Option.ext fun text => has (.domain text),
    Option.ext fun date => has (.expires date), Option.ext fun seconds => has (.maxAge seconds),
    Bool.eq_iff_iff.mpr (has .secure), Bool.eq_iff_iff.mpr (has .httpOnly),
    Option.ext fun site => has (.sameSite site)⟩

/-- The header value of a cookie that passes its check comes apart, at a semicolon and a space,
into its name and value with the first equals sign between them, and one piece for each attribute
it has.  So two such cookies are written alike exactly if they are the same, except that their
expiries need only be the same date. -/
theorem pieces_render (checked : c.check = .ok ()) :
    (∃ first, piecesAt ';' [' '] c.render.toList = first :: c.given.map (·.text.toList) ∧
      cut? '=' first = some (c.name.toList, c.value.toList)) ∧
    ∀ d : Cookie, d.check = .ok () →
      (c.render = d.render ↔
        { c with expires := none } = { d with expires := none } ∧
          c.expires.map Moment.text = d.expires.map Moment.text) := by
  have apart := piecesAt_render checked
  refine ⟨⟨_, apart, cut?_pair checked⟩, fun d checked' => ⟨fun same => ?_, ?_⟩⟩
  · rw [same, piecesAt_render checked', List.cons_eq_cons] at apart
    have pair := cut?_pair checked
    rw [← apart.1, cut?_pair checked', Option.some_inj, Prod.mk.injEq, String.toList_inj,
      String.toList_inj] at pair
    have given := (List.map_inj_right fun a b texts =>
      Attribute.text_injective (String.toList_injective texts)).mp apart.2
    obtain ⟨path, domain, expires, maxAge, secure, httpOnly, sameSite⟩ := fields_of_given given
    refine ⟨?_, expires.symm⟩
    rw [pair.1, pair.2, path, domain, maxAge, secure, httpOnly, sameSite]
  · rintro ⟨same, dates⟩
    obtain ⟨⟩ := c
    obtain ⟨⟩ := d
    rw [mk.injEq] at same
    obtain ⟨rfl, rfl, rfl, rfl, _, rfl, rfl, rfl, rfl⟩ := same
    rw [← String.toList_inj, toList_render, toList_render, given, given, places, places, dates]

/-- A cookie with an attribute of every kind. -/
def sessionCookie : Cookie where
  name := "id"
  value := "\"a=b\""
  path := some "/x=1"
  domain := some "example.com"
  expires := some ⟨1445412480, by decide⟩
  maxAge := some (-5)
  secure := true
  httpOnly := true
  sameSite := some .lax

/-- An equals sign in the value or in an attribute takes nothing away from it. -/
theorem pieces_render_sessionCookie :
    sessionCookie.check = .ok () ∧
      (∃ first, piecesAt ';' [' '] sessionCookie.render.toList =
          first :: ["Path=/x=1", "Domain=example.com", "Expires=Wed, 21 Oct 2015 07:28:00 GMT",
            "Max-Age=-5", "Secure", "HttpOnly", "SameSite=Lax"].map String.toList ∧
        cut? '=' first = some ("id".toList, "\"a=b\"".toList)) ∧
      sessionCookie.render ≠ { sessionCookie with httpOnly := false }.render := by
  have checked : sessionCookie.check = .ok () := rfl
  obtain ⟨apart, alike⟩ := pieces_render checked
  refine ⟨checked, apart, fun same => ?_⟩
  have fields := ((alike { sessionCookie with httpOnly := false } rfl).mp same).1
  rw [mk.injEq] at fields
  exact absurd fields (by decide)

end Cookie

end Signpost
