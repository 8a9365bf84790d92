import Signpost.Proofs.Server.Reading
import Signpost.Proofs.Text.Utf8

/-!
# Declared lengths

A head that declares the length of its body decides how its connection is
served: the body is refused if it is too large, waited for, and handed to the
router in full; and a value that is no number ends in a refusal.  The value is
the first under its name, in any letter case, without the padding around it.  A
length that adds up with the head to more than one word is not waited for: the
connection is passed over.

What counts as a number is read off the text of the value, not off its octets
(`declared?_eq_some_iff`).  So more is let through than decimal numbers, and
`Overlooked` says what: a number with a plus sign or with blanks around it, and,
as a body without octets, any value that is no text at all.
-/

namespace Signpost.Session

open Numeral (Digits Spelled)

/-! ## What a value declares -/

/-- A value of decimal digits, for a number of 64 bits. -/
def Decimal (value : Octets) (n : Nat) : Prop :=
  ∃ digits, value = Octets.ofText (String.ofList digits) ∧ Digits digits n ∧ n ≤ Numeral.maxWord

/-- The length that a value is taken for although it is no decimal number. -/
inductive Overlooked (value : Octets) : Nat → Prop
  | unread : Utf8.decode? value = none → Overlooked value 0
  | loose {text : String} {n : Nat} : value = Octets.ofText text → Spelled text.toList n →
    ¬Digits text.toList n → n ≤ Numeral.maxWord → Overlooked value n

section Declared

variable {head : Request} {value : Octets}

theorem header?_of_declares (declares : head.headerOctets? "content-length" = some value) :
    head.header? "content-length" = Utf8.decode? value := by
  rw [Request.header?, declares]
  rfl

theorem declared?_of_unread (declares : head.headerOctets? "content-length" = some value)
    (unread : Utf8.decode? value = none) : declared? head = some 0 := by
  rw [declared?, header?_of_declares declares, unread]

theorem declared?_of_text {text : String}
    (declares : head.headerOctets? "content-length" = some value)
    (written : value = Octets.ofText text) :
    declared? head = Numeral.readWord? (Text.trim text) := by
  have read : Utf8.decode? value = some text := Utf8.decode?_eq_some_iff.mpr written.symm
  rw [declared?, Request.contentLength?, header?_of_declares declares, read]
  rfl

/-- Digits alone are one way to spell a number. -/
theorem spelled_of_digits {digits : List Char} {n : Nat} (all : Digits digits n) :
    Spelled digits n :=
  ⟨[], [], digits, [], by simp, by simp, .inl rfl, all⟩

theorem declared?_eq_some_iff (declares : head.headerOctets? "content-length" = some value)
    {n : Nat} : declared? head = some n ↔ Decimal value n ∨ Overlooked value n := by
  constructor
  · intro taken
    cases read : Utf8.decode? value with
    | none =>
      rw [declared?_of_unread declares read, Option.some_inj] at taken
      subst taken
      exact .inr (.unread read)
    | some text =>
      have written := (Utf8.decode?_eq_some_iff.mp read).symm
      rw [declared?_of_text declares written, Numeral.readWord?_trim_eq_some_iff] at taken
      obtain ⟨spelled, small⟩ := taken
      by_cases plain : Digits text.toList n
      · exact .inl ⟨text.toList, by rw [String.ofList_toList, written], plain, small⟩
      · exact .inr (.loose written spelled plain small)
  · rintro (⟨digits, written, all, small⟩ | ⟨unread⟩ | ⟨written, spelled, -, small⟩)
    · rw [declared?_of_text declares written, Numeral.readWord?_trim_eq_some_iff,
        String.toList_ofList]
      exact ⟨spelled_of_digits all, small⟩
    · exact declared?_of_unread declares unread
    · rw [declared?_of_text declares written, Numeral.readWord?_trim_eq_some_iff]
      exact ⟨spelled, small⟩

/-- A value is taken for a single length. -/
theorem eq_of_declares {m n : Nat} (declares : head.headerOctets? "content-length" = some value)
    (left : Decimal value m ∨ Overlooked value m) (right : Decimal value n ∨ Overlooked value n) :
    m = n := by
  have both := (declared?_eq_some_iff declares).mpr left
  rw [(declared?_eq_some_iff declares).mpr right, Option.some_inj] at both
  exact both.symm

end Declared

/-! ## The answer to a declared length -/

/-- How a connection is served when its head, of `h` octets, declares a body of `n`. -/
inductive Served (router : Router) (limits : ConnectionLimits) (s : Socket) (octets : Octets)
    (h : Nat) (head : Request) (n : Nat) : Except ServerError Outcome → Socket → Prop
  | tooLarge : limits.maxBodySize < n →
    Served router limits s octets h head n (.error (.bodyTooLarge n limits.maxBodySize))
      (refusal router Status.payloadTooLarge (.bodyTooLarge n limits.maxBodySize) s)
  /-- The length of the request is past one word.  Nothing is dispatched and nothing written. -/
  | uncounted : n ≤ limits.maxBodySize → UInt64.size ≤ h + n →
    Served router limits s octets h head n (.ok .unmatched) s
  /-- The body has not come in full.  Nothing is dispatched and nothing written. -/
  | missing {result : Except ServerError Outcome} : n ≤ limits.maxBodySize →
    h + n < UInt64.size → octets.length < h + n →
    (result = .ok .unmatched ∨ ∃ e, result = .error (.socket e)) →
    Served router limits s octets h head n result s
  | dispatched {request : Request} : n ≤ limits.maxBodySize → h + n < UInt64.size →
    h + n ≤ octets.length → request = { head with body := (octets.drop h).take n } →
    request.body.length = n →
    Served router limits s octets h head n (.ok (router.handle request s).1)
      (closed (router.handle request s).2)

/-- The error that a value ends in which is a text but no length. -/
def badLength (text : String) : ServerError := .request (.malformed (.invalidContentLength text))

theorem conclude_stopped (router : Router) (script : List Arrival) (s : Socket) :
    ∃ result, conclude router (stopped script) s = (result, s) ∧
      (result = .ok .unmatched ∨ ∃ e, result = .error (.socket e)) := by
  cases script with
  | nil => exact ⟨_, rfl, .inl rfl⟩
  | cons arrival rest =>
    cases arrival with
    | data bytes => exact ⟨_, rfl, .inl rfl⟩
    | fault fault => exact ⟨_, rfl, .inr ⟨_, rfl⟩⟩
    | silence => exact ⟨_, rfl, .inr ⟨_, rfl⟩⟩

section Head

variable {limits : ConnectionLimits} {s : Socket} {h : Nat} {head : Request}

theorem verdict_of_head {octets : Octets} (found : octets.headLength? = some h)
    (within : h ≤ limits.maxHeadSize)
    (wellFormed : Request.parse (octets.take h) = .ok (some head)) :
    verdict limits octets = verdictOnHead limits octets h head := by
  simp only [verdict, found, if_neg (Nat.not_lt.mpr within), wellFormed]

/-- A connection is answered as the verdict on its data calls for. -/
theorem serve_opening (router : Router) (limits : ConnectionLimits) (s : Socket) :
    ∃ outcome script,
      serve router limits s =
        ((conclude router outcome s).1, (conclude router outcome s).2.withScript script) ∧
      (verdict limits s.incoming).Reached limits (stopped (stop s.peer.script)) outcome := by
  obtain ⟨outcome, script, read, ended⟩ := readRequest_opening limits s
  refine ⟨outcome, script, ?_, ended⟩
  rw [serve, read]
  exact blind_conclude router outcome s script

variable (found : s.incoming.headLength? = some h)
  (within : h ≤ limits.maxHeadSize)
  (wellFormed : Request.parse (s.incoming.take h) = .ok (some head))

include found within wellFormed

theorem served_of_declared (router : Router) {n : Nat} (declared : declared? head = some n) :
    ∃ result ended script,
      serve router limits s = (result, ended.withScript script) ∧
      Served router limits s s.incoming h head n result ended := by
  obtain ⟨outcome, script, answered, ended⟩ := serve_opening router limits s
  refine ⟨(conclude router outcome s).1, (conclude router outcome s).2, script, answered, ?_⟩
  rw [verdict_of_head found within wellFormed, verdictOnHead, declared] at ended
  dsimp only at ended
  by_cases tooLarge : limits.maxBodySize < n
  · rw [if_pos tooLarge] at ended
    cases ended
    exact .tooLarge tooLarge
  rw [if_neg tooLarge] at ended
  have admitted := Nat.not_lt.mp tooLarge
  by_cases past : UInt64.size ≤ h + n
  · rw [if_pos past] at ended
    cases ended
    exact .uncounted admitted past
  rw [if_neg past] at ended
  have counts := Nat.not_le.mp past
  by_cases short : s.incoming.length < h + n
  · rw [if_pos short] at ended
    cases ended
    obtain ⟨result, quiet, silent⟩ := conclude_stopped router (stop s.peer.script) s
    rw [quiet]
    exact .missing admitted counts short silent
  · rw [if_neg short] at ended
    have whole := Nat.not_lt.mp short
    cases ended
    refine .dispatched admitted counts whole rfl ?_
    rw [List.length_take, List.length_drop]
    omega

theorem refused_of_undeclared (router : Router) {text : String}
    (undeclared : declared? head = none) (shown : head.header? "content-length" = some text) :
    ∃ script, serve router limits s = (.error (badLength text),
      (refusal router Status.badRequest (badLength text) s).withScript script) := by
  obtain ⟨outcome, script, answered, ended⟩ := serve_opening router limits s
  rw [verdict_of_head found within wellFormed, verdictOnHead, undeclared, shown] at ended
  cases ended
  exact ⟨script, answered⟩

/-- A declared length is heeded.  If its value is a decimal number, the connection is served with
a body of this length, and if it is none, it is refused, except where the value is overlooked: then
the connection is served with the length that the value is taken for. -/
theorem serve_declaring (router : Router) {value : Octets}
    (declares : head.headerOctets? "content-length" = some value) :
    ∃ result ended script,
      serve router limits s = (result, ended.withScript script) ∧
      (∀ n, Decimal value n →
        Served router limits s s.incoming h head n result ended) ∧
      ((∀ n, ¬Decimal value n) → (∀ n, ¬Overlooked value n) →
        ∃ text, value = Octets.ofText text ∧ result = .error (badLength text) ∧
          ended = refusal router Status.badRequest (badLength text) s) ∧
      ∀ n, Overlooked value n →
        Served router limits s s.incoming h head n result ended := by
  cases taken : declared? head with
  | none =>
    have undecided : ∀ n, ¬(Decimal value n ∨ Overlooked value n) := by
      intro n some_length
      rw [(declared?_eq_some_iff declares).mpr some_length] at taken
      cases taken
    cases read : Utf8.decode? value with
    | none => exact absurd (.inr (.unread read)) (undecided 0)
    | some text =>
      have shown := (header?_of_declares declares).trans read
      obtain ⟨script, refused⟩ := refused_of_undeclared found within wellFormed router taken shown
      exact ⟨_, _, script, refused, fun n decimal => absurd (.inl decimal) (undecided n),
        fun _ _ => ⟨text, (Utf8.decode?_eq_some_iff.mp read).symm, rfl, rfl⟩,
        fun n overlooked => absurd (.inr overlooked) (undecided n)⟩
  | some n =>
    obtain ⟨result, ended, script, answered, served⟩ :=
      served_of_declared found within wellFormed router taken
    have single : ∀ m, Decimal value m ∨ Overlooked value m → m = n := fun m known =>
      eq_of_declares declares known ((declared?_eq_some_iff declares).mp taken)
    refine ⟨result, ended, script, answered, ?_, ?_, ?_⟩
    · intro m decimal
      rw [single m (.inl decimal)]
      exact served
    · intro plain heeded
      rcases (declared?_eq_some_iff declares).mp taken with decimal | overlooked
      · exact absurd decimal (plain n)
      · exact absurd overlooked (heeded n)
    · intro m overlooked
      rw [single m (.inr overlooked)]
      exact served

end Head

/-! ## A length that is read, and one that is not -/

/-- A connection that sends a head with the given value and two octets more, and then nothing. -/
def declaring (value : Octets) : Socket :=
  (Socket.new {}).withScript
    [.data (Octets.ofText "POST /a HTTP/1.1\r\ncontent-length: " ++ value),
      .data (Octets.ofText "\r\n\r\nhi"), .silence]

/-- The head that is sent with a value of one octet. -/
def declaringHead (value : Octets) : Request where
  method := .post
  version := .http11
  startLine := Octets.ofText "POST /a HTTP/1.1"
  path := Octets.ofText "/a"
  queryOctets := none
  segments := [Octets.ofText "a"]
  headers := [(Octets.ofText "content-length", value)]
  headLength := 39
  body := []

/-- Limits that the head above and its body keep to. -/
def fewOctets : ConnectionLimits := ⟨64, 8⟩

theorem serve_declaring_two :
    let s := declaring (Octets.ofText "2")
    let head := declaringHead (Octets.ofText "2")
    (s.incoming.headLength? = some 39 ∧ 39 ≤ fewOctets.maxHeadSize ∧
        Request.parse (s.incoming.take 39) = .ok (some head) ∧
        head.headerOctets? "content-length" = some (Octets.ofText "2")) ∧
      ∃ (ended : Socket) (script : List Arrival),
        serve bareRouter fewOctets s = (.ok .bareNotFound, ended.withScript script) := by
  intro s head
  have found : s.incoming.headLength? = some 39 := by decide +kernel
  have within : 39 ≤ fewOctets.maxHeadSize := by decide
  have wellFormed : Request.parse (s.incoming.take 39) = .ok (some head) :=
    toOption_eq_some_iff.mp (by decide +kernel)
  have declares : head.headerOctets? "content-length" = some (Octets.ofText "2") := by
    decide +kernel
  have two : Decimal (Octets.ofText "2") 2 :=
    ⟨['2'], rfl, ⟨List.cons_ne_nil _ _, List.forall_mem_singleton.mpr rfl, rfl⟩, by decide⟩
  obtain ⟨result, ended, script, answered, decimal, -⟩ :=
    serve_declaring found within wellFormed bareRouter declares
  refine ⟨⟨found, within, wellFormed, declares⟩, ended, script, ?_⟩
  cases decimal 2 two with
  | tooLarge large => exact absurd large (by decide)
  | uncounted _ past => exact absurd past (by decide +kernel)
  | missing _ _ short _ => exact absurd short (by decide +kernel)
  | dispatched _ _ _ cut _ =>
    have handled : (bareRouter.handle { head with body := (s.incoming.drop 39).take 2 } s).1 =
        .bareNotFound := by decide +kernel
    rw [answered, cut, handled]

/-- A value that is no text goes unnoticed.  The request is dispatched with an empty body. -/
theorem serve_unread :
    let s := declaring [0xFF]
    let head := declaringHead [0xFF]
    (s.incoming.headLength? = some 39 ∧ 39 ≤ fewOctets.maxHeadSize ∧
        Request.parse (s.incoming.take 39) = .ok (some head) ∧
        head.headerOctets? "content-length" = some [0xFF] ∧ ∀ n, ¬Decimal [0xFF] n) ∧
      ∃ (ended : Socket) (script : List Arrival),
        serve bareRouter fewOctets s = (.ok .bareNotFound, ended.withScript script) := by
  intro s head
  have found : s.incoming.headLength? = some 39 := by decide +kernel
  have within : 39 ≤ fewOctets.maxHeadSize := by decide
  have wellFormed : Request.parse (s.incoming.take 39) = .ok (some head) :=
    toOption_eq_some_iff.mp (by decide +kernel)
  have declares : head.headerOctets? "content-length" = some [0xFF] := by decide +kernel
  have unread : Utf8.decode? [0xFF] = none := by decide +kernel
  have undeclared : ∀ n, ¬Decimal [0xFF] n := by
    rintro n ⟨digits, written, -⟩
    rw [Utf8.decode?_eq_some_iff.mpr written.symm] at unread
    cases unread
  obtain ⟨result, ended, script, answered, served⟩ :=
    served_of_declared found within wellFormed bareRouter (declared?_of_unread declares unread)
  refine ⟨⟨found, within, wellFormed, declares, undeclared⟩, ended, script, ?_⟩
  cases served with
  | tooLarge large => exact absurd large (by decide)
  | uncounted _ past => exact absurd past (by decide +kernel)
  | missing _ _ short _ => exact absurd short (by decide +kernel)
  | dispatched _ _ _ cut _ =>
    have handled : (bareRouter.handle { head with body := (s.incoming.drop 39).take 0 } s).1 =
        .bareNotFound := by decide +kernel
    rw [answered, cut, handled]

end Signpost.Session
