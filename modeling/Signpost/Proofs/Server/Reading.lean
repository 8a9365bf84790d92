import Signpost.Proofs.Connection.Stops
import Signpost.Proofs.Request.HeadLength
import Signpost.Proofs.Text.Numeral
import Signpost.Server.Session

/-!
# What a connection is served depends on its octets alone

Octets arrive in parts of any size, and the checks on them are made as the
parts come in.  `Session.verdict` says in terms of all octets together what a
connection comes down to; `readRequest_opening` shows that reading arrives at
it however the octets are split and however the peer stops, and `serve_sending`
that the connection is then answered accordingly.

Reading has two phases.  While no head is complete the octets so far are within
the limit on heads (`readMore_headless`).  Once it is, the length of the whole
request is known and does not change any more (`goOn_known`), because what is
read of a head does not depend on what follows it.

The length is the sum of head and body in one machine word.  Where the limits
leave room for a sum that does not fit, what is counted is less than the head
(`counted_lt`): then the request is cut inside its own head, and the connection
passed over.
-/

namespace Signpost

namespace Session

/-! ## Lengths in one word -/

theorem counted_of_lt {n : Nat} (small : n < UInt64.size) : counted n = n := Nat.mod_eq_of_lt small

/-- A sum past one word is counted as less than either part. -/
theorem counted_lt {h n : Nat} (word : n ≤ Numeral.maxWord) (past : UInt64.size ≤ h + n) :
    counted (h + n) < h := by
  have size : UInt64.size = 18446744073709551616 := rfl
  rw [Numeral.maxWord, size] at word
  rw [size] at past
  rw [counted, size]
  omega

/-! ## The verdict on all octets -/

/-- What the octets of a connection come down to, once the peer has stopped. -/
inductive Verdict where
  /-- There is no whole request. -/
  | incomplete
  /-- The length of the request is past one word. -/
  | uncounted
  | headTooLarge
  | malformed (e : RequestError)
  | bodyTooLarge (size : Nat)
  | accepted (request : Request)

/-- The length of the body that a head declares, none where that is no number. -/
def declared? (head : Request) : Option Nat :=
  match head.header? "content-length" with
  | none => some 0
  | some _ => head.contentLength?

/-- The first `h` octets are the head; the body is the next `n`, and what follows is left alone. -/
def verdictOnHead (limits : ConnectionLimits) (octets : Octets) (h : Nat) (head : Request) :
    Verdict :=
  match declared? head with
  | none =>
    .malformed (.malformed (.invalidContentLength ((head.header? "content-length").getD "")))
  | some n =>
    if limits.maxBodySize < n then .bodyTooLarge n
    else if UInt64.size ≤ h + n then .uncounted
    else if octets.length < h + n then .incomplete
    else .accepted { head with body := (octets.drop h).take n }

def verdict (limits : ConnectionLimits) (octets : Octets) : Verdict :=
  match octets.headLength? with
  | none => if limits.maxHeadSize < octets.length then .headTooLarge else .incomplete
  | some h =>
    if limits.maxHeadSize < h then .headTooLarge
    else
      match Request.parse (octets.take h) with
      | .error e => .malformed e
      | .ok none => .incomplete
      | .ok (some head) => verdictOnHead limits octets h head

/-- How reading ends under a verdict, given how it ends where it waits for more.  Only the size that
an oversized head is reported with depends on how much of it had been read. -/
inductive Verdict.Reached (limits : ConnectionLimits) (last : ReadOutcome) :
    Verdict → ReadOutcome → Prop
  | incomplete : Reached limits last .incomplete last
  | uncounted : Reached limits last .uncounted .closed
  | headTooLarge {size : Nat} :
    limits.maxHeadSize < size →
    Reached limits last .headTooLarge (.failed (.headTooLarge size limits.maxHeadSize))
  | malformed {e : RequestError} : Reached limits last (.malformed e) (.failed (.request e))
  | bodyTooLarge {size : Nat} :
    Reached limits last (.bodyTooLarge size) (.failed (.bodyTooLarge size limits.maxBodySize))
  | accepted {request : Request} : Reached limits last (.accepted request) (.complete request)

/-! ## What is known of a complete head -/

theorem declaredLength_eq (limits : ConnectionLimits) (head : Request) :
    declaredLength limits head =
      match declared? head with
      | none =>
        .error (.request (.malformed
          (.invalidContentLength ((head.header? "content-length").getD ""))))
      | some n =>
        if limits.maxBodySize < n then .error (.bodyTooLarge n limits.maxBodySize) else .ok n := by
  unfold declaredLength declared?
  cases head.header? "content-length" with
  | none => rfl
  | some value =>
    dsimp only
    cases head.contentLength? with
    | none => rfl
    | some n => rfl

/-- A declared length is a number of one word. -/
theorem declared?_le {head : Request} {n : Nat} (declared : declared? head = some n) :
    n ≤ Numeral.maxWord := by
  unfold declared? at declared
  split at declared
  · cases declared
    exact Nat.zero_le _
  · obtain ⟨value, _, read⟩ := Option.bind_eq_some_iff.mp declared
    exact (Numeral.readWord?_trim_eq_some_iff.mp read).2

/-- The declared length is read off the headers. -/
theorem declaredLength_body (limits : ConnectionLimits) (head : Request) (body : Octets) :
    declaredLength limits { head with body } = declaredLength limits head := rfl

theorem totalLength?_of_headless (limits : ConnectionLimits) {bytes : Octets}
    (missing : bytes.headLength? = none) :
    totalLength? limits bytes =
      if limits.maxHeadSize < bytes.length then
        .error (.headTooLarge bytes.length limits.maxHeadSize)
      else .ok none := by
  rw [Octets.headLength?_eq_cutMark?, Option.map_eq_none_iff] at missing
  rw [totalLength?, missing]

theorem totalLength?_of_headLength? (limits : ConnectionLimits) {bytes : Octets} {h : Nat}
    (found : bytes.headLength? = some h) :
    totalLength? limits bytes =
      if limits.maxHeadSize < h then .error (.headTooLarge h limits.maxHeadSize)
      else
        match Request.parse bytes with
        | .error e => .error (.request e)
        | .ok none => .error (.request (.malformed .incompleteHead))
        | .ok (some request) =>
          (declaredLength limits request).map fun length => some (counted (h + length)) := by
  obtain ⟨cut, reach⟩ := Octets.cutMark?_of_headLength? found
  have bound := (Octets.headLength?_eq_some_iff.mp found).1
  have length : (bytes.take (h - Octets.headEnd.length)).length + Octets.headEnd.length = h := by
    rw [List.length_take]
    omega
  simp only [totalLength?, cut, length, bind, Except.bind]
  split
  · rfl
  · cases Request.parse bytes with
    | error e => rfl
    | ok read =>
      cases read with
      | none => rfl
      | some request =>
        have kept : (Except.ok (some request)).mapError ServerError.request =
            .ok (some request) := rfl
        rw [kept]
        dsimp only
        cases declaredLength limits request with
        | error e => rfl
        | ok n => rfl

/-! ## Cutting a request to its length -/

theorem finish_append {bytes : Octets} {total : Nat} (enough : total ≤ bytes.length)
    (rest : Octets) :
    finish (bytes ++ rest) total = finish bytes total := by
  rw [finish, finish, List.take_append_of_le_length enough]

theorem finish_eq_complete {octets : Octets} {h n : Nat} {head : Request}
    (found : octets.headLength? = some h) (read : Request.parse (octets.take h) = .ok (some head)) :
    finish octets (h + n) = .complete { head with body := (octets.drop h).take n } := by
  have whole := Request.parse_take found (Nat.le_add_right h n)
  rw [read, List.drop_take, Nat.add_sub_cancel_left] at whole
  rw [finish, whole]
  rfl

/-- Where the cut is inside the head there is no request. -/
theorem finish_eq_closed {octets : Octets} {h total : Nat} (found : octets.headLength? = some h)
    (inside : total < h) : finish octets total = .closed := by
  have headless := Octets.headLength?_take_of_lt found inside
  rw [finish, Request.parse_eq_none_of_headLength? headless]

/-! ## Where a peer stops -/

/-- How reading ends where a peer stops. -/
def stopped : List Arrival → ReadOutcome
  | .fault fault :: _ => .failed (.socket (.ofFault fault))
  | .silence :: _ => .timedOut
  | _ => .closed

theorem readMore_stopped (limits : ConnectionLimits) (buffer : ReadBuffer) (needed : Option Nat)
    (s : Socket) {more : List Arrival} (stops : Stops more) :
    ∃ script, readMore limits buffer needed (s.withScript more) =
      (stopped more, s.withScript script) := by
  cases stops with
  | closed => exact ⟨[], readMore_of_end needed rfl⟩
  | @empty rest =>
    have none_left : (s.withScript (.data [] :: rest)).read buffer =
        (.read 0, buffer.grown.append [], s.withScript rest) := by
      simp only [Socket.read, Socket.withScript, Peer.withScript, Peer.take, List.take_nil,
        List.drop_nil, List.isEmpty_nil, if_true, List.length_nil]
    exact ⟨rest, readMore_of_end needed none_left⟩
  | @fault fault rest => exact ⟨rest, readMore_of_failure needed rfl⟩
  | @silence rest => exact ⟨_, readMore_of_silence needed rfl⟩

/-! ## What a head tells of its request -/

/-- How reading ends once the head has told the length of the body. -/
theorem reached_of_declared {limits : ConnectionLimits} {octets : Octets} {h n : Nat}
    {head : Request} (found : octets.headLength? = some h)
    (parsed : Request.parse (octets.take h) = .ok (some head)) (word : n ≤ Numeral.maxWord)
    (last : ReadOutcome) :
    Verdict.Reached limits last
      (if UInt64.size ≤ h + n then .uncounted
        else if octets.length < h + n then .incomplete
        else .accepted { head with body := (octets.drop h).take n })
      (if counted (h + n) ≤ octets.length then finish octets (counted (h + n)) else last) := by
  have bound := (Octets.headLength?_eq_some_iff.mp found).1
  by_cases past : UInt64.size ≤ h + n
  · have inside := counted_lt word past
    rw [if_pos past, if_pos (by omega), finish_eq_closed found inside]
    exact .uncounted
  · rw [if_neg past, counted_of_lt (Nat.not_le.mp past)]
    by_cases short : octets.length < h + n
    · rw [if_pos short, if_neg (Nat.not_le.mpr short)]
      exact .incomplete
    · rw [if_neg short, if_pos (Nat.not_lt.mp short), finish_eq_complete found parsed]
      exact .accepted

/-- What is known when the end of the head comes in: a fault, or the length of the request. -/
theorem totalLength?_reached (limits : ConnectionLimits) {octets : Octets} {h k : Nat}
    (found : octets.headLength? = some h) (reach : h ≤ k) (last : ReadOutcome) :
    (∃ e, totalLength? limits (octets.take k) = .error e ∧
        (verdict limits octets).Reached limits last (.failed e)) ∨
      ∃ total, totalLength? limits (octets.take k) = .ok (some total) ∧
        (verdict limits octets).Reached limits last
          (if total ≤ octets.length then finish octets total else last) := by
  have total := totalLength?_of_headLength? limits (Octets.headLength?_take found reach)
  obtain ⟨read, parsed⟩ := Request.exists_parse_take found
  rw [Request.parse_take found reach, parsed] at total
  simp only [verdict, found, parsed]
  by_cases tooLarge : limits.maxHeadSize < h
  · rw [if_pos tooLarge] at total ⊢
    exact Or.inl ⟨_, total, .headTooLarge tooLarge⟩
  rw [if_neg tooLarge] at total ⊢
  cases read with
  | error e => exact Or.inl ⟨_, total, .malformed⟩
  | ok head =>
    simp only [Except.map, Option.map, declaredLength_body] at total
    rw [declaredLength_eq] at total
    simp only [Except.map, verdictOnHead]
    cases declared : declared? head with
    | none =>
      simp only [declared] at total
      exact Or.inl ⟨_, total, .malformed⟩
    | some n =>
      simp only [declared] at total
      by_cases tooLong : limits.maxBodySize < n
      · simp only [if_pos tooLong] at total ⊢
        exact Or.inl ⟨_, total, .bodyTooLarge⟩
      · simp only [if_neg tooLong] at total ⊢
        exact Or.inr ⟨_, total, reached_of_declared found parsed (declared?_le declared) last⟩

/-- A head that is not complete within the limit is too large whatever follows. -/
theorem verdict_of_headless {limits : ConnectionLimits} {octets : Octets}
    (headless : octets.headLength? = none) (tooLarge : limits.maxHeadSize < octets.length)
    (rest : Octets) : verdict limits (octets ++ rest) = .headTooLarge := by
  rw [verdict]
  cases found : Octets.headLength? (octets ++ rest) with
  | none =>
    simp only [List.length_append]
    rw [if_pos (by omega)]
  | some h =>
    have later := Octets.lt_of_headLength?_append headless found
    simp only
    rw [if_pos (by omega)]

/-! ## The two phases of reading -/

section Phases

variable (limits : ConnectionLimits) (buffer : ReadBuffer) (s : Socket) {parts : List Octets}
  (full : [] ∉ parts) {more : List Arrival} (stops : Stops more)

include full stops

/-- Once the length of the request is known, reading goes on until it is there or the peer
stops. -/
theorem goOn_known (needed : Option Nat) {total : Nat}
    (known : neededLength? limits needed buffer.bytes = .ok (some total)) :
    ∃ script,
      goOn limits buffer needed ((s.sending parts).followed more) =
        (if total ≤ (buffer.bytes ++ parts.flatten).length then
          finish (buffer.bytes ++ parts.flatten) total
        else stopped more, s.withScript script) := by
  induction amount : parts.flatten.length using Nat.strongRecOn
    generalizing parts buffer needed with
  | ind size ih =>
    rw [goOn, known]
    dsimp only
    by_cases enough : total ≤ buffer.bytes.length
    · have all : total ≤ (buffer.bytes ++ parts.flatten).length := by
        rw [List.length_append]
        omega
      rw [if_pos enough, if_pos all, finish_append enough parts.flatten]
      exact ⟨_, rfl⟩
    · rw [if_neg enough]
      by_cases some_left : parts = []
      · subst some_left
        rw [List.flatten_nil, List.append_nil, if_neg enough]
        exact readMore_stopped limits (buffer.reserve total) (some total) s stops
      · obtain ⟨b, got, later, later_full, whole, took⟩ :=
          s.exists_read_followed (buffer.reserve total) full some_left more
        have bytes : ((buffer.reserve total).grown.append (b :: got)).bytes =
            buffer.bytes ++ b :: got := by
          rw [ReadBuffer.append, ReadBuffer.grown_bytes, ReadBuffer.reserve_bytes]
        have fewer : later.flatten.length < size := by
          rw [← amount, ← whole, List.length_append, List.length_cons]
          omega
        have reached := ih _ fewer ((buffer.reserve total).grown.append (b :: got)) later_full
          (some total) rfl rfl
        rwa [bytes, List.append_assoc, whole, ← readMore_of_data (some total) took] at reached

/-- Once the head is complete, reading arrives at the verdict on all octets. -/
theorem goOn_of_head {h : Nat} (found : Octets.headLength? buffer.bytes = some h) :
    ∃ outcome script,
      goOn limits buffer none ((s.sending parts).followed more) = (outcome, s.withScript script) ∧
        (verdict limits (buffer.bytes ++ parts.flatten)).Reached limits (stopped more) outcome := by
  have whole_found : Octets.headLength? (buffer.bytes ++ parts.flatten) = some h :=
    Octets.headLength?_append found
  have reach : h ≤ buffer.bytes.length := (Octets.headLength?_eq_some_iff.mp found).1
  have soFar : (buffer.bytes ++ parts.flatten).take buffer.bytes.length = buffer.bytes :=
    List.take_left
  have told := totalLength?_reached limits whole_found reach (stopped more)
  rw [soFar] at told
  rcases told with ⟨e, fault, reached⟩ | ⟨total, length, reached⟩
  · rw [goOn, neededLength?, fault]
    exact ⟨_, _, rfl, reached⟩
  · obtain ⟨script, went⟩ := goOn_known limits buffer s full stops none length
    exact ⟨_, script, went, reached⟩

/-- While no head is complete, reading goes on towards the verdict on all octets. -/
theorem readMore_headless (headless : Octets.headLength? buffer.bytes = none)
    (within : buffer.bytes.length ≤ limits.maxHeadSize) :
    ∃ outcome script,
      readMore limits buffer none ((s.sending parts).followed more) =
        (outcome, s.withScript script) ∧
      (verdict limits (buffer.bytes ++ parts.flatten)).Reached limits (stopped more) outcome := by
  induction amount : parts.flatten.length using Nat.strongRecOn generalizing parts buffer with
  | ind size ih =>
    by_cases some_left : parts = []
    · subst some_left
      obtain ⟨script, ended⟩ := readMore_stopped limits buffer none s stops
      refine ⟨_, script, ended, ?_⟩
      rw [List.flatten_nil, List.append_nil, verdict, headless]
      simp only [if_neg (Nat.not_lt.mpr within)]
      exact .incomplete
    · obtain ⟨b, got, later, later_full, whole, took⟩ :=
        s.exists_read_followed buffer full some_left more
      have bytes : (buffer.grown.append (b :: got)).bytes = buffer.bytes ++ b :: got := by
        rw [ReadBuffer.append, buffer.grown_bytes]
      have fewer : later.flatten.length < size := by
        rw [← amount, ← whole, List.length_append, List.length_cons]
        omega
      rw [readMore_of_data none took, ← whole, ← List.append_assoc, ← bytes]
      generalize buffer.grown.append (b :: got) = next
      cases found : Octets.headLength? next.bytes with
      | some h => exact goOn_of_head limits next s later_full stops found
      | none =>
        rw [goOn, neededLength?, totalLength?_of_headless limits found]
        by_cases tooLarge : limits.maxHeadSize < next.bytes.length
        · rw [if_pos tooLarge, verdict_of_headless found tooLarge]
          exact ⟨_, _, rfl, .headTooLarge tooLarge⟩
        · rw [if_neg tooLarge]
          exact ih _ fewer next later_full found (Nat.not_lt.mp tooLarge) rfl

end Phases

/-- A connection comes down to the verdict on the data before its peer stops; where this is no
whole request, it ends as the peer stops. -/
theorem readRequest_opening (limits : ConnectionLimits) (s : Socket) :
    ∃ outcome script,
      readRequest limits s = (outcome, s.withScript script) ∧
        (verdict limits s.incoming).Reached limits (stopped (stop s.peer.script)) outcome := by
  have read := readMore_headless limits { capacity := min limits.maxHeadSize firstRoom } s
    (full_opening s.peer.script) (stops_stop s.peer.script) rfl (Nat.zero_le _)
  rwa [s.sending_opening] at read

/-- A peer that sends parts and then closes. -/
theorem readRequest_sending (limits : ConnectionLimits) (s : Socket) {parts : List Octets}
    (full : [] ∉ parts) :
    ∃ outcome script,
      readRequest limits (s.sending parts) = (outcome, s.withScript script) ∧
        (verdict limits parts.flatten).Reached limits .closed outcome := by
  have read := readMore_headless limits { capacity := min limits.maxHeadSize firstRoom } s full
    .closed rfl (Nat.zero_le _)
  rwa [Socket.followed, List.append_nil] at read

/-! ## The answer to a connection -/

section Verdict

variable {limits : ConnectionLimits} {octets : Octets}

/-- The length of a request matters only behind a head within the limit. -/
theorem exists_head_of_verdict {v : Verdict} (came : verdict limits octets = v)
    (late : v = .uncounted ∨ ∃ request, v = .accepted request) :
    ∃ h head, octets.headLength? = some h ∧ h ≤ limits.maxHeadSize ∧
      Request.parse (octets.take h) = .ok (some head) ∧ verdictOnHead limits octets h head = v := by
  unfold verdict at came
  cases found : octets.headLength? with
  | none =>
    simp only [found] at came
    split at came <;> subst came <;> rcases late with late | ⟨_, late⟩ <;> cases late
  | some h =>
    obtain ⟨read, parsed⟩ := Request.exists_parse_take found
    simp only [found, parsed] at came
    split at came
    · subst came
      rcases late with late | ⟨_, late⟩ <;> cases late
    · next within =>
      cases read with
      | error e =>
        subst came
        rcases late with late | ⟨_, late⟩ <;> cases late
      | ok head => exact ⟨h, head, rfl, Nat.not_lt.mp within, parsed, came⟩

/-- A body is accepted only if it is there. -/
theorem exists_of_verdictOnHead_accepted {h : Nat} {head request : Request}
    (accepted : verdictOnHead limits octets h head = .accepted request) :
    ∃ n, h + n ≤ octets.length ∧ request = { head with body := (octets.drop h).take n } := by
  unfold verdictOnHead at accepted
  split at accepted
  · cases accepted
  · next n _ =>
    split at accepted
    · cases accepted
    split at accepted
    · cases accepted
    split at accepted
    · cases accepted
    next enough =>
      cases accepted
      exact ⟨n, Nat.not_lt.mp enough, rfl⟩

theorem past_of_verdictOnHead_uncounted {h : Nat} {head : Request}
    (uncounted : verdictOnHead limits octets h head = .uncounted) :
    UInt64.size ≤ h + limits.maxBodySize := by
  unfold verdictOnHead at uncounted
  split at uncounted
  · cases uncounted
  · split at uncounted
    · cases uncounted
    next admitted =>
      split at uncounted
      · next past => exact Nat.le_trans past (Nat.add_le_add_left (Nat.not_lt.mp admitted) h)
      · split at uncounted <;> cases uncounted

/-- A request that is accepted is what its own octets are read as. -/
theorem parse_of_verdict_accepted {request : Request}
    (accepted : verdict limits octets = .accepted request) :
    ∃ h n,
      octets.headLength? = some h ∧ h + n ≤ octets.length ∧
        Request.parse (octets.take (h + n)) = .ok (some request) ∧
        request.body = (octets.drop h).take n := by
  obtain ⟨h, head, found, _, parsed, onHead⟩ := exists_head_of_verdict accepted (.inr ⟨_, rfl⟩)
  obtain ⟨n, enough, rfl⟩ := exists_of_verdictOnHead_accepted onHead
  refine ⟨h, n, found, enough, ?_, rfl⟩
  rw [Request.parse_take found (Nat.le_add_right h n), parsed, List.drop_take,
    Nat.add_sub_cancel_left]
  rfl

/-- A length is past one word only under limits that add up to more than one. -/
theorem past_of_verdict_uncounted (uncounted : verdict limits octets = .uncounted) :
    UInt64.size ≤ limits.maxHeadSize + limits.maxBodySize := by
  obtain ⟨h, head, _, within, _, onHead⟩ := exists_head_of_verdict uncounted (.inl rfl)
  exact Nat.le_trans (past_of_verdictOnHead_uncounted onHead)
    (Nat.add_le_add_right within limits.maxBodySize)

end Verdict

theorem blind_conclude (router : Router) (outcome : ReadOutcome) :
    Socket.Blind (conclude router outcome) := by
  intro s script
  cases outcome with
  | timedOut => rfl
  | closed => rfl
  | complete request =>
    simp only [conclude, closed, router.blind_handle request s script,
      Socket.blind_close (router.handle request s).2 script]
  | failed e =>
    simp only [conclude]
    cases e.requestStatus? with
    | none => rfl
    | some status =>
      simp only [closed, router.blind_reject (.rejected status e.message) s script,
        Socket.blind_close (router.reject (.rejected status e.message) s).2 script]

/-- The connection after a router has refused what was read and it has been closed. -/
def refusal (router : Router) (status : Status) (e : ServerError) (s : Socket) : Socket :=
  closed (router.reject (.rejected status e.message) s).2

/-- A router without routes. -/
def bareRouter : Router where
  table := {
    base := []
    statics := PerfectStore.withWidth .eight
    dynamicSensitive := { mode := .sensitive }
    dynamicInsensitive := { mode := .insensitive }
    groups := [] }
  notFound := none
  errorResponder := none
  unmatched := .bareNotFound
  date := []

/-- A request in three parts, the second of which ends within the mark of the head, and more. -/
def splitParts : List Octets :=
  [Octets.ofText "POST /a HTTP/1.1\r\ncontent-le", Octets.ofText "ngth: 2\r\n\r",
    Octets.ofText "\nhi and more"]

theorem verdict_splitParts :
    (match verdict ⟨64, 8⟩ splitParts.flatten with
      | .accepted request =>
        request.body == Octets.ofText "hi" &&
          (bareRouter.handle request (Socket.new {})).1 == .bareNotFound
      | _ => false) = true := by
  decide +kernel

end Session

end Signpost
