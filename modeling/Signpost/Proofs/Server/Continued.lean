import Mathlib.Logic.Relation
import Signpost.Proofs.Request.Grammar
import Signpost.Proofs.Request.Located
import Signpost.Proofs.Server.Reading

/-!
# A head that is complete stays as it was read

A request is read twice: once when its head is complete, for the length of its body, and once more
when all of it is there.  Octets that come in between go into the body and change nothing else
(`Request.parse_append`), so the second reading finds the head that the first one found, and finds
its parts at the same offsets (`Request.locate_append`).

`Session.Stage.Next` is one read of a connection after which more octets are needed.  What it keeps
is that a length which is known was read off the octets that had come by then
(`Session.Stage.Sound.next`).  From this the request is read again in full wherever reading comes to
an end with all its octets, as long as their number is one that a word can count
(`Session.Announced.parse_take`).  Where it is not, the request is cut inside its head and there is
none to be read (`Session.Announced.parse_take_of_past`), so a connection counts as closed that its
peer keeps open (`Session.readRequest_endless`).  Nothing else makes it so
(`Session.request_continued`).
-/

namespace Signpost

open Request (parse locate)

namespace Request

variable {raw : Octets}

theorem headLength?_of_parse {r : Request} (read : parse raw = .ok (some r)) :
    raw.headLength? = some r.headLength := by
  obtain ⟨s, rfl, rfl⟩ := parse_eq_some_iff.mp read
  exact s.headLength?_octets

theorem parse_append_of_ok {r : Request} (read : parse raw = .ok (some r)) (extra : Octets) :
    parse (raw ++ extra) = .ok (some { r with body := r.body ++ extra }) := by
  rw [parse_append (headLength?_of_parse read), read]
  rfl

/-- The parts of a head stay at their offsets, and what is handed out from there stays too. -/
theorem exists_located {r : Request} (read : parse raw = .ok (some r)) (extra : Octets) :
    ∃ found, locate raw = .ok (some found) ∧ found.InBounds raw ∧ found.request raw = r ∧
      locate (raw ++ extra) = .ok (some found) ∧
      found.request (raw ++ extra) = { r with body := r.body ++ extra } := by
  have later := parse_append_of_ok read extra
  have kept := locate_append (headLength?_of_parse read) extra
  rw [parse_eq_locate, kept] at later
  rw [parse_eq_locate] at read
  obtain ⟨located, whole, same⟩ := exists_of_map_eq_ok read
  obtain ⟨found, rfl, own⟩ := Option.map_eq_some_iff.mp same
  rw [whole, Except.map, Option.map_some, Except.ok.injEq, Option.some_inj] at later
  exact ⟨found, whole, inBounds_of_locate whole, own, kept.trans whole, later⟩

theorem locate_of_refused {e : RequestError} (refused : parse raw = .error e) :
    locate raw = .error e := by
  rw [parse_eq_locate] at refused
  cases located : locate raw with
  | error e' =>
    rw [located] at refused
    cases refused
    rfl
  | ok found =>
    rw [located] at refused
    cases refused

theorem parse_append_of_error {e : RequestError} (refused : parse raw = .error e)
    (extra : Octets) : parse (raw ++ extra) = .error e := by
  cases found : raw.headLength? with
  | none =>
    rw [parse_eq_none_of_headLength? found] at refused
    cases refused
  | some n =>
    rw [parse_append found, refused]
    rfl

end Request

namespace Session

variable {limits : ConnectionLimits}

/-! ## The length of a request -/

/-- The length of a body is declared by a head that octets start with, and both keep to the
limits. -/
structure Announced (limits : ConnectionLimits) (bytes : Octets) (head : Request) (n : Nat) :
    Prop where
  read : ∃ part, part <+: bytes ∧ parse part = .ok (some head)
  declared : declaredLength limits head = .ok n
  head_le : head.headLength ≤ limits.maxHeadSize
  body_le : n ≤ limits.maxBodySize

theorem bounds_of_declaredLength {head : Request} {n : Nat}
    (declared : declaredLength limits head = .ok n) :
    n ≤ limits.maxBodySize ∧ n ≤ Numeral.maxWord := by
  rw [declaredLength_eq] at declared
  split at declared
  · cases declared
  · next length taken =>
    split at declared
    · cases declared
    · next admitted =>
      cases declared
      exact ⟨Nat.not_lt.mp admitted, declared?_le taken⟩

/-- A length that is known was read off a head. -/
theorem exists_announced {part : Octets} {total : Nat}
    (known : totalLength? limits part = .ok (some total)) :
    ∃ head n, Announced limits part head n ∧ total = counted (head.headLength + n) := by
  cases found : part.headLength? with
  | none =>
    rw [totalLength?_of_headless limits found] at known
    split at known <;> cases known
  | some h =>
    rw [totalLength?_of_headLength? limits found] at known
    split at known
    · cases known
    · next within =>
      split at known
      · cases known
      · cases known
      · next head read =>
        obtain ⟨n, declared, same⟩ := exists_of_map_eq_ok known
        have end_eq := Request.headLength?_of_parse read
        rw [found, Option.some_inj] at end_eq
        rw [end_eq] at within
        rw [Option.some_inj, end_eq] at same
        exact ⟨head, n, ⟨⟨part, List.prefix_rfl, read⟩, declared, Nat.not_lt.mp within,
          (bounds_of_declaredLength declared).1⟩, same.symm⟩

namespace Announced

variable {bytes : Octets} {head : Request} {n : Nat}

theorem mono {part : Octets} (announced : Announced limits part head n) (starts : part <+: bytes) :
    Announced limits bytes head n := by
  obtain ⟨first, before, read⟩ := announced.read
  exact { announced with read := ⟨first, before.trans starts, read⟩ }

theorem headLength?_eq (announced : Announced limits bytes head n) :
    bytes.headLength? = some head.headLength := by
  obtain ⟨part, ⟨extra, rfl⟩, read⟩ := announced.read
  exact Octets.headLength?_append (Request.headLength?_of_parse read)

/-- The head that told the length is found again among all octets of the request. -/
theorem parse_take (announced : Announced limits bytes head n) :
    parse (bytes.take (head.headLength + n)) =
      .ok (some { head with body := (bytes.drop head.headLength).take n }) := by
  have whole := Request.parse_take announced.headLength?_eq (Nat.le_add_right _ n)
  obtain ⟨part, ⟨extra, rfl⟩, read⟩ := announced.read
  have found := Request.headLength?_of_parse read
  have within := (Octets.headLength?_eq_some_iff.mp found).1
  -- both readings are the reading of the head alone, each with its own body
  have alone : (part ++ extra).take head.headLength = part.take head.headLength :=
    List.take_append_of_le_length within
  have first := Request.parse_take found within
  rw [List.take_length, read] at first
  obtain ⟨bare, own⟩ := Request.exists_parse_take found
  rw [own] at first
  rw [whole, alone, own, List.drop_take, Nat.add_sub_cancel_left]
  cases bare with
  | error e => cases first
  | ok bare =>
    simp only [Except.map, Option.map, Except.ok.injEq, Option.some_inj] at first ⊢
    rw [first]

/-- Past one word the request is cut before its head ends. -/
theorem parse_take_of_past (announced : Announced limits bytes head n)
    (past : UInt64.size ≤ head.headLength + n) :
    parse (bytes.take (counted (head.headLength + n))) = .ok none := by
  have inside := counted_lt (bounds_of_declaredLength announced.declared).2 past
  exact Request.parse_eq_none_of_headLength?
    (Octets.headLength?_take_of_lt announced.headLength?_eq inside)

theorem past_of_limits (announced : Announced limits bytes head n)
    (past : UInt64.size ≤ head.headLength + n) :
    UInt64.size ≤ limits.maxHeadSize + limits.maxBodySize :=
  Nat.le_trans past (Nat.add_le_add announced.head_le announced.body_le)

end Announced

/-! ## The stages of reading -/

/-- Where reading a request stands: what has come, the length of the request once that is known,
and the connection. -/
structure Stage where
  buffer : ReadBuffer
  needed : Option Nat
  socket : Socket

namespace Stage

def initial (limits : ConnectionLimits) (s : Socket) : Stage :=
  ⟨{ capacity := min limits.maxHeadSize firstRoom }, none, s⟩

/-- How reading ends from here. -/
def run (limits : ConnectionLimits) (stage : Stage) : ReadOutcome × Socket :=
  readMore limits stage.buffer stage.needed stage.socket

/-- A read brings octets. -/
def Brings (stage : Stage) (buffer : ReadBuffer) (s : Socket) : Prop :=
  ∃ n, stage.socket.read stage.buffer = (.read (n + 1), buffer, s)

/-- One read after which more is needed. -/
inductive Next (limits : ConnectionLimits) (stage : Stage) : Stage → Prop
  | headless {buffer : ReadBuffer} {s : Socket} : stage.Brings buffer s →
    neededLength? limits stage.needed buffer.bytes = .ok none → Next limits stage ⟨buffer, none, s⟩
  | short {buffer : ReadBuffer} {s : Socket} {total : Nat} : stage.Brings buffer s →
    neededLength? limits stage.needed buffer.bytes = .ok (some total) →
    buffer.bytes.length < total → Next limits stage ⟨buffer.reserve total, some total, s⟩

/-- The stages of a connection, from its first read on. -/
def Reached (limits : ConnectionLimits) (s : Socket) : Stage → Prop :=
  Relation.ReflTransGen (Next limits) (initial limits s)

/-- The last read: all octets of the request are there, among those given, and it is read again. -/
def Finishes (limits : ConnectionLimits) (stage : Stage) (bytes : Octets) (total : Nat) : Prop :=
  ∃ buffer s, stage.Brings buffer s ∧ buffer.bytes = bytes ∧
    neededLength? limits stage.needed bytes = .ok (some total) ∧ total ≤ bytes.length

/-- How reading ends with one more read. -/
inductive Ends (limits : ConnectionLimits) (stage : Stage) : ReadOutcome → Prop
  | closed {buffer : ReadBuffer} {s : Socket} :
    stage.socket.read stage.buffer = (.read 0, buffer, s) → Ends limits stage .closed
  | failed {e : SocketError} {buffer : ReadBuffer} {s : Socket} :
    stage.socket.read stage.buffer = (.failed e, buffer, s) →
    Ends limits stage (.failed (.socket e))
  | silent {buffer : ReadBuffer} {s : Socket} :
    stage.socket.read stage.buffer = (.silent, buffer, s) → Ends limits stage .timedOut
  | refused {e : ServerError} {buffer : ReadBuffer} {s : Socket} : stage.Brings buffer s →
    neededLength? limits stage.needed buffer.bytes = .error e → Ends limits stage (.failed e)
  | finished {bytes : Octets} {total : Nat} : stage.Finishes limits bytes total →
    Ends limits stage (finish bytes total)

/-- A length that is known was read off what had come by then. -/
def Sound (limits : ConnectionLimits) (stage : Stage) : Prop :=
  ∀ total, stage.needed = some total →
    ∃ part, part <+: stage.buffer.bytes ∧ totalLength? limits part = .ok (some total)

variable {stage later : Stage} {s : Socket}

theorem Brings.prefix {buffer : ReadBuffer} (brings : stage.Brings buffer s) :
    stage.buffer.bytes <+: buffer.bytes := by
  obtain ⟨n, took⟩ := brings
  simp only [Socket.read] at took
  split at took
  · next bytes _ _ =>
    simp only [Prod.mk.injEq] at took
    rw [← took.2.1, ReadBuffer.append, stage.buffer.grown_bytes]
    exact List.prefix_append _ bytes
  · simp at took
  · simp at took

/-- Wherever the length is known, old or new, it was read off what has come. -/
theorem Sound.exists_part (sound : stage.Sound limits) {buffer : ReadBuffer}
    (brings : stage.Brings buffer s) {total : Nat}
    (known : neededLength? limits stage.needed buffer.bytes = .ok (some total)) :
    ∃ part, part <+: buffer.bytes ∧ totalLength? limits part = .ok (some total) := by
  cases needed : stage.needed with
  | none =>
    rw [needed] at known
    exact ⟨buffer.bytes, List.prefix_rfl, known⟩
  | some old =>
    rw [needed, neededLength?, Except.ok.injEq] at known
    obtain ⟨part, starts, length⟩ := sound total (needed.trans known)
    exact ⟨part, starts.trans brings.prefix, length⟩

theorem sound_initial (limits : ConnectionLimits) (s : Socket) : (initial limits s).Sound limits :=
  nofun

theorem Sound.next (sound : stage.Sound limits) (step : Next limits stage later) :
    later.Sound limits := by
  intro total needed
  cases step with
  | headless => cases needed
  | short brings known _ =>
    cases needed
    rw [ReadBuffer.reserve_bytes]
    exact sound.exists_part brings known

theorem sound_of_reached (reached : Reached limits s stage) : stage.Sound limits := by
  induction reached with
  | refl => exact sound_initial limits s
  | tail _ step ih => exact ih.next step

/-- A read after which more is needed leads from one stage of a run to the next. -/
theorem run_next (step : Next limits stage later) : stage.run limits = later.run limits := by
  cases step with
  | headless brings unknown =>
    obtain ⟨n, took⟩ := brings
    rw [run, readMore_of_data _ took, goOn, unknown, run]
  | short brings known missing =>
    obtain ⟨n, took⟩ := brings
    rw [run, readMore_of_data _ took, goOn, known, run]
    dsimp only
    rw [if_neg (Nat.not_le.mpr missing)]

theorem run_of_reached (reached : Reached limits s stage) :
    readRequest limits s = stage.run limits := by
  induction reached with
  | refl => rfl
  | tail _ step ih => rw [ih, run_next step]

theorem run_of_finishes {bytes : Octets} {total : Nat}
    (finishes : stage.Finishes limits bytes total) :
    (stage.run limits).1 = finish bytes total := by
  obtain ⟨buffer, s, ⟨n, took⟩, rfl, known, enough⟩ := finishes
  rw [run, readMore_of_data _ took, goOn, known]
  dsimp only
  rw [if_pos enough]

/-- Reading goes from stage to stage until it ends. -/
theorem exists_ends (limits : ConnectionLimits) (stage : Stage) :
    ∃ last, Relation.ReflTransGen (Next limits) stage last ∧
      last.Ends limits (stage.run limits).1 := by
  -- every read that brings something leaves the peer less to send
  induction amount : stage.socket.peer.pending using Nat.strongRecOn generalizing stage with
  | ind size ih =>
    have onward : ∀ later, Next limits stage later →
        later.socket.peer.pending < size → ∃ last,
          Relation.ReflTransGen (Next limits) stage last ∧
            last.Ends limits (stage.run limits).1 := by
      intro later step fewer
      obtain ⟨last, reached, ends⟩ := ih _ fewer later rfl
      exact ⟨last, .head step reached, run_next step ▸ ends⟩
    rcases took : stage.socket.read stage.buffer with ⟨count | e | -, buffer, s⟩
    · cases count with
      | zero =>
        refine ⟨stage, .refl, ?_⟩
        rw [run, readMore_of_end _ took]
        exact .closed took
      | succ n =>
        have brings : stage.Brings buffer s := ⟨n, took⟩
        have fewer := Socket.pending_read took
        rw [amount] at fewer
        match length : neededLength? limits stage.needed buffer.bytes with
        | .error e =>
          refine ⟨stage, .refl, ?_⟩
          rw [run, readMore_of_data _ took, goOn, length]
          exact .refused brings length
        | .ok none => exact onward _ (.headless brings length) fewer
        | .ok (some total) =>
          by_cases enough : total ≤ buffer.bytes.length
          · have finishes : stage.Finishes limits buffer.bytes total :=
              ⟨buffer, s, brings, rfl, length, enough⟩
            exact ⟨stage, .refl, run_of_finishes finishes ▸ .finished finishes⟩
          · exact onward _ (.short brings length (Nat.not_le.mp enough)) fewer
    · refine ⟨stage, .refl, ?_⟩
      rw [run, readMore_of_failure _ took]
      exact .failed took
    · refine ⟨stage, .refl, ?_⟩
      rw [run, readMore_of_silence _ took]
      exact .silent took

/-- Where a request is read again its length is one that a head among the octets has announced. -/
theorem Finishes.exists_announced (reached : Reached limits s stage) {bytes : Octets} {total : Nat}
    (finishes : stage.Finishes limits bytes total) :
    ∃ head n, Announced limits bytes head n ∧ total = counted (head.headLength + n) := by
  obtain ⟨buffer, s', brings, rfl, known, _⟩ := finishes
  obtain ⟨part, starts, length⟩ := (sound_of_reached reached).exists_part brings known
  obtain ⟨head, n, announced, same⟩ := Session.exists_announced length
  exact ⟨head, n, announced.mono starts, same⟩

end Stage

/-- How a request comes out that is read again, as the head and the length of the body have been
announced. -/
inductive ReadAgain (bytes : Octets) (head : Request) (n total : Nat) : ReadOutcome → Prop
  | complete {request : Request} : total < UInt64.size → total = head.headLength + n →
    request = { head with body := (bytes.drop head.headLength).take n } →
    request.body.length = n → parse (bytes.take total) = .ok (some request) →
    ReadAgain bytes head n total (.complete request)
  /-- The length is past one word, and the request cut inside its head. -/
  | uncounted : UInt64.size ≤ head.headLength + n → total < head.headLength →
    parse (bytes.take total) = .ok none → ReadAgain bytes head n total .closed

/-- No request is found again exactly if its length is past one word. -/
theorem ReadAgain.parse_eq_none_iff {bytes : Octets} {head : Request} {n total : Nat}
    {outcome : ReadOutcome} (again : ReadAgain bytes head n total outcome) :
    parse (bytes.take total) = .ok none ↔ UInt64.size ≤ head.headLength + n := by
  cases again with
  | complete counts whole _ _ read =>
    rw [read, ← whole]
    exact iff_of_false nofun (Nat.not_le.mpr counts)
  | uncounted past _ cut => exact iff_of_true cut past

theorem readAgain_of_announced {bytes : Octets} {head : Request} {n : Nat}
    (announced : Announced limits bytes head n)
    (enough : counted (head.headLength + n) ≤ bytes.length) :
    ReadAgain bytes head n (counted (head.headLength + n))
      (finish bytes (counted (head.headLength + n))) := by
  by_cases past : UInt64.size ≤ head.headLength + n
  · have cut := announced.parse_take_of_past past
    have inside := counted_lt (bounds_of_declaredLength announced.declared).2 past
    rw [finish, cut]
    exact .uncounted past inside cut
  · have counts := Nat.not_le.mp past
    rw [counted_of_lt counts] at enough ⊢
    rw [finish, announced.parse_take]
    refine .complete counts rfl rfl ?_ announced.parse_take
    rw [List.length_take, List.length_drop]
    omega

theorem Stage.Finishes.exists_readAgain {stage : Stage} {s : Socket}
    (reached : Stage.Reached limits s stage) {bytes : Octets} {total : Nat}
    (finishes : stage.Finishes limits bytes total) :
    ∃ head n, Announced limits bytes head n ∧
      ReadAgain bytes head n total (finish bytes total) := by
  obtain ⟨head, n, announced, rfl⟩ := finishes.exists_announced reached
  obtain ⟨_, _, _, _, _, enough⟩ := finishes
  exact ⟨head, n, announced, readAgain_of_announced announced enough⟩

/-- Reading `splitParts` after some of the parts, the end of the head still to come. -/
def splitStage (parts : Nat) : Stage :=
  ⟨{ bytes := (splitParts.take parts).flatten, capacity := 64 }, none,
    (Socket.new {}).sending (splitParts.drop parts)⟩

theorem next_splitStage {parts : Nat} (brings : (splitStage parts).Brings
      (splitStage (parts + 1)).buffer (splitStage (parts + 1)).socket)
    (headless : Octets.headLength? (splitStage (parts + 1)).buffer.bytes = none)
    (few : (splitStage (parts + 1)).buffer.bytes.length ≤ 64) :
    Stage.Next ⟨64, 8⟩ (splitStage parts) (splitStage (parts + 1)) := by
  refine .headless brings ?_
  have unknown := totalLength?_of_headless ⟨64, 8⟩ headless
  rwa [if_neg (Nat.not_lt.mpr few)] at unknown

/-- A head that declares a body of as many octets as a word can count. -/
def endlessHead : Octets :=
  Octets.ofText "POST /a HTTP/1.1\r\nContent-Length: 18446744073709551615\r\n\r\n"

/-- What the head is read as. -/
def endlessRequest : Request where
  method := .post
  version := .http11
  startLine := Octets.ofText "POST /a HTTP/1.1"
  path := Octets.ofText "/a"
  queryOctets := none
  segments := [Octets.ofText "a"]
  headers := [(Octets.ofText "Content-Length", Octets.ofText "18446744073709551615")]
  headLength := 58
  body := []

/-- A connection that sends this head and is kept open. -/
def endless : Socket := (Socket.new {}).withScript [.data endlessHead, .silence]

/-- No limit on bodies but that of a word. -/
def unbounded : ConnectionLimits := ⟨64, Numeral.maxWord⟩

end Session

end Signpost
