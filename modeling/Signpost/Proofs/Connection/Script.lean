import Signpost.Proofs.Response.Wire
import Signpost.Router.Dispatch

/-!
# Reading and writing do not meet

What a peer still has to send is its script.  Reading changes nothing else of a
connection, and writing neither looks at the script nor changes it.  An action
on a socket that is in this way independent of the script is called `Blind`;
everything a router does to answer a request is, so an answer is the same
whatever part of the script is still unread.
-/

namespace Signpost

namespace Peer

def withScript (p : Peer) (script : List Arrival) : Peer := { p with script }

theorem offer_withScript (p : Peer) (script : List Arrival) (bytes : Octets) :
    (p.withScript script).offer bytes =
      ((p.offer bytes).1, (p.offer bytes).2.withScript script) := by
  simp only [offer, withScript]
  cases p.policy ⟨p.attempts, p.received.length, bytes.length⟩ with
  | error fault => rfl
  | ok amount => rfl

theorem Takes.withScript {p mid : Peer} {bytes left : Octets} (taken : p.Takes bytes left mid)
    (script : List Arrival) : (p.withScript script).Takes bytes left (mid.withScript script) := by
  induction taken with
  | refl p bytes => exact .refl _ bytes
  | step took _ ih => exact .step (by rw [offer_withScript, took]) ih

theorem Ends.withScript {p last : Peer} {left : Octets} {result : Except SocketError Unit}
    (ended : p.Ends left result last) (script : List Arrival) :
    (p.withScript script).Ends left result (last.withScript script) := by
  cases ended with
  | done => exact .done _
  | closed some_left took => exact .closed some_left (by rw [offer_withScript, took])
  | failed some_left took => exact .failed some_left (by rw [offer_withScript, took])

end Peer

namespace Socket

def withScript (s : Socket) (script : List Arrival) : Socket :=
  { s with peer := s.peer.withScript script }

/-- An action that does not look at what the peer still has to send, and leaves it there. -/
def Blind {β : Type} (act : Socket → β × Socket) : Prop :=
  ∀ s script, act (s.withScript script) = ((act s).1, (act s).2.withScript script)

section Blind

variable {β γ : Type}

/-- One action after another, which may depend on how the first one ended. -/
theorem Blind.andThen {act : Socket → β × Socket} {next : β → Socket → γ × Socket}
    (first : Blind act) (second : ∀ b, Blind (next b)) :
    Blind fun s => next (act s).1 (act s).2 := by
  intro s script
  dsimp only
  rw [first s script]
  exact second (act s).1 (act s).2 script

/-- An action that only answers. -/
theorem blind_const (b : β) : Blind fun s => (b, s) := fun _ _ => rfl

theorem Blind.map {act : Socket → β × Socket} (blind : Blind act) (f : β → γ) :
    Blind fun s => (f (act s).1, (act s).2) :=
  blind.andThen fun b => blind_const (f b)

theorem blind_write (bytes : Octets) : Blind (·.write bytes) := by
  intro s script
  obtain ⟨_, _, _, _, taken, ended⟩ := s.peer.exists_ends bytes
  have moved := write_of_ends (s := s.withScript script) (taken.withScript script)
    (ended.withScript script)
  dsimp only
  rw [moved, write_of_ends taken ended]
  rfl

theorem blind_writeGathered (parts : List Octets) : Blind (·.writeGathered parts) := by
  intro s script
  obtain ⟨_, _, _, _, taken, ended⟩ := s.peer.exists_ends parts.flatten
  obtain ⟨count, counted, eq⟩ := writeGathered_of_ends taken ended
  obtain ⟨count', counted', moved⟩ := writeGathered_of_ends (s := s.withScript script)
    (taken.withScript script) (ended.withScript script)
  have same : count' = count := Nat.add_right_cancel (counted'.trans counted.symm)
  dsimp only
  rw [moved, eq, same]
  rfl

end Blind

end Socket

open Socket

theorem RenderedResponse.blind_sent {act : Socket → Except SocketError Unit × Socket}
    (blind : Blind act) : Blind fun s => RenderedResponse.sent (act s) :=
  blind.map _

/-- What is written on depends only on whether writing has failed. -/
theorem blind_thenWrite {act next : Socket → Except ResponseError Unit × Socket}
    (first : Blind act) (second : Blind next) : Blind fun s => thenWrite (act s) next := by
  intro s script
  dsimp only
  rw [first s script]
  rcases act s with ⟨_ | _, s'⟩
  · rfl
  · exact second s' script

theorem Chunks.blind_write (chunks : Chunks) : Blind chunks.write := by
  induction chunks with
  | nil =>
    intro s script
    rw [write_nil, write_nil]
    exact RenderedResponse.blind_sent (Socket.blind_write trailer) s script
  | cons item rest ih =>
    intro s script
    cases item with
    | error message => rfl
    | ok chunk =>
      by_cases empty : chunk.isEmpty = true
      · simp only [write, if_pos empty]
        exact ih s script
      · rw [write_of_full empty, write_of_full empty]
        exact blind_thenWrite (RenderedResponse.blind_sent (blind_writeGathered _)) ih s script

theorem RenderedResponse.blind_respond (r : RenderedResponse) (date : Octets) :
    Blind (r.respond date) := by
  intro s script
  cases r with
  | bytes whole => exact RenderedResponse.blind_sent (blind_write whole) s script
  | text whole => exact RenderedResponse.blind_sent (blind_write whole) s script
  | datedText d => exact RenderedResponse.blind_sent (blind_writeGathered _) s script
  | datedBytes d => exact RenderedResponse.blind_sent (blind_writeGathered _) s script
  | chunked head dated chunks =>
    rw [respond_chunked, respond_chunked]
    exact blind_thenWrite (blind_sent (blind_writeGathered _)) chunks.blind_write s script

theorem DynamicResponse.blind_write (r : DynamicResponse) (date : Octets) (omitBody : Bool) :
    Blind (r.write date omitBody) := by
  intro s script
  cases rendered : r.renderedHead with
  | error e => simp only [write_of_refused rendered]
  | ok spans =>
    cases sized : r.body.isStream with
    | false =>
      simp only [write_of_sized rendered sized]
      exact RenderedResponse.blind_sent (blind_writeGathered _) s script
    | true =>
      obtain ⟨chunks, streams⟩ := exists_stream sized
      simp only [write_of_stream rendered streams]
      refine blind_thenWrite (RenderedResponse.blind_sent (blind_writeGathered _)) ?_ s script
      cases omitBody with
      | true => exact blind_const (Except.ok ())
      | false => exact chunks.blind_write

theorem DynamicResponder.blind_respond (r : DynamicResponder) (request : Request)
    (parameters : List String) (date : Octets) : Blind (r.respond request parameters date) := by
  intro s script
  simp only [respond]
  cases r.answer request parameters with
  | error e => rfl
  | ok response => exact response.blind_write date _ s script

namespace Router

theorem blind_respond (r : Router) (found : Resolved) (request : Request) :
    Blind (r.respond found request) := by
  cases found with
  | fixed response tier => exact (response.blind_respond r.date).map _
  | dynamic found tier =>
    exact (found.responder.blind_respond request found.parameters r.date).map _

theorem blind_respondUnmatched (r : Router) (request : Request) :
    Blind (r.respondUnmatched request) := by
  intro s script
  simp only [respondUnmatched]
  rcases r.notFound with _ | response | responder
  · cases r.unmatched with
    | close => rfl
    | bareNotFound =>
      exact ((RenderedResponse.blind_sent (blind_write bareResponse)).map _) s script
  · exact ((response.blind_respond r.date).map _) s script
  · exact ((responder.blind_respond request [] r.date).map _) s script

theorem blind_fail (r : Router) (e : ResponseError) (written : Nat) : Blind (r.fail e written) := by
  intro s script
  simp only [fail]
  cases r.errorResponder with
  | none => rfl
  | some responder =>
    have counted : (s.withScript script).bytesWritten = s.bytesWritten := rfl
    simp only [counted]
    split
    · rfl
    · simp only [(responder e).blind_write r.date false s script]
      rcases (responder e).write r.date false s with ⟨_ | _, _⟩ <;> rfl

theorem blind_attempt (r : Router) (request : Request) : Blind (r.attempt request) := by
  intro s script
  simp only [attempt]
  cases r.table.resolve? request with
  | some found => exact r.blind_respond found request s script
  | none => exact r.blind_respondUnmatched request s script

theorem blind_handle (r : Router) (request : Request) : Blind (r.handle request) := by
  intro s script
  have counted : (s.withScript script).bytesWritten = s.bytesWritten := rfl
  simp only [handle, counted, r.blind_attempt request s script]
  rcases r.attempt request s with ⟨e | _, next⟩
  · exact r.blind_fail e s.bytesWritten next script
  · rfl

theorem blind_reject (r : Router) (e : ResponseError) : Blind (r.reject e) := by
  intro s script
  exact r.blind_fail e s.bytesWritten s script

end Router

theorem Socket.blind_close : Blind Socket.close := by
  intro s script
  have same : (s.withScript script).flush = s.flush := rfl
  simp only [close, same]
  cases s.flush with
  | error e => rfl
  | ok _ => rfl

end Signpost
