import StreamerPlus.Channel.CastSocket

/-!
# The read buffer of a `CastSocket`

`CastSocket::OnRead` leaves its loop at any error of the framer, and the two kinds of error are not
told apart. After `kInsufficientBuffer` the message may still be completed, and the buffer is
shorter than the longest message. After `kCastV2InvalidMessage` nothing that follows is ever read:
the length in the header and the body stay what they are, so each further block is appended to the
buffer, no message is delivered, the socket stays open and its client is told nothing.

What makes the buffer grow is in the bytes that are received, however they are cut into blocks:
`Framed` says that they are complete messages, each with a length that is allowed and a body that
parses, and then the beginning of a message.

## Main results

* `readMessages_ends`: the loop ends at an empty buffer or at an error of the framer.
* `Framed.readMessages`: what the loop leaves, and what is received after it, is still framed.
* `isBounded_of_framed`: if the bytes received in a run are framed, the buffer is shorter than a
  header and the longest body after every call.
* `not_isBounded_oversizedCalls`: after a header with a larger length it is not.
-/

namespace StreamerPlus

open Checked MessageSerialization

namespace CastSocket

variable {μ : Type} (c : CastMessageCodec μ)

/-! ### Where the loop ends -/

variable {buffer : List UInt8}

theorem length_le_of_tryDeserialize {result : DeserializeResult μ}
    (h : tryDeserialize c buffer = .ok result) :
    kHeaderSize ≤ result.length ∧ result.length ≤ buffer.length := by
  unfold tryDeserialize at h
  dsimp only at h
  split_ifs at h with hhead hlong hbody
  split at h
  · cases h
  · cases h
    exact ⟨Nat.le_add_right _ _, not_lt.mp hbody⟩

/-- The loop ends when the buffer is empty or the framer has an error. -/
theorem readMessages_ends {fuel : ℕ} (hfuel : buffer.length ≤ fuel) :
    ∃ e, tryDeserialize c (readMessages c fuel buffer).2 = .error e := by
  induction fuel generalizing buffer with
  | zero =>
    obtain rfl : buffer = [] := List.length_eq_zero_iff.mp (Nat.le_zero.mp hfuel)
    exact ⟨.insufficientBuffer, rfl⟩
  | succ fuel ih =>
    rw [readMessages]
    cases htry : tryDeserialize c buffer with
    | error e => exact ⟨e, htry⟩
    | ok result =>
      obtain ⟨hpos, hle⟩ := length_le_of_tryDeserialize c htry
      dsimp only
      split_ifs with hempty
      · rw [List.isEmpty_iff.mp hempty]
        exact ⟨.insufficientBuffer, rfl⟩
      · refine ih ?_
        rw [List.length_drop]
        simp only [kHeaderSize] at hpos
        omega

/-- A message that may still be completed is shorter than the longest one. -/
theorem length_lt_of_insufficientBuffer (h : tryDeserialize c buffer = .error .insufficientBuffer) :
    buffer.length < kHeaderSize + kMaxBodySize := by
  unfold tryDeserialize at h
  dsimp only at h
  split_ifs at h with hhead hlong hbody
  · simp only [kHeaderSize, kMaxBodySize] at hhead ⊢
    omega
  · cases h
  · omega
  · split at h <;> cases h

/-! ### Invalid messages -/

/-- The buffer starts with what can never be read. -/
def Invalid (buffer : List UInt8) : Prop :=
  tryDeserialize c buffer = .error .castV2InvalidMessage

variable {c}

/-- A message is invalid because of its length, or because of its body when all of it is there. -/
theorem invalid_iff : Invalid c buffer ↔ kHeaderSize ≤ buffer.length ∧
      (kMaxBodySize < BigEndian.decode (buffer.take kHeaderSize) ∨
        kHeaderSize + BigEndian.decode (buffer.take kHeaderSize) ≤ buffer.length ∧
          c.parseFromArray ((buffer.drop kHeaderSize).take
            (BigEndian.decode (buffer.take kHeaderSize))) = none) := by
  unfold Invalid tryDeserialize
  dsimp only
  split_ifs with hhead hlong hbody
  · exact iff_of_false (by simp) fun h => absurd hhead (not_lt.mpr h.1)
  · exact iff_of_true rfl ⟨not_lt.mp hhead, .inl hlong⟩
  · refine iff_of_false (by simp) fun h => ?_
    exact h.2.elim hlong fun h => absurd hbody (not_lt.mpr h.1)
  · cases hparse : c.parseFromArray ((buffer.drop kHeaderSize).take
      (BigEndian.decode (buffer.take kHeaderSize))) with
    | none => exact iff_of_true rfl ⟨not_lt.mp hhead, .inr ⟨not_lt.mp hbody, rfl⟩⟩
    | some message =>
      refine iff_of_false (by simp) fun h => ?_
      exact h.2.elim hlong fun h => Option.some_ne_none _ h.2

/-- What is invalid stays so, whatever follows it. -/
theorem Invalid.append (h : Invalid c buffer) (block : List UInt8) :
    Invalid c (buffer ++ block) := by
  obtain ⟨hhead, h⟩ := invalid_iff.mp h
  have htake : (buffer ++ block).take kHeaderSize = buffer.take kHeaderSize :=
    List.take_append_of_le_length hhead
  refine invalid_iff.mpr ⟨by rw [List.length_append]; omega, ?_⟩
  rw [htake]
  refine h.imp_right fun ⟨hbody, hparse⟩ => ⟨by rw [List.length_append]; omega, ?_⟩
  rw [List.drop_append_of_le_length hhead, List.take_append_of_le_length, hparse]
  rw [List.length_drop]
  omega

/-- Nothing is delivered off a buffer that starts with an invalid message. -/
theorem onRead_of_invalid {s : CastSocket} {block : List UInt8}
    (h : Invalid c (s.readBuffer ++ block)) :
    onRead c s block = .ok ([], ⟨s.readBuffer ++ block⟩) := by
  have hhead := (invalid_iff.mp h).1
  simp only [kHeaderSize] at hhead
  have hbuffer : s.readBuffer ++ block ≠ [] := List.ne_nil_of_length_pos (by omega)
  obtain ⟨n, hn⟩ := Nat.exists_eq_succ_of_ne_zero
    (show (s.readBuffer ++ block).length ≠ 0 by omega)
  rw [onRead, require_of hbuffer, ok_bind, hn, readMessages, h]
  rfl

/-! ### Framed bytes -/

/-- What has been read off a buffer is read off it whatever follows. -/
theorem tryDeserialize_append {result : DeserializeResult μ}
    (h : tryDeserialize c buffer = .ok result) (more : List UInt8) :
    tryDeserialize c (buffer ++ more) = .ok result := by
  unfold tryDeserialize at h ⊢
  dsimp only at h ⊢
  split_ifs at h with hhead hlong hbody
  have htake : (buffer ++ more).take kHeaderSize = buffer.take kHeaderSize :=
    List.take_append_of_le_length (not_lt.mp hhead)
  have hlength : (buffer ++ more).length = buffer.length + more.length := List.length_append
  rw [htake, if_neg (by omega), if_neg hlong, if_neg (by omega),
    List.drop_append_of_le_length (not_lt.mp hhead), List.take_append_of_le_length]
  · exact h
  · rw [List.length_drop]
    omega

variable (c) in
/-- Complete messages with bodies that parse, and then the beginning of a message: bytes in which
the framer finds no error. -/
inductive Framed : List UInt8 → Prop
  | part {bytes : List UInt8} (h : tryDeserialize c bytes = .error .insufficientBuffer) :
      Framed bytes
  | message {bytes : List UInt8} {result : DeserializeResult μ}
      (h : tryDeserialize c bytes = .ok result) (rest : Framed (bytes.drop result.length)) :
      Framed bytes

theorem Framed.not_invalid {bytes : List UInt8} (h : Framed c bytes) : ¬ Invalid c bytes := by
  intro hinvalid
  cases h with
  | part h => cases h.symm.trans hinvalid
  | message h => cases h.symm.trans hinvalid

/-- The loop takes complete messages off the front, so that what it leaves is framed together with
what is received after it. -/
theorem Framed.readMessages {fuel : ℕ} {buffer future : List UInt8}
    (h : Framed c (buffer ++ future)) :
    Framed c ((readMessages c fuel buffer).2 ++ future) := by
  induction fuel generalizing buffer with
  | zero => exact h
  | succ fuel ih =>
    rw [CastSocket.readMessages]
    cases htry : tryDeserialize c buffer with
    | error e => exact h
    | ok result =>
      have hrest : Framed c (buffer.drop result.length ++ future) := by
        have happend := tryDeserialize_append htry future
        cases h with
        | part h => cases h.symm.trans happend
        | message h rest =>
          cases h.symm.trans happend
          rwa [List.drop_append_of_le_length (length_le_of_tryDeserialize c htry).2] at rest
      dsimp only
      split_ifs
      · exact hrest
      · exact ih hrest

/-! ### The socket and its client -/

/-- `CastSocket::State`. -/
inductive State
  | isOpen | error
  deriving DecidableEq, Repr

/-- A socket with its state, and whether its client has been told of an error. -/
structure Link where
  socket : CastSocket := {}
  state : State := .isOpen
  clientTold : Bool := false
  deriving DecidableEq, Repr

/-- The calls that the connection makes. -/
inductive Call
  | onRead (block : List UInt8)
  | onError

namespace Link

variable (c) in
/-- A call. `OnRead` does not look at the state, and no error of the framer becomes one of the
socket. -/
def step (s : Link) : Call → Except Fault (List μ × Link)
  | .onRead block => do
    let (messages, socket) ← CastSocket.onRead c s.socket block
    return (messages, { s with socket })
  | .onError => .ok ([], { s with state := .error, clientTold := true })

variable (c) in
/-- The calls one after the other. -/
def run (s : Link) (calls : List Call) : Except Fault Link :=
  calls.foldlM (fun s call => Prod.snd <$> s.step c call) s

/-- The socket is in the error state and its client knows, or the buffer is shorter than the longest
message. -/
def IsBounded (s : Link) : Prop :=
  (s.state = .error ∧ s.clientTold = true) ∨
    s.socket.readBuffer.length < kHeaderSize + kMaxBodySize

/-- The bytes that are received in calls. -/
def received (calls : List Call) : List UInt8 :=
  calls.flatMap fun call => match call with
    | .onRead block => block
    | .onError => []

/-- No block is empty. -/
def Call.IsNonempty : Call → Prop
  | .onRead block => block ≠ []
  | .onError => True

/-- A call leaves a short buffer if the bytes are framed, and leaves the rest of them framed. -/
theorem step_isBounded {s : Link} {call : Call} (hne : Call.IsNonempty call) {future : List UInt8}
    (h : Framed c (s.socket.readBuffer ++ received [call] ++ future)) :
    ∃ messages t, s.step c call = .ok (messages, t) ∧ t.IsBounded ∧
      Framed c (t.socket.readBuffer ++ future) := by
  cases call with
  | onError => exact ⟨_, _, rfl, .inl ⟨rfl, rfl⟩, by simpa [received] using h⟩
  | onRead block =>
    have hbuffer : s.socket.readBuffer ++ block ≠ [] :=
      List.append_ne_nil_of_right_ne_nil _ hne
    have hleft : Framed c ((readMessages c (s.socket.readBuffer ++ block).length
        (s.socket.readBuffer ++ block)).2 ++ future) :=
      Framed.readMessages (by simpa [received] using h)
    obtain ⟨e, he⟩ := readMessages_ends c (le_refl (s.socket.readBuffer ++ block).length)
    -- an invalid message would stay invalid with what follows it
    obtain rfl : e = .insufficientBuffer := by
      cases e with
      | castV2InvalidMessage => exact absurd (Invalid.append he future) hleft.not_invalid
      | insufficientBuffer => rfl
    have hlt := length_lt_of_insufficientBuffer c he
    rw [step, CastSocket.onRead, require_of hbuffer, ok_bind]
    exact ⟨_, _, rfl, .inr hlt, hleft⟩

theorem run_isBounded {s : Link} (hs : s.IsBounded) {calls : List Call}
    (hne : ∀ call ∈ calls, Call.IsNonempty call)
    (h : Framed c (s.socket.readBuffer ++ received calls)) {before : List Call}
    (hbefore : before <+: calls) : ∃ t, s.run c before = .ok t ∧ t.IsBounded := by
  induction calls generalizing s before with
  | nil =>
    obtain rfl := List.prefix_nil.mp hbefore
    exact ⟨s, rfl, hs⟩
  | cons call calls ih =>
    cases before with
    | nil => exact ⟨s, rfl, hs⟩
    | cons first before =>
      obtain ⟨rfl, hrest⟩ := List.cons_prefix_cons.mp hbefore
      have hreceived : received (first :: calls) = received [first] ++ received calls := by
        simp [received]
      rw [hreceived, ← List.append_assoc] at h
      obtain ⟨messages, t, hstep, ht, hleft⟩ := step_isBounded (hne first List.mem_cons_self) h
      obtain ⟨u, hrun, hu⟩ := ih ht (fun call hcall => hne call (List.mem_cons_of_mem _ hcall))
        hleft hrest
      refine ⟨u, ?_, hu⟩
      rw [run, List.foldlM_cons, hstep]
      exact hrun

/-- **In a run in which the bytes that are received are framed, the buffer is bounded after every
call**, however the bytes are cut into blocks. -/
theorem isBounded_of_framed {calls : List Call} (hne : ∀ call ∈ calls, Call.IsNonempty call)
    (h : Framed c (received calls)) {before : List Call} (hbefore : before <+: calls) :
    ∃ t, Link.run c {} before = .ok t ∧ t.IsBounded :=
  run_isBounded (.inr (by simp)) hne h hbefore

/-- A message in two blocks, of which the first ends inside the header and the second has the
beginning of another message; then the connection fails. -/
theorem isBounded_of_framed_twoBlocks :
    ∃ t, Link.run exampleCodec {} [.onRead [0, 0], .onRead [0, 1, 7, 0, 0], .onError] = .ok t ∧
      t.IsBounded := by
  refine isBounded_of_framed ?_ ?_ (List.prefix_refl _)
  · intro call hcall
    simp only [List.mem_cons, List.not_mem_nil, or_false] at hcall
    rcases hcall with rfl | rfl | rfl <;> simp [Call.IsNonempty]
  · have hmessage : tryDeserialize exampleCodec [0, 0, 0, 1, 7, 0, 0] = .ok ⟨7, 5⟩ := by
      decide +kernel
    exact .message hmessage (.part rfl)

/-- A header that announces a body of 65537 bytes, and then all of such a body but one byte. -/
def oversizedCalls : List Call := [.onRead [0, 1, 0, 1], .onRead (List.replicate 65536 0)]

/-- The oversized message is kept, the socket stays open and the client is told nothing. -/
theorem not_isBounded_oversizedCalls :
    (∀ call ∈ oversizedCalls, Call.IsNonempty call) ∧
      ∃ t, Link.run exampleCodec {} oversizedCalls = .ok t ∧ t.state = .isOpen ∧
        t.clientTold = false ∧ ¬ t.IsBounded := by
  have hinvalid : Invalid exampleCodec [0, 1, 0, 1] :=
    invalid_iff.mpr ⟨by decide, .inl (by decide)⟩
  have hheader : Link.step exampleCodec {} (.onRead [0, 1, 0, 1]) =
      .ok ([], { socket := ⟨[0, 1, 0, 1]⟩ }) := by
    rw [step, @onRead_of_invalid _ exampleCodec {} [0, 1, 0, 1] hinvalid]
    rfl
  have hbody : ∀ body, Link.step exampleCodec { socket := ⟨[0, 1, 0, 1]⟩ } (.onRead body) =
      .ok ([], { socket := ⟨[0, 1, 0, 1] ++ body⟩ }) := by
    intro body
    rw [step, onRead_of_invalid (hinvalid.append body)]
    rfl
  unfold oversizedCalls
  obtain ⟨body, hlength⟩ : ∃ body : List UInt8, body = List.replicate 65536 0 := ⟨_, rfl⟩
  rw [← hlength]
  have hlength : body.length = 65536 := by rw [hlength, List.length_replicate]
  have hne : body ≠ [] := List.ne_nil_of_length_pos (by rw [hlength]; decide)
  refine ⟨?_, { socket := ⟨[0, 1, 0, 1] ++ body⟩ }, ?_, rfl, rfl, ?_⟩
  · intro call hcall
    rcases List.mem_pair.mp hcall with rfl | rfl
    · simp [Call.IsNonempty]
    · exact hne
  · simp [run, hheader, hbody body]
  · rintro (⟨h, -⟩ | h)
    · cases h
    · rw [List.length_append, hlength] at h
      exact absurd h (by decide)

end Link

end CastSocket

end StreamerPlus
