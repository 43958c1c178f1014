import StreamerPlus.Lib.BigEndian
import StreamerPlus.Lib.Checked
import StreamerPlus.Lib.Framing

/-!
# `CastSocket` and its message framing

A Cast channel message is its length, in four bytes, followed by the serialized `CastMessage`
(`message_framer.cc`). `CastSocket::OnRead` appends each block to a buffer and delivers the
messages that the buffer then holds. The protobuf library is a parameter: whatever it computes,
it parses what it has serialized.
-/

namespace StreamerPlus

open Checked Framing

/-- The serialization of `CastMessage` by the protobuf library. -/
structure CastMessageCodec (μ : Type) where
  byteSizeLong : μ → ℕ
  serializeToArray : μ → Option (List UInt8)
  parseFromArray : List UInt8 → Option μ
  length_serialize : ∀ m bytes, serializeToArray m = some bytes → bytes.length = byteSizeLong m
  parse_serialize : ∀ m bytes, serializeToArray m = some bytes → parseFromArray bytes = some m

namespace MessageSerialization

variable {μ : Type} (c : CastMessageCodec μ)

/-- `kHeaderSize` and `kMaxBodySize`. -/
@[simp] def kHeaderSize : ℕ := 4
@[simp] def kMaxBodySize : ℕ := 65536

/-- The error codes of the framer. -/
inductive FramerError
  | castV2InvalidMessage | insufficientBuffer
  deriving DecidableEq, Repr

/-- `Serialize(message)`. -/
def serialize (message : μ) : Except FramerError (List UInt8) :=
  let messageSize := c.byteSizeLong message
  if messageSize > kMaxBodySize ∨ messageSize = 0 then .error .castV2InvalidMessage
  else
    match c.serializeToArray message with
    | none => .error .castV2InvalidMessage
    | some body => .ok (BigEndian.encode kHeaderSize messageSize ++ body)

/-- `DeserializeResult`. -/
structure DeserializeResult (μ : Type) where
  message : μ
  length : ℕ
  deriving DecidableEq

/-- `TryDeserialize(input)`. -/
def tryDeserialize (input : List UInt8) : Except FramerError (DeserializeResult μ) :=
  if input.length < kHeaderSize then .error .insufficientBuffer
  else
    let messageSize := BigEndian.decode (input.take kHeaderSize)
    if messageSize > kMaxBodySize then .error .castV2InvalidMessage
    else if input.length < kHeaderSize + messageSize then .error .insufficientBuffer
    else
      match c.parseFromArray ((input.drop kHeaderSize).take messageSize) with
      | none => .error .castV2InvalidMessage
      | some message => .ok ⟨message, kHeaderSize + messageSize⟩

variable {c}

variable {message : μ}

/-- What `Serialize` accepts: a body of 1 to 65536 bytes, after its length. -/
theorem serialize_eq_ok {bytes : List UInt8} (h : serialize c message = .ok bytes) :
    ∃ body, c.parseFromArray body = some message ∧ 0 < body.length ∧
      body.length ≤ kMaxBodySize ∧ bytes = BigEndian.encode kHeaderSize body.length ++ body := by
  unfold serialize at h
  dsimp only at h
  split_ifs at h with hsize
  split at h
  · cases h
  · rename_i body hbody
    cases h
    obtain ⟨hmax, hpos⟩ := not_or.mp hsize
    have hlen := c.length_serialize _ _ hbody
    exact ⟨body, c.parse_serialize _ _ hbody, by omega, by omega, by rw [hlen]⟩

/-- A header announces the length of the body. -/
theorem decode_take_header {n : ℕ} (hn : n ≤ kMaxBodySize) (rest : List UInt8) :
    BigEndian.decode ((BigEndian.encode kHeaderSize n ++ rest).take kHeaderSize) = n := by
  rw [List.take_left' (BigEndian.length_encode _ _), BigEndian.decode_encode]
  simp only [kMaxBodySize, kHeaderSize] at hn ⊢
  omega

/-- A serialized message is read off the front of the buffer. -/
theorem tryDeserialize_serialize {bytes : List UInt8}
    (h : serialize c message = .ok bytes) (rest : List UInt8) :
    tryDeserialize c (bytes ++ rest) = .ok ⟨message, bytes.length⟩ := by
  obtain ⟨body, hparse, -, hmax, rfl⟩ := serialize_eq_ok h
  have hlen : (BigEndian.encode kHeaderSize body.length ++ body).length =
      kHeaderSize + body.length := by simp
  have hsize : BigEndian.decode
      ((BigEndian.encode kHeaderSize body.length ++ body ++ rest).take kHeaderSize) =
      body.length := by
    rw [List.append_assoc]
    exact decode_take_header hmax _
  have hbody : ((BigEndian.encode kHeaderSize body.length ++ body ++ rest).drop
      kHeaderSize).take body.length = body := by
    rw [List.append_assoc, List.drop_left' (BigEndian.length_encode _ _), List.take_left' rfl]
  unfold tryDeserialize
  dsimp only
  rw [hsize, hbody, hparse, if_neg (by simp), if_neg (not_lt.mpr hmax), if_neg (by simp), hlen]

/-- No message is read off a part of a serialized message. -/
theorem tryDeserialize_short {bytes p : List UInt8}
    (h : serialize c message = .ok bytes) (hp : p <+: bytes) (hne : p ≠ bytes) :
    tryDeserialize c p = .error .insufficientBuffer := by
  obtain ⟨body, -, -, hmax, rfl⟩ := serialize_eq_ok h
  have hlt : p.length < kHeaderSize + body.length := by
    have hle := hp.length_le
    have hne' : p.length ≠ (BigEndian.encode kHeaderSize body.length ++ body).length :=
      fun heq => hne (hp.eq_of_length heq)
    simp only [List.length_append, BigEndian.length_encode] at hle hne'
    omega
  -- a header that is all there announces the length of the whole body
  have hsize : ¬ p.length < kHeaderSize →
      BigEndian.decode (p.take kHeaderSize) = body.length := by
    intro hhead
    obtain ⟨tail, htail⟩ := hp
    rw [← decode_take_header hmax body, ← htail, List.take_append_of_le_length (not_lt.mp hhead)]
  unfold tryDeserialize
  dsimp only
  split_ifs with hhead hlong hbody
  · rfl
  · rw [hsize hhead] at hlong
    exact absurd hlong (not_lt.mpr hmax)
  · rfl
  · rw [hsize hhead] at hbody
    exact absurd hlt hbody

end MessageSerialization

open MessageSerialization

/-- `CastSocket`, as far as reading goes. -/
structure CastSocket where
  readBuffer : List UInt8 := []
  deriving DecidableEq, Repr

namespace CastSocket

variable {μ : Type} (c : CastMessageCodec μ)

/-- The loop of `OnRead`, for at most `fuel` messages: those that are delivered, and what is left
in the buffer. -/
def readMessages : ℕ → List UInt8 → List μ × List UInt8
  | 0, buffer => ([], buffer)
  | fuel + 1, buffer =>
    match tryDeserialize c buffer with
    | .error _ => ([], buffer)
    | .ok result =>
      let buffer := buffer.drop result.length
      if buffer.isEmpty then ([result.message], buffer)
      else
        let (messages, buffer) := readMessages fuel buffer
        (result.message :: messages, buffer)

/-- The first byte of the buffer is taken before anything is read. -/
inductive Fault
  | emptyBuffer
  deriving DecidableEq, Repr

/-- `OnRead(connection, block)`: the messages that the client is given. Every message takes a
byte of the buffer, which bounds the loop. -/
def onRead (s : CastSocket) (block : List UInt8) : Except Fault (List μ × CastSocket) := do
  let buffer := s.readBuffer ++ block
  require (buffer ≠ []) .emptyBuffer
  let (messages, buffer) := readMessages c buffer.length buffer
  return (messages, { s with readBuffer := buffer })

/-- The calls of `OnRead` for one block after the other. -/
def onReadAll (s : CastSocket) : List (List UInt8) → Except Fault (List μ × CastSocket)
  | [] => .ok ([], s)
  | block :: blocks => do
    let (messages, s) ← onRead c s block
    let (more, s) ← onReadAll s blocks
    return (messages ++ more, s)

/-- One message off the front of the buffer. -/
def decodeFrame (buffer : List UInt8) : Option (μ × List UInt8) :=
  match tryDeserialize c buffer with
  | .error _ => none
  | .ok result => some (result.message, buffer.drop result.length)

/-- The bytes of a message that `Serialize` accepts. -/
def encodeFrame (message : μ) : List UInt8 :=
  match serialize c message with
  | .error _ => []
  | .ok bytes => bytes

variable {c}

theorem encodeFrame_eq {message : μ} {bytes : List UInt8} (h : serialize c message = .ok bytes) :
    encodeFrame c message = bytes := by
  rw [encodeFrame, h]

theorem isFraming :
    IsFraming (fun message => ∃ bytes, serialize c message = .ok bytes) (encodeFrame c)
      (decodeFrame c) where
  decode_nil := rfl
  nonempty := by
    rintro message ⟨bytes, h⟩
    obtain ⟨body, -, hpos, -, rfl⟩ := serialize_eq_ok h
    rw [encodeFrame_eq h]
    exact List.append_ne_nil_of_right_ne_nil _ (List.ne_nil_of_length_pos hpos)
  decode_encode := by
    rintro message rest ⟨bytes, h⟩
    rw [encodeFrame_eq h, decodeFrame, tryDeserialize_serialize h]
    simp only [List.drop_left]
  decode_short := by
    rintro message p ⟨bytes, h⟩ hp hne
    rw [encodeFrame_eq h] at hp hne
    rw [decodeFrame, tryDeserialize_short h hp hne]

/-- The loop stops at an empty buffer, off which no message would be read. -/
theorem readMessages_eq_drain (fuel : ℕ) (buffer : List UInt8) :
    readMessages c fuel buffer = drain (decodeFrame c) fuel buffer := by
  induction fuel generalizing buffer with
  | zero => rfl
  | succ fuel ih =>
    rw [readMessages, drain, decodeFrame]
    cases htry : tryDeserialize c buffer with
    | error e => rfl
    | ok result =>
      dsimp only
      split_ifs with hempty
      · rw [List.isEmpty_iff.mp hempty]
        cases fuel <;> rfl
      · rw [ih]

variable {messages : List μ}

/-- After any blocks that start the stream, exactly the messages that are complete have been
delivered. -/
theorem delivered_onReadAll
    (hok : ∀ m ∈ messages, ∃ bytes, serialize c m = .ok bytes) {blocks : List (List UInt8)}
    (hne : ∀ block ∈ blocks, block ≠ []) {future given : List UInt8} {s : CastSocket}
    {done : List μ} (hstream : given ++ blocks.flatten ++ future = stream (encodeFrame c) messages)
    (hdone : Delivered (encodeFrame c) messages given done s.readBuffer) :
    ∃ more t, onReadAll c s blocks = .ok (more, t) ∧
      Delivered (encodeFrame c) messages (given ++ blocks.flatten) (done ++ more) t.readBuffer := by
  induction blocks generalizing given s done with
  | nil => exact ⟨[], s, rfl, by simpa using hdone⟩
  | cons block blocks ih =>
    rw [List.flatten_cons] at hstream
    obtain ⟨more, rest, hdrain, hmore⟩ := isFraming.feed hok
      (show given ++ block ++ (blocks.flatten ++ future) = _ by simpa using hstream) hdone le_rfl
    have hblock : s.readBuffer ++ block ≠ [] :=
      List.append_ne_nil_of_right_ne_nil _ (hne block List.mem_cons_self)
    have hread : onRead c s block = .ok (more, ⟨rest⟩) := by
      rw [onRead, require_of hblock, ok_bind, readMessages_eq_drain, hdrain]
      rfl
    obtain ⟨more', t, hall, hnext⟩ := ih (fun b hb => hne b (List.mem_cons_of_mem _ hb))
      (s := ⟨rest⟩) (by simpa using hstream) hmore
    refine ⟨more ++ more', t, ?_, by simpa using hnext⟩
    rw [onReadAll, hread, ok_bind]
    dsimp only
    rw [hall]
    rfl

theorem serialized_eq_map {serialized : List (List UInt8)}
    (h : List.Forall₂ (fun m bytes => serialize c m = .ok bytes) messages serialized) :
    (∀ m ∈ messages, ∃ bytes, serialize c m = .ok bytes) ∧
      serialized = messages.map (encodeFrame c) := by
  induction h with
  | nil => exact ⟨by simp, rfl⟩
  | @cons m bytes messages serialized hm _ ih =>
    refine ⟨fun m' hm' => ?_, by rw [List.map_cons, encodeFrame_eq hm, ih.2]⟩
    rcases List.mem_cons.mp hm' with rfl | hm'
    · exact ⟨bytes, hm⟩
    · exact ih.1 m' hm'

/-- **Framing is independent of segmentation.** However the bytes of accepted messages are cut
into blocks: after each call of `OnRead`, the messages delivered so far are those whose last byte
has been supplied, in order, and the buffer holds the bytes after them; after the last call all
messages are delivered and the buffer is empty. -/
theorem onReadAll_segmentation {serialized blocks : List (List UInt8)}
    (hser : List.Forall₂ (fun m bytes => serialize c m = .ok bytes) messages serialized)
    (hne : ∀ block ∈ blocks, block ≠ []) (hblocks : blocks.flatten = serialized.flatten) :
    (∀ before after, blocks = before ++ after → ∃ n t,
      onReadAll c {} before = .ok (messages.take n, t) ∧
      (∀ i < messages.length,
        i < n ↔ ((serialized.take (i + 1)).flatten).length ≤ before.flatten.length) ∧
      before.flatten = (serialized.take n).flatten ++ t.readBuffer) ∧
    onReadAll c {} blocks = .ok (messages, ⟨[]⟩) := by
  obtain ⟨hok, rfl⟩ := serialized_eq_map hser
  have htake : ∀ n, ((messages.map (encodeFrame c)).take n).flatten =
      stream (encodeFrame c) (messages.take n) := fun n => by rw [stream, List.map_take]
  have hstart : Delivered (encodeFrame c) messages [] [] [] :=
    .nil fun m hm => isFraming.nonempty m (hok m hm)
  refine ⟨fun before after hsplit => ?_, ?_⟩
  · subst hsplit
    rw [List.flatten_append] at hblocks
    obtain ⟨done, t, hread, hdone⟩ := delivered_onReadAll hok
      (fun b hb => hne b (List.mem_append_left _ hb)) (s := {})
      (show [] ++ before.flatten ++ after.flatten = _ from hblocks) hstart
    rw [List.nil_append, List.nil_append] at hdone
    have hpre := List.prefix_iff_eq_take.mp hdone.isPrefix
    refine ⟨done.length, t, by rw [← hpre, hread], fun i hi => ?_, ?_⟩
    · rw [htake]
      exact hdone.lt_length_iff hi
    · rw [htake, ← hpre]
      exact hdone.given_eq
  · obtain ⟨done, t, hread, hdone⟩ := delivered_onReadAll hok hne (s := {})
      (show [] ++ blocks.flatten ++ [] = _ by rw [List.nil_append, List.append_nil, hblocks]; rfl)
      hstart
    rw [List.nil_append, List.nil_append, hblocks] at hdone
    obtain ⟨rfl, hbuffer⟩ := hdone.eq_of_complete
    rw [hread, show t = ⟨[]⟩ from congrArg CastSocket.mk hbuffer]

/-- Messages of one byte. -/
def exampleCodec : CastMessageCodec UInt8 where
  byteSizeLong _ := 1
  serializeToArray m := some [m]
  parseFromArray bytes := bytes.head?
  length_serialize := by
    rintro m bytes ⟨⟩
    rfl
  parse_serialize := by
    rintro m bytes ⟨⟩
    rfl

/-- Two messages in four blocks, of which one ends inside a header and one holds the end of the
first message and the start of the second. -/
def exampleBlocks : List (List UInt8) := [[0, 0], [0, 1, 7, 0], [0, 0, 1], [9]]

theorem onReadAll_segmentation_exampleBlocks :
    onReadAll exampleCodec {} exampleBlocks = .ok ([7, 9], ⟨[]⟩) := by
  have hser : List.Forall₂ (fun m bytes => serialize exampleCodec m = .ok bytes) [7, 9]
      [[0, 0, 0, 1, 7], [0, 0, 0, 1, 9]] := .cons rfl (.cons rfl .nil)
  have hne : ∀ block ∈ exampleBlocks, block ≠ [] := by decide
  exact (onReadAll_segmentation hser hne (by decide)).2

end CastSocket

end StreamerPlus
