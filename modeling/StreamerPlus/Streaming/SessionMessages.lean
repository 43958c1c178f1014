import StreamerPlus.Streaming.OfferMessages

/-!
# The messages of a session

`ReceiverMessage` (`public/receiver_message.cc`) is what a receiver sends to a sender, and
`SenderMessage` (`sender_message.cc`) what a sender sends to a receiver. Each has a type, a sequence
number, a flag that says whether it is valid, and a variant for its body.

These are the two directions that a receiver needs: how it writes a `ReceiverMessage`, and how it
reads a `SenderMessage`, which is valid when its body could be parsed, so that its body goes with
its type (`SenderMessage.body_of_valid`). The base64 encoding is a parameter.
-/

namespace StreamerPlus

open Checked

/-- `base64::Encode` and `base64::Decode`. -/
structure Base64 where
  encode : List UInt8 → String
  decode : String → Option (List UInt8)

/-- The sequence number is written only when there is one. -/
def sequenceNumberField (sequenceNumber : ℤ) : List (String × Json) :=
  if 0 ≤ sequenceNumber then [("seqNum", .int sequenceNumber)] else []

/-! ### Messages of the receiver -/

inductive MediaCapability
  | audio | aac | opus | video | supports4k | h264 | vp8 | vp9 | hevc | av1
  deriving DecidableEq, Repr

def kMediaCapabilityNames : List (String × MediaCapability) :=
  [("audio", .audio), ("aac", .aac), ("opus", .opus), ("video", .video), ("4k", .supports4k),
    ("h264", .h264), ("vp8", .vp8), ("vp9", .vp9), ("hevc", .hevc), ("av1", .av1)]

/-- `ReceiverCapability`. -/
structure ReceiverCapability where
  remotingVersion : ℤ := -1
  mediaCapabilities : List MediaCapability := []
  deriving DecidableEq, Repr

/-- `ReceiverCapability::ToJson()`. -/
def ReceiverCapability.toJson (c : ReceiverCapability) : Json :=
  .object [("remoting", .int c.remotingVersion),
    ("mediaCaps", .array (c.mediaCapabilities.map fun m =>
      .string (getEnumName kMediaCapabilityNames m)))]

/-- `ReceiverError`. Codes from 10000 on are those of `Error::Code`. -/
structure ReceiverError where
  code : ℤ
  openscreenCode : Option ErrorCode
  description : String
  deriving DecidableEq, Repr

namespace ReceiverError

/-- `ReceiverError(error)`. -/
def ofError (code : ErrorCode) (description : String) : ReceiverError where
  code := code.toInt + 10000
  openscreenCode := some code
  description

/-- `ToJson()`. -/
def toJson (e : ReceiverError) : Json :=
  .object [("code", .int (e.openscreenCode.elim e.code (·.toInt + 10000))),
    ("description", .string e.description)]

end ReceiverError

/-- `ReceiverMessage::Type`. -/
inductive ReceiverMessageType
  | unknown | answer | capabilitiesResponse | rpc | input
  deriving DecidableEq, Repr

def kReceiverMessageTypeNames : List (String × ReceiverMessageType) :=
  [("ANSWER", .answer), ("CAPABILITIES_RESPONSE", .capabilitiesResponse), ("RPC", .rpc),
    ("INPUT", .input)]

/-- The variant of a `ReceiverMessage`. -/
inductive ReceiverMessageBody
  | empty
  | answer (answer : Answer)
  | bytes (bytes : List UInt8)
  | capability (capability : ReceiverCapability)
  | error (error : ReceiverError)
  deriving DecidableEq, Repr

/-- `ReceiverMessage`. -/
structure ReceiverMessage where
  type : ReceiverMessageType := .unknown
  sequenceNumber : ℤ := -1
  valid : Bool := false
  body : ReceiverMessageBody := .empty
  deriving DecidableEq, Repr

/-- The bytes of a field with a base64 text. -/
def parseBytes (base64 : Base64) (value : Json) : Option (List UInt8) :=
  value.tryParseString.bind base64.decode

namespace ReceiverMessage

/-- The fields of `ToJson()` that depend on the type. -/
def toFields (base64 : Base64) (m : ReceiverMessage) : Except SessionFault (List (String × Json)) :=
  match m.type, m.valid, m.body with
  | .unknown, _, _ => .error .notReached
  | .answer, true, .answer answer => do
    let answer ← answer.toJson
    return [("result", .string "ok"), ("answer", answer)]
  | .answer, false, .error error => .ok [("result", .string "error"), ("error", error.toJson)]
  | .capabilitiesResponse, true, .capability capability =>
    .ok [("result", .string "ok"), ("capabilities", capability.toJson)]
  | .capabilitiesResponse, false, .error error =>
    .ok [("result", .string "error"), ("error", error.toJson)]
  | .rpc, _, .bytes bytes => .ok [("rpc", .string (base64.encode bytes))]
  | .input, _, .bytes bytes => .ok [("input", .string (base64.encode bytes))]
  | _, _, _ => .error .wrongAlternative

/-- `ToJson()`. -/
def toJson (base64 : Base64) (m : ReceiverMessage) : Except SessionFault Json := do
  let fields ← m.toFields base64
  return .object ([("type", .string (getEnumName kReceiverMessageTypeNames m.type))] ++
    sequenceNumberField m.sequenceNumber ++ fields)

end ReceiverMessage

/-! ### Messages of the sender -/

/-- `SenderMessage::Type`. -/
inductive SenderMessageType
  | unknown | offer | getCapabilities | rpc | input
  deriving DecidableEq, Repr

def kSenderMessageTypeNames : List (String × SenderMessageType) :=
  [("OFFER", .offer), ("GET_CAPABILITIES", .getCapabilities), ("RPC", .rpc), ("INPUT", .input)]

/-- The variant of a `SenderMessage`. -/
inductive SenderMessageBody
  | empty
  | bytes (bytes : List UInt8)
  | offer (offer : Offer)
  deriving DecidableEq, Repr

/-- `SenderMessage`. -/
structure SenderMessage where
  type : SenderMessageType := .unknown
  sequenceNumber : ℤ := -1
  valid : Bool := false
  body : SenderMessageBody := .empty
  deriving DecidableEq, Repr

namespace SenderMessage

/-- `GetMessageType(root)`. -/
def getMessageType (root : Json) : SenderMessageType :=
  ((root.field "type").tryParseString.bind (getEnum kSenderMessageTypeNames)).getD .unknown

/-- The flag and the body of a message whose bytes are in a field. -/
def parseBytesBody (base64 : Base64) (value : Json) : Bool × SenderMessageBody :=
  match parseBytes base64 value with
  | some bytes => (true, .bytes bytes)
  | none => (false, .empty)

/-- The flag and the body of a message. -/
def parseBody (base64 : Base64) (value : Json) :
    SenderMessageType → Except SessionFault (Bool × SenderMessageBody)
  | .offer => do
    match ← Offer.tryParse (value.field "offer") with
    | .ok offer => return (true, .offer offer)
    | .error _ => return (false, .empty)
  | .rpc => .ok (parseBytesBody base64 (value.field "rpc"))
  | .input => .ok (parseBytesBody base64 (value.field "input"))
  | .getCapabilities => .ok (true, .empty)
  | .unknown => .ok (false, .empty)

/-- `Parse(value)` of an object. -/
def parse (base64 : Base64) (value : Json) : Except SessionFault SenderMessage := do
  let type := getMessageType value
  let parsed ← parseBody base64 value type
  return {
    type
    sequenceNumber := (value.field "seqNum").tryParseInt.getD (-1)
    valid := parsed.1
    body := parsed.2 }

/-- The body that goes with a type. -/
def HasBody (m : SenderMessage) : Prop :=
  match m.type with
  | .offer => ∃ root offer, m.body = .offer offer ∧ Offer.tryParse root = .ok (.ok offer)
  | .rpc | .input => ∃ bytes, m.body = .bytes bytes
  | .getCapabilities => True
  | .unknown => False

variable {base64 : Base64} {value : Json} {m : SenderMessage}

theorem parseBytesBody_of_valid (h : (parseBytesBody base64 value).1 = true) :
    ∃ bytes, (parseBytesBody base64 value).2 = .bytes bytes := by
  unfold parseBytesBody at h ⊢
  split at h
  next bytes _ => exact ⟨bytes, by simp⟩
  next => cases h

/-- **A valid message has the body that goes with its type.** -/
theorem body_of_valid (h : parse base64 value = .ok m) (hvalid : m.valid = true) : m.HasBody := by
  obtain ⟨parsed, hparsed, h⟩ := bind_eq_ok.mp h
  cases h
  unfold HasBody
  cases htype : getMessageType value with
  | unknown =>
    rw [htype] at hparsed
    cases hparsed
    cases hvalid
  | offer =>
    rw [htype] at hparsed
    obtain ⟨r, hr, hparsed⟩ := bind_eq_ok.mp hparsed
    cases r with
    | error e =>
      cases hparsed
      cases hvalid
    | ok offer =>
      cases hparsed
      exact ⟨_, offer, rfl, hr⟩
  | getCapabilities => trivial
  | rpc =>
    rw [htype] at hparsed
    cases hparsed
    exact parseBytesBody_of_valid hvalid
  | input =>
    rw [htype] at hparsed
    cases hparsed
    exact parseBytesBody_of_valid hvalid

end SenderMessage

end StreamerPlus
