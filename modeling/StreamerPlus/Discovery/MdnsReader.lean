import Mathlib.Data.List.Sort
import StreamerPlus.Discovery.MdnsConstants
import StreamerPlus.Util.BigEndianReader

/-!
# `MdnsReader`

`mdns_reader.cc`: a message off the bytes of a datagram. A name may be compressed: it may go on at
any other position of the buffer, to which a pointer leads. The loop over the labels of a name ends
because it counts the bytes that it has processed.
-/

namespace StreamerPlus.Discovery

open Checked BigEndianReader Attempt

/-- `MdnsReader`: the buffer, and the option of `Config` that it reads. The offset is the state of
its reads. -/
structure MdnsReader where
  buffer : List UInt8
  kMaximumAllowedRdataSize : ℕ
  deriving DecidableEq

/-- `Error::Code`, as far as `Read()` returns it. -/
inductive ReadError
  | mdnsReadFailure | mdnsNonConformingFailure | parameterInvalid
  deriving DecidableEq, Repr

/-- `Header`. -/
structure Header where
  id : ℕ
  flags : ℕ
  questionCount : ℕ
  answerCount : ℕ
  authorityRecordCount : ℕ
  additionalRecordCount : ℕ
  deriving DecidableEq, Repr

/-- What stands at a position of a name. -/
inductive LabelAt
  | termination
  | pointer (offset : ℕ)
  | direct (label : Label)
  | malformed
  deriving DecidableEq, Repr

/-- `IPAddress(version, bytes)` for version 4. -/
def ipv4Address (bytes : List UInt8) : Except ReadFault IPv4Address :=
  if size : bytes.length = 4 then .ok ⟨bytes, size⟩ else .error .checkFailed

/-- `IPAddress(version, bytes)` for version 6. -/
def ipv6Address (bytes : List UInt8) : Except ReadFault IPv6Address :=
  if size : bytes.length = 16 then .ok ⟨bytes, size, 0⟩ else .error .checkFailed

/-- `RawRecordRdata::TryCreate(rdata)`. -/
def rawRecordRdata? (rdata : List UInt8) : Option Rdata :=
  if rdata.length > kMaxRawRecordSize then none else some (.raw rdata)

/-- `TxtRecordRdata::TryCreate(texts)`. -/
def txtRecordRdata? (texts : List (List UInt8)) : Option Rdata :=
  if texts.any List.isEmpty then none else some (.txt texts)

/-- `std::sort` of types. -/
def sortedTypes (types : List DnsType) : List DnsType :=
  types.insertionSort fun t t' => t.value ≤ t'.value

/-- `NsecRecordRdata(next_domain_name, types)`: the types are kept sorted. -/
def nsecRecordRdata (nextDomainName : DomainName) (types : List DnsType) : Rdata :=
  .nsec nextDomainName (sortedTypes types)

/-- Whether the `i`th bit of a bitmap is set. -/
def bitIsSet (bitmap : List UInt8) (i : ℕ) : Bool :=
  (bitmap.getD (i / 8) 0).toNat &&& (0x80 >>> (i % 8)) ≠ 0

/-- The type of the `i`th bit of the bitmap of a window. -/
def typeOfBit (windowBlock i : ℕ) : DnsType := ⟨UInt16.ofNat (i ||| (windowBlock <<< 8))⟩

/-- The supported types among those whose bits are set in a bitmap. -/
def typesOfBitmap (windowBlock : ℕ) (bitmap : List UInt8) : List DnsType :=
  (List.range (bitmap.length * 8)).filterMap fun i =>
    if bitIsSet bitmap i ∧ typeOfBit windowBlock i ∈ kSupportedDnsTypes then
      some (typeOfBit windowBlock i)
    else none

namespace MdnsReader

variable (r : MdnsReader)

/-! ### Names -/

/-- The pointer at a position. -/
def pointerLabelAt (position : ℕ) : Except ReadFault LabelAt := do
  if position + 2 > r.buffer.length then return .malformed
  else
    let label ← bytesAt r.buffer position 2
    return .pointer (getPointerLabelOffset (BigEndian.decode label))

/-- The direct label of `labelLength` bytes at a position. -/
def directLabelAt (position labelLength : ℕ) : Except ReadFault LabelAt := do
  require (0 < labelLength) .checkFailed
  if position + 1 + labelLength ≥ r.buffer.length then return .malformed
  else
    let label ← bytesAt r.buffer (position + 1) labelLength
    return .direct label

/-- The label at a position inside of the buffer. -/
def labelAt (position : ℕ) : Except ReadFault LabelAt := do
  let labelType ← BigEndian.decode <$> bytesAt r.buffer position 1
  if isTerminationLabel labelType then return .termination
  else if isPointerLabel labelType then r.pointerLabelAt position
  else if isDirectLabel labelType then r.directLabelAt position (getDirectLabelLength labelType)
  else return .malformed

/-- The loop of `Read(DomainName*)`: the name, and the bytes that it takes at `current`. -/
def readLabels (current position bytesConsumed bytesProcessed domainNameLength : ℕ)
    (labels : List Label) : Except ReadFault (Option (DomainName × ℕ)) := do
  if _ : position < r.buffer.length ∧ bytesProcessed ≤ r.buffer.length then
    match ← r.labelAt position with
    | .termination =>
      return (DomainName.tryCreate labels).map fun domain =>
        (domain, if bytesConsumed = 0 then position + 1 - current else bytesConsumed)
    | .pointer offset =>
      readLabels current offset
        (if bytesConsumed = 0 then position + 2 - current else bytesConsumed)
        (bytesProcessed + 2) domainNameLength labels
    | .direct label =>
      -- the length of the name includes the length byte of the label
      if ¬isValidDomainLabel label ∨
          domainNameLength + label.length + 1 > kMaxDomainNameLength then return none
      else
        readLabels current (position + 1 + label.length) bytesConsumed
          (bytesProcessed + 1 + label.length) (domainNameLength + label.length + 1)
          (labels ++ [label])
    | .malformed => return none
  else return none
termination_by r.buffer.length + 1 - bytesProcessed

/-- `Read(DomainName*)`. -/
def readName : Reader DomainName := do
  let current ← get
  let found ← ofChecked (r.readLabels current current 0 0 0 [])
  let (domain, bytesConsumed) ← ofOption found
  BigEndianReader.skip r.buffer bytesConsumed
  return domain

/-! ### Rdata -/

/-- `Read(TxtRecordRdata::Entry*)`. -/
def readEntry : Reader (List UInt8) := cursor do
  let entryLength ← read r.buffer 1
  take r.buffer entryLength

/-- `Read(RawRecordRdata*)`. -/
def readRaw : Reader Rdata := cursor do
  let recordLength ← read r.buffer 2
  test (recordLength ≤ r.kMaximumAllowedRdataSize)
  let rdata ← readBytes r.buffer recordLength
  ofOption (rawRecordRdata? rdata)

/-- `Read(SrvRecordRdata*)`. -/
def readSrv : Reader Rdata := cursor do
  let origin ← get
  let recordLength ← read r.buffer 2
  let priority ← read r.buffer 2
  let weight ← read r.buffer 2
  let port ← read r.buffer 2
  let target ← r.readName
  let offset ← get
  test (offset - origin = 2 + recordLength)
  return .srv (UInt16.ofNat priority) (UInt16.ofNat weight) (UInt16.ofNat port) target

/-- `Read(ARecordRdata*)`. -/
def readA : Reader Rdata := cursor do
  let recordLength ← read r.buffer 2
  test (recordLength = 4)
  let bytes ← take r.buffer 4
  let address ← ofChecked (ipv4Address bytes)
  return .a address 0

/-- `Read(AAAARecordRdata*)`. -/
def readAAAA : Reader Rdata := cursor do
  let recordLength ← read r.buffer 2
  test (recordLength = 16)
  let bytes ← take r.buffer 16
  let address ← ofChecked (ipv6Address bytes)
  return .aaaa address 0

/-- `Read(PtrRecordRdata*)`. -/
def readPtr : Reader Rdata := cursor do
  let origin ← get
  let recordLength ← read r.buffer 2
  let ptrDomain ← r.readName
  let offset ← get
  test (offset - origin = 2 + recordLength)
  return .ptr ptrDomain

/-- A round of the loop of `Read(TxtRecordRdata*)`. -/
def readText (texts : List (List UInt8)) : Reader (List (List UInt8)) := do
  let entry ← r.readEntry
  assert (entry.length ≤ kTXTMaxEntrySize) .checkFailed
  return if entry.isEmpty then texts else texts ++ [entry]

/-- The loop of `Read(TxtRecordRdata*)`. -/
def readTexts (origin recordLength : ℕ) : List (List UInt8) → Reader (List (List UInt8)) :=
  loop .stuck (fun offset => r.buffer.length - offset)
    (fun _ offset => offset - origin < 2 + recordLength) r.readText

/-- `Read(TxtRecordRdata*)`. -/
def readTxt : Reader Rdata := cursor do
  let origin ← get
  let recordLength ← read r.buffer 2
  test (recordLength ≤ r.kMaximumAllowedRdataSize)
  let texts ← r.readTexts origin recordLength []
  let offset ← get
  test (offset - origin = 2 + recordLength)
  ofOption (txtRecordRdata? texts)

/-- `Read(NsecBitMapField*)`: the window and the bitmap. -/
def readBitMapField : Reader (ℕ × List UInt8) := cursor do
  let windowBlock ← read r.buffer 1
  let bitmapLength ← read r.buffer 1
  test (¬(bitmapLength = 0 ∨ bitmapLength > 32))
  let bitmap ← take r.buffer bitmapLength
  return (windowBlock, bitmap)

/-- A round of the loop of `Read(std::vector<DnsType>*, int)`. -/
def readBitmapTypes (remainingSize : ℕ) (done : ℕ × List DnsType) : Reader (ℕ × List DnsType) := do
  let (windowBlock, bitmap) ← r.readBitMapField
  let processedBytes := done.1 + bitmap.length + 2
  test (¬processedBytes > remainingSize)
  return (processedBytes, done.2 ++ typesOfBitmap windowBlock bitmap)

/-- `Read(std::vector<DnsType>*, int)`. -/
def readTypes (remainingSize : ℕ) : Reader (List DnsType) := cursor do
  let done ← loop .stuck (fun offset => r.buffer.length - offset)
    (fun done _ => done.1 < remainingSize) (r.readBitmapTypes remainingSize) (0, [])
  return done.2

/-- `Read(NsecRecordRdata*)`. -/
def readNsec : Reader Rdata := cursor do
  let startPosition ← get
  let recordLength ← read r.buffer 2
  let nextRecordName ← r.readName
  test (recordLength ≤ r.kMaximumAllowedRdataSize)
  let current ← get
  let encodedNextNameLength := current - startPosition - 2
  test (encodedNextNameLength < recordLength)
  let types ← r.readTypes (recordLength - encodedNextNameLength)
  return nsecRecordRdata nextRecordName types

/-- `Read(DnsType, Rdata*)`. -/
def readRdata (type : DnsType) : Reader Rdata :=
  if type = .kSRV then r.readSrv
  else if type = .kA then r.readA
  else if type = .kAAAA then r.readAAAA
  else if type = .kPTR then r.readPtr
  else if type = .kTXT then r.readTxt
  else if type = .kNSEC then r.readNsec
  else do
    assert (type ∉ kSupportedDnsTypes) .checkFailed
    r.readRaw

/-! ### Records, questions and messages -/

/-- The fields of a record in front of its data. -/
structure RecordHead where
  name : DomainName
  dnsType : DnsType
  rrclass : ℕ
  ttl : ℕ

/-- The first half of `Read(MdnsRecord*)`. -/
def readRecordHead : Reader RecordHead := do
  let name ← r.readName
  let type ← read r.buffer 2
  let rrclass ← read r.buffer 2
  let ttl ← read r.buffer 4
  return ⟨name, ⟨UInt16.ofNat type⟩, rrclass, ttl⟩

/-- `Read(MdnsRecord*)`. -/
def readRecord : Reader MdnsRecord := cursor do
  let head ← r.readRecordHead
  let rdata ← r.readRdata head.dnsType
  ofOption (MdnsRecord.tryCreate head.name head.dnsType (getDnsClass head.rrclass)
    (getRecordType head.rrclass) head.ttl rdata)

/-- `Read(MdnsQuestion*)`. -/
def readQuestion : Reader MdnsQuestion := cursor do
  let name ← r.readName
  let type ← read r.buffer 2
  let rrclass ← read r.buffer 2
  ofOption (MdnsQuestion.tryCreate name ⟨UInt16.ofNat type⟩ (getDnsClass rrclass)
    (getResponseType rrclass))

/-- `Read(Header*)`. -/
def readHeader : Reader Header := cursor do
  let id ← read r.buffer 2
  let flags ← read r.buffer 2
  let questionCount ← read r.buffer 2
  let answerCount ← read r.buffer 2
  let authorityRecordCount ← read r.buffer 2
  let additionalRecordCount ← read r.buffer 2
  return { id, flags, questionCount, answerCount, authorityRecordCount, additionalRecordCount }

/-- `Read(uint16_t, std::vector<MdnsQuestion>*)`. -/
def readQuestions (count : ℕ) : Reader (List MdnsQuestion) := cursor (many r.readQuestion count)

/-- `Read(uint16_t, std::vector<MdnsRecord>*)`. -/
def readRecords (count : ℕ) : Reader (List MdnsRecord) := cursor (many r.readRecord count)

/-- The message that a header and its sections make. -/
def messageOf (header : Header) (questions : List MdnsQuestion)
    (answers authorityRecords additionalRecords : List MdnsRecord) :
    Except ReadError MdnsMessage :=
  if ¬isValidFlagsSection header.flags then .error .mdnsNonConformingFailure
  else
    match MdnsMessage.tryCreate (UInt16.ofNat header.id) (getMessageType header.flags) questions
      answers authorityRecords additionalRecords with
    | none => .error .parameterInvalid
    | some message => .ok { message with isTruncated := isMessageTruncated header.flags }

/-- The parts of a message. -/
def readParts : Reader (Except ReadError MdnsMessage) := do
  let header ← r.readHeader
  let questions ← r.readQuestions header.questionCount
  let answers ← r.readRecords header.answerCount
  let authorityRecords ← r.readRecords header.authorityRecordCount
  let additionalRecords ← r.readRecords header.additionalRecordCount
  return messageOf header questions answers authorityRecords additionalRecords

/-- `Read()`. The cursor is committed only if there is a message. -/
def readMessage (origin : ℕ) : Except ReadFault (Except ReadError MdnsMessage × ℕ) := do
  match ← r.readParts origin with
  | (some (.ok message), offset) => return (.ok message, offset)
  | (some (.error error), _) => return (.error error, origin)
  | (none, _) => return (.error .mdnsReadFailure, origin)

end MdnsReader

end StreamerPlus.Discovery
