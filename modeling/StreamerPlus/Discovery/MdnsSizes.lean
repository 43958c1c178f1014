import StreamerPlus.Discovery.MdnsConstants
import StreamerPlus.Lib.Checked

/-!
# `MaxWireSize`

The sizes that `mdns_records.cc` computes for data, records, questions and messages before they are
written, and the functions of `MdnsMessage` that depend on them. A message keeps its size in
`max_wire_size_`, to which every function that adds to the message adds; here it is computed from
what the message holds. The types of an NSEC record are kept as the bytes of their bitmap.
-/

namespace StreamerPlus.Discovery

/-- `kMaxMulticastMessageSize`. -/
abbrev kMaxMulticastMessageSize : ℕ := 1500 - 20 - 8

/-- `sizeof(Header)`. -/
abbrev kHeaderSize : ℕ := 12

/-- The loop variables of the constructor of `NsecRecordRdata`. -/
structure NsecBlocks where
  encodedTypes : List UInt8 := []
  blockContents : List UInt8 := []
  currentBlock : ℕ := 0

/-- The block that was being filled, written out. -/
def NsecBlocks.flush (b : NsecBlocks) : List UInt8 :=
  if b.blockContents.isEmpty then b.encodedTypes
  else b.encodedTypes ++ [UInt8.ofNat b.currentBlock, UInt8.ofNat b.blockContents.length] ++
    b.blockContents

/-- The block contents, long enough for a byte at `position`. -/
def padBlock (blockContents : List UInt8) (position : ℕ) : List UInt8 :=
  if blockContents.length ≤ position then
    blockContents ++ List.replicate (position - blockContents.length + 1) 0
  else blockContents

/-- A round of the loop over the types. -/
def NsecBlocks.add (b : NsecBlocks) (type : DnsType) : NsecBlocks :=
  let typeInt := type.value.toNat
  let block := typeInt >>> 8
  let blockPosition := typeInt &&& 0xFF
  let byteBitIsAt := blockPosition >>> 3
  let byteMask := UInt8.ofNat (0x80 >>> (blockPosition &&& 0x07))
  let b := if block > b.currentBlock then ⟨b.flush, [], block⟩ else b
  { b with
    blockContents := (padBlock b.blockContents byteBitIsAt).modify byteBitIsAt (· ||| byteMask) }

/-- `encoded_types()`. -/
def encodedTypes (types : List DnsType) : List UInt8 := (types.foldl NsecBlocks.add {}).flush

/-- `MaxWireSize()` of each kind of data. That of NSEC data does not count the length field. -/
def Rdata.maxWireSize : Rdata → ℕ
  | raw rdata => 2 + rdata.length
  | srv _ _ _ target => 2 + 2 + 2 + 2 + target.maxWireSize
  | a .. => 2 + 4
  | aaaa .. => 2 + 16
  | ptr ptrDomain => 2 + ptrDomain.maxWireSize
  | txt texts => if texts.isEmpty then 3 else 2 + (texts.map fun text => text.length + 1).sum
  | nsec nextDomainName types => nextDomainName.maxWireSize + (encodedTypes types).length
  | opt options => (options.map fun option => option.data.length + 2 * 2).sum

/-- `MdnsRecord::MaxWireSize()`. -/
def MdnsRecord.maxWireSize (r : MdnsRecord) : ℕ := r.name.maxWireSize + r.rdata.maxWireSize + 8

/-- `MdnsQuestion::MaxWireSize()`. -/
def MdnsQuestion.maxWireSize (q : MdnsQuestion) : ℕ := q.name.maxWireSize + 4

/-- The failed check of a function that adds to a message. -/
inductive MessageFault
  | tooManyEntries
  deriving DecidableEq, Repr

namespace MdnsMessage

open Checked

variable (m : MdnsMessage)

/-- `MdnsMessage::MaxWireSize()`. -/
def maxWireSize : ℕ :=
  kHeaderSize + (m.questions.map MdnsQuestion.maxWireSize).sum +
    (m.records.map MdnsRecord.maxWireSize).sum

/-- `AddQuestion(question)`. -/
def addQuestion (question : MdnsQuestion) : Except MessageFault MdnsMessage := do
  require (m.questions.length < kMaxMessageFieldEntryCount) .tooManyEntries
  return { m with questions := m.questions ++ [question] }

/-- `AddAnswer(record)`. -/
def addAnswer (record : MdnsRecord) : Except MessageFault MdnsMessage := do
  require (m.answers.length < kMaxMessageFieldEntryCount) .tooManyEntries
  return { m with answers := m.answers ++ [record] }

/-- `CanAddRecord(record)`. -/
def canAddRecord (record : MdnsRecord) : Bool :=
  m.maxWireSize + record.maxWireSize < kMaxMulticastMessageSize

variable {m}

theorem maxWireSize_addAnswer (record : MdnsRecord) :
    ({ m with answers := m.answers ++ [record] } : MdnsMessage).maxWireSize =
      m.maxWireSize + record.maxWireSize := by
  simp only [maxWireSize, records, List.map_append, List.sum_append, List.map_cons, List.map_nil,
    List.sum_cons, List.sum_nil]
  omega

/-- The answers of a message cannot outnumber its bytes. -/
theorem length_answers_le : m.answers.length ≤ m.maxWireSize := by
  have hanswers : m.answers.length ≤ (m.answers.map MdnsRecord.maxWireSize).sum := by
    rw [← List.length_map (f := MdnsRecord.maxWireSize)]
    refine List.length_le_sum_of_one_le _ fun size hsize => ?_
    obtain ⟨r, -, rfl⟩ := List.mem_map.mp hsize
    rw [MdnsRecord.maxWireSize]
    omega
  simp only [maxWireSize, records, List.map_append, List.sum_append]
  omega

/-- **A message that can still take a record does take it.** -/
theorem addAnswer_of_canAddRecord {record : MdnsRecord} (h : m.canAddRecord record) :
    m.addAnswer record = .ok { m with answers := m.answers ++ [record] } := by
  have hsize : m.maxWireSize + record.maxWireSize < 1472 := of_decide_eq_true h
  have hlength := length_answers_le (m := m)
  have hfew : m.answers.length < kMaxMessageFieldEntryCount := by
    rw [kMaxMessageFieldEntryCount]
    omega
  rw [addAnswer, require_of hfew]
  rfl

end MdnsMessage

end StreamerPlus.Discovery
