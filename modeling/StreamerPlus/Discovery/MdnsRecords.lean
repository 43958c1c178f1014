import Mathlib.Tactic

/-!
# mDNS names, records and messages

The values of `mdns_records.h`. A type that the source only builds through a check carries what
the check says: a `DomainName` is within the limits of `TryCreate`, an `MdnsRecord` satisfies
`IsValidConfig`. The comparison operators ignore the case of letters in names, so they are not
equality: `key` is a name with its letters in lower case, and names are compared by it.
-/

namespace StreamerPlus.Discovery

/-! ### Domain names -/

/-- The bytes of a label. -/
abbrev Label := List UInt8

/-- `kMaxLabelLength` and `kMaxDomainNameLength`. -/
@[simp] def kMaxLabelLength : ℕ := 63
@[simp] def kMaxDomainNameLength : ℕ := 256

/-- `IsValidDomainLabel(label)`. -/
def isValidDomainLabel (label : Label) : Bool :=
  0 < label.length && label.length ≤ kMaxLabelLength

/-- `std::tolower` in the C locale. -/
def toLower (c : UInt8) : UInt8 := if 65 ≤ c ∧ c ≤ 90 then c + 32 else c

/-- The bytes of a name on the wire without compression, its termination included. -/
def wireSize (labels : List Label) : ℕ := 1 + (labels.map fun l => l.length + 1).sum

/-- `DomainName`. -/
@[ext] structure DomainName where
  labels : List Label
  valid : ∀ label ∈ labels, isValidDomainLabel label
  size : wireSize labels ≤ kMaxDomainNameLength
  deriving DecidableEq

namespace DomainName

/-- `DomainName::TryCreate(first, last)`. -/
def tryCreate (labels : List Label) : Option DomainName :=
  if h : ∀ label ∈ labels, isValidDomainLabel label then
    if hsize : wireSize labels ≤ kMaxDomainNameLength then some ⟨labels, h, hsize⟩ else none
  else none

/-- `DomainName()`. -/
def root : DomainName := ⟨[], by simp, by simp [wireSize]⟩

variable (d : DomainName)

/-- `empty()`. -/
def empty : Bool := d.labels.isEmpty

/-- `MaxWireSize()`. -/
def maxWireSize : ℕ := wireSize d.labels

/-- The name with its letters in lower case: `operator==` compares names by it. -/
def key : List Label := d.labels.map fun label => label.map toLower

theorem tryCreate_eq_some {labels : List Label} {d : DomainName} :
    tryCreate labels = some d ↔ d.labels = labels := by
  unfold tryCreate
  constructor
  · intro h
    split_ifs at h
    exact congrArg DomainName.labels (Option.some.inj h).symm
  · rintro rfl
    rw [dif_pos d.valid, dif_pos d.size]

end DomainName

/-! ### Types and classes -/

/-- `DnsType`: any 16-bit value can be cast to it. -/
structure DnsType where
  value : UInt16
  deriving DecidableEq, Repr

namespace DnsType

abbrev kA : DnsType := ⟨1⟩
abbrev kPTR : DnsType := ⟨12⟩
abbrev kTXT : DnsType := ⟨16⟩
abbrev kAAAA : DnsType := ⟨28⟩
abbrev kSRV : DnsType := ⟨33⟩
abbrev kOPT : DnsType := ⟨41⟩
abbrev kNSEC : DnsType := ⟨47⟩
abbrev kANY : DnsType := ⟨255⟩

end DnsType

/-- `kSupportedDnsTypes`. -/
def kSupportedDnsTypes : List DnsType :=
  [.kA, .kPTR, .kTXT, .kAAAA, .kSRV, .kNSEC, .kANY]

/-- `DnsClass`, likewise. -/
structure DnsClass where
  value : UInt16
  deriving DecidableEq, Repr

namespace DnsClass

abbrev kIN : DnsClass := ⟨1⟩
abbrev kANY : DnsClass := ⟨255⟩

end DnsClass

/-- `RecordType`. -/
inductive RecordType
  | shared | unique
  deriving DecidableEq, Repr

/-- `ResponseType`. -/
inductive ResponseType
  | multicast | unicast
  deriving DecidableEq, Repr

/-! ### Rdata -/

/-- An `IPAddress` of version 4. -/
structure IPv4Address where
  bytes : List UInt8
  size : bytes.length = 4
  deriving DecidableEq

/-- An `IPAddress` of version 6. The scope of a link-local address is not part of its bytes. -/
structure IPv6Address where
  bytes : List UInt8
  size : bytes.length = 16
  scopeId : UInt32 := 0
  deriving DecidableEq

/-- `OptRecordRdata::Option`. -/
structure OptOption where
  code : UInt16
  length : UInt16
  data : List UInt8
  deriving DecidableEq

/-- `Rdata`: the data of a record, by its kind. -/
inductive Rdata
  | raw (rdata : List UInt8)
  | srv (priority weight port : UInt16) (target : DomainName)
  | a (ipv4Address : IPv4Address) (interfaceIndex : ℤ)
  | aaaa (ipv6Address : IPv6Address) (interfaceIndex : ℤ)
  | ptr (ptrDomain : DomainName)
  | txt (texts : List (List UInt8))
  | nsec (nextDomainName : DomainName) (types : List DnsType)
  | opt (options : List OptOption)
  deriving DecidableEq

namespace Rdata

/-- `operator==` of the variant. -/
def same : Rdata → Rdata → Bool
  | raw x, raw y => x = y
  | srv p w o t, srv p' w' o' t' => p = p' ∧ w = w' ∧ o = o' ∧ t.key = t'.key
  | a x i, a y j => x = y ∧ i = j
  | aaaa x i, aaaa y j => x = y ∧ i = j
  | ptr d, ptr e => d.key = e.key
  | txt x, txt y => x = y
  | nsec d x, nsec e y => x = y ∧ d.key = e.key
  | opt x, opt y => x = y
  | _, _ => false

@[simp] theorem same_self (x : Rdata) : x.same x := by
  cases x <;> simp [same]

theorem same_comm (x y : Rdata) : x.same y = y.same x := by
  cases x <;> cases y <;> simp [same, eq_comm]

/-- The names in the data. -/
def names : Rdata → List DomainName
  | srv _ _ _ target => [target]
  | ptr ptrDomain => [ptrDomain]
  | nsec nextDomainName _ => [nextDomainName]
  | raw _ | a .. | aaaa .. | txt _ | opt _ => []

/-- The types of an NSEC record, if it is one. -/
def nsecTypes? : Rdata → Option (List DnsType)
  | nsec _ types => some types
  | _ => none

/-- Whether the type of a record may have this data. -/
def HasType (dnsType : DnsType) : Rdata → Prop
  | raw _ => True
  | srv .. => dnsType = .kSRV
  | a .. => dnsType = .kA
  | aaaa .. => dnsType = .kAAAA
  | ptr _ => dnsType = .kPTR
  | txt _ => dnsType = .kTXT
  | nsec .. => dnsType = .kNSEC
  | opt _ => dnsType = .kOPT

instance (dnsType : DnsType) (x : Rdata) : Decidable (x.HasType dnsType) :=
  match x with
  | raw _ => isTrue trivial
  | srv .. | a .. | aaaa .. | ptr _ | txt _ | nsec .. | opt _ => by
    unfold HasType
    infer_instance

end Rdata

/-! ### Records -/

/-- `MdnsRecord::IsValidConfig(name, dns_type, ttl, rdata)`. -/
def IsValidConfig (dnsType : DnsType) (ttl : ℤ) (rdata : Rdata) : Prop :=
  ttl ≤ 2 ^ 32 - 1 ∧ rdata.HasType dnsType

instance (dnsType : DnsType) (ttl : ℤ) (rdata : Rdata) :
    Decidable (IsValidConfig dnsType ttl rdata) :=
  inferInstanceAs (Decidable (_ ∧ _))

/-- `MdnsRecord`. -/
structure MdnsRecord where
  name : DomainName
  dnsType : DnsType
  dnsClass : DnsClass
  recordType : RecordType
  ttl : ℤ
  rdata : Rdata
  valid : IsValidConfig dnsType ttl rdata
  deriving DecidableEq

namespace MdnsRecord

variable (r s : MdnsRecord)

/-- `IsReannouncementOf(rhs)`. -/
def isReannouncementOf : Bool :=
  r.dnsType = s.dnsType && r.dnsClass = s.dnsClass && r.recordType = s.recordType &&
    r.name.key = s.name.key && r.rdata.same s.rdata

/-- `MdnsRecord::TryCreate(...)`. -/
def tryCreate (name : DomainName) (dnsType : DnsType) (dnsClass : DnsClass)
    (recordType : RecordType) (ttl : ℤ) (rdata : Rdata) : Option MdnsRecord :=
  if valid : IsValidConfig dnsType ttl rdata then
    some { name, dnsType, dnsClass, recordType, ttl, rdata, valid }
  else none

end MdnsRecord

/-- `RecordChangedEvent`. -/
inductive RecordChangedEvent
  | created | updated | expired
  deriving DecidableEq, Repr

/-! ### Questions and messages -/

/-- `MdnsQuestion`. -/
structure MdnsQuestion where
  name : DomainName
  dnsType : DnsType
  dnsClass : DnsClass
  responseType : ResponseType
  valid : ¬name.empty
  deriving DecidableEq

namespace MdnsQuestion

/-- `MdnsQuestion::TryCreate(...)`. -/
def tryCreate (name : DomainName) (dnsType : DnsType) (dnsClass : DnsClass)
    (responseType : ResponseType) : Option MdnsQuestion :=
  if valid : ¬name.empty then some { name, dnsType, dnsClass, responseType, valid } else none

end MdnsQuestion

/-- `MessageType`. -/
inductive MessageType
  | query | response
  deriving DecidableEq, Repr

/-- `MdnsMessage`. -/
structure MdnsMessage where
  id : UInt16
  type : MessageType
  isTruncated : Bool := false
  questions : List MdnsQuestion := []
  answers : List MdnsRecord := []
  authorityRecords : List MdnsRecord := []
  additionalRecords : List MdnsRecord := []
  deriving DecidableEq

/-- `kMaxMessageFieldEntryCount`. -/
@[simp] def kMaxMessageFieldEntryCount : ℕ := 65535

namespace MdnsMessage

/-- `MdnsMessage::TryCreate(...)`. -/
def tryCreate (id : UInt16) (type : MessageType) (questions : List MdnsQuestion)
    (answers authorityRecords additionalRecords : List MdnsRecord) : Option MdnsMessage :=
  if questions.length ≥ kMaxMessageFieldEntryCount ∨ answers.length ≥ kMaxMessageFieldEntryCount ∨
      authorityRecords.length ≥ kMaxMessageFieldEntryCount ∨
      additionalRecords.length ≥ kMaxMessageFieldEntryCount then none
  else some { id, type, questions, answers, authorityRecords, additionalRecords }

/-- The records of all three sections. -/
def records (m : MdnsMessage) : List MdnsRecord :=
  m.answers ++ m.authorityRecords ++ m.additionalRecords

/-- The names in a message. -/
def names (m : MdnsMessage) : List DomainName :=
  m.questions.map MdnsQuestion.name ++ m.records.flatMap fun r => r.name :: r.rdata.names

/-- The names of a message are within the limits of `DomainName`, and its records are valid. -/
def IsWellFormed (m : MdnsMessage) : Prop :=
  (∀ d ∈ m.names, (∀ label ∈ d.labels, 1 ≤ label.length ∧ label.length ≤ 63) ∧
    wireSize d.labels ≤ 256) ∧
  ∀ r ∈ m.records, IsValidConfig r.dnsType r.ttl r.rdata

/-- What `TryCreate` has checked holds of every message. -/
theorem isWellFormed (m : MdnsMessage) : m.IsWellFormed := by
  refine ⟨fun d _ => ⟨fun label hlabel => ?_, d.size⟩, fun r _ => r.valid⟩
  have hvalid := d.valid label hlabel
  simp only [isValidDomainLabel, Bool.and_eq_true, decide_eq_true_eq] at hvalid
  exact hvalid

end MdnsMessage

/-- A host, a record with an address of it for two minutes, and the question for all records. -/
def sampleHost : DomainName := ⟨[[104]], by decide, by decide⟩
def sampleRecord (byte : UInt8) : MdnsRecord :=
  ⟨sampleHost, .kA, .kIN, .unique, 120, .a ⟨[10, 0, 0, byte], rfl⟩ 0, by norm_num, rfl⟩
def sampleQuestion : MdnsQuestion := ⟨sampleHost, .kANY, .kIN, .multicast, by decide⟩

end StreamerPlus.Discovery
