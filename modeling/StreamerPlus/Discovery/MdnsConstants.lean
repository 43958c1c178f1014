import StreamerPlus.Discovery.MdnsRecords

/-!
# The bits of the mDNS wire format

The masks of `mdns_constants.h` and the functions that take flags, labels and classes apart and put
them together. The numbers are the unsigned integers of the wire.
-/

namespace StreamerPlus.Discovery

/-! ### Flags of a message -/

abbrev kFlagResponse : ℕ := 0x8000
abbrev kFlagTC : ℕ := 0x0200
abbrev kOpcodeMask : ℕ := 0x7800
abbrev kRcodeMask : ℕ := 0x000F

/-- `GetMessageType(flags)`. -/
def getMessageType (flags : ℕ) : MessageType :=
  if flags &&& kFlagResponse ≠ 0 then .response else .query

/-- `IsMessageTruncated(flags)`. -/
def isMessageTruncated (flags : ℕ) : Bool := flags &&& kFlagTC ≠ 0

/-- `IsValidFlagsSection(flags)`. -/
def isValidFlagsSection (flags : ℕ) : Bool := flags &&& (kOpcodeMask ||| kRcodeMask) = 0

/-! ### Labels of a name -/

abbrev kLabelTermination : ℕ := 0x00
abbrev kLabelTypeMask : ℕ := 0xC0
abbrev kLabelDirect : ℕ := 0x00
abbrev kLabelPointer : ℕ := 0xC0
abbrev kLabelLengthMask : ℕ := 0x3F
abbrev kLabelOffsetMask : ℕ := 0x3FFF

variable (label : ℕ)

/-- `IsTerminationLabel(label)`, `IsDirectLabel(label)` and `IsPointerLabel(label)`. -/
def isTerminationLabel : Bool := label = kLabelTermination
def isDirectLabel : Bool := label &&& kLabelTypeMask = kLabelDirect
def isPointerLabel : Bool := label &&& kLabelTypeMask = kLabelPointer

/-- `GetDirectLabelLength(label)` and `GetPointerLabelOffset(label)`. -/
def getDirectLabelLength : ℕ := label &&& kLabelLengthMask
def getPointerLabelOffset : ℕ := label &&& kLabelOffsetMask

/-! ### Classes -/

abbrev kClassMask : ℕ := 0x7FFF
abbrev kClassMsbMask : ℕ := 0x8000
abbrev kClassMsbShift : ℕ := 0xF

variable (rrclass : ℕ)

/-- `GetDnsClass(rrclass)`. -/
def getDnsClass : DnsClass := ⟨UInt16.ofNat (rrclass &&& kClassMask)⟩

/-- The highest bit of a class. -/
def classMsb : ℕ := (rrclass &&& kClassMsbMask) >>> kClassMsbShift

/-- `GetRecordType(rrclass)`. -/
def getRecordType : RecordType := if classMsb rrclass = 1 then .unique else .shared

/-- `GetResponseType(rrclass)`. -/
def getResponseType : ResponseType :=
  if classMsb rrclass = 1 then .unicast else .multicast

/-! ### Sizes -/

/-- `kTXTMaxEntrySize`. -/
abbrev kTXTMaxEntrySize : ℕ := 255

/-- `kMaxRawRecordSize`. -/
abbrev kMaxRawRecordSize : ℕ := 65535

/-! ### The kinds of labels -/

/-- A byte that marks a direct label is the length of it. -/
theorem getDirectLabelLength_eq {label : ℕ} (hlt : label < 256) (h : isDirectLabel label) :
    getDirectLabelLength label = label ∧ label ≤ kMaxLabelLength := by
  have hall : ∀ label < 256, isDirectLabel label →
      getDirectLabelLength label = label ∧ label ≤ kMaxLabelLength := by decide +kernel
  exact hall label hlt h

end StreamerPlus.Discovery
