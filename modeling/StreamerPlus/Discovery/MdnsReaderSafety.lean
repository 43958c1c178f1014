import StreamerPlus.Discovery.MdnsReader

/-!
# What hostile input can do to `MdnsReader`

`Read()` returns on every buffer: it takes no byte from outside of the buffer, the walk over the
pointers of a name ends, and every loop moves on. Of its assertions one can fail. A record of type
255 (`kANY`, which only a question may have) is none of those whose data the reader knows, but it is
among `kSupportedDnsTypes`, and the reader asserts that what is left is not.

## Main results

* `readMessage_isSound_iff`: `Read()` has a sound result exactly if it comes to no record of that
  type.
-/

namespace StreamerPlus.Discovery.MdnsReader

open Checked BigEndianReader Attempt

variable (r : MdnsReader)

/-- No assertion. -/
abbrev Never : ReadFault → Prop := fun _ => False

/-- A read that no assertion stops. -/
abbrev Safe {α : Type} (x : Reader α) : Prop := Keeps (InBuffer r.buffer) Never x

/-! ### Names -/

theorem outcome_pointerLabelAt (position : ℕ) :
    Outcome (fun _ => True) Never (r.pointerLabelAt position) := by
  unfold pointerLabelAt
  split_ifs
  · trivial
  · rw [bytesAt_of_le (by omega)]
    trivial

theorem outcome_directLabelAt (position : ℕ) {labelLength : ℕ} (h : 0 < labelLength) :
    Outcome (fun _ => True) Never (r.directLabelAt position labelLength) := by
  unfold directLabelAt
  rw [require_of h, ok_bind]
  split_ifs
  · trivial
  · rw [bytesAt_of_le (by omega)]
    trivial

theorem outcome_labelAt {position : ℕ} (h : position < r.buffer.length) :
    Outcome (fun _ => True) Never (r.labelAt position) := by
  have hbyte : BigEndian.decode ((r.buffer.drop position).take 1) < 256 := by
    refine (BigEndian.decode_lt _).trans_le ?_
    rw [List.length_take_of_le (by simp; omega)]
    norm_num
  unfold labelAt
  rw [bytesAt_of_le (by omega)]
  simp only [Functor.map, Except.map, ok_bind]
  split_ifs with hterm hptr hdirect
  · trivial
  · exact r.outcome_pointerLabelAt position
  · -- a direct label of length zero would be the termination label
    refine r.outcome_directLabelAt position ?_
    rw [(getDirectLabelLength_eq hbyte hdirect).1]
    simp only [isTerminationLabel, decide_eq_true_eq] at hterm
    exact Nat.pos_of_ne_zero hterm
  · trivial

/-- The walk over the labels of a name takes no byte from outside of the buffer, wherever its
pointers lead. -/
theorem outcome_readLabels (current position bytesConsumed bytesProcessed domainNameLength : ℕ)
    (labels : List Label) :
    Outcome (fun _ => True) Never
      (r.readLabels current position bytesConsumed bytesProcessed domainNameLength labels) := by
  -- along the recursion: every round adds to the bytes that were processed
  fun_induction readLabels r current position bytesConsumed bytesProcessed domainNameLength
    labels with
  | case1 position bytesConsumed bytesProcessed domainNameLength labels h ih₁ ih₂ =>
    refine (r.outcome_labelAt h.1).bind fun label _ => ?_
    cases label with
    | termination => trivial
    | pointer offset => exact ih₁ offset
    | direct label =>
      dsimp only
      split_ifs
      · trivial
      · exact ih₂ label
    | malformed => trivial
  | case2 => trivial

theorem safe_readName : r.Safe r.readName :=
  keeps_get.bind fun _ => (keeps_ofChecked (r.outcome_readLabels ..)).bind fun _ =>
    keeps_ofOption.bind fun _ => keeps_skip.bind fun _ => keeps_pure

/-! ### Rdata -/

theorem safe_readEntry : r.Safe r.readEntry :=
  keeps_cursor (keeps_read.bind fun _ => keeps_take)

theorem safe_readRaw : r.Safe r.readRaw :=
  keeps_cursor <| keeps_read.bind fun _ => keeps_test.bind fun _ =>
    keeps_readBytes.bind fun _ => keeps_ofOption

theorem safe_readSrv : r.Safe r.readSrv :=
  keeps_cursor <| keeps_get.bind fun _ => keeps_read.bind fun _ => keeps_read.bind fun _ =>
    keeps_read.bind fun _ => keeps_read.bind fun _ => r.safe_readName.bind fun _ =>
    keeps_get.bind fun _ => keeps_test.bind fun _ => keeps_pure

theorem safe_readPtr : r.Safe r.readPtr :=
  keeps_cursor <| keeps_get.bind fun _ => keeps_read.bind fun _ => r.safe_readName.bind fun _ =>
    keeps_get.bind fun _ => keeps_test.bind fun _ => keeps_pure

theorem safe_readA : r.Safe r.readA :=
  keeps_cursor <| keeps_read.bind fun _ => keeps_test.bind fun _ =>
    keeps_take.bind_of_eq fun _ bytes offset hbytes hoffset => by
      have h : bytes.length = 4 := length_of_take_eq_some hbytes
      exact (keeps_ofChecked (by simp [ipv4Address, h])).bind (fun _ => keeps_pure) offset hoffset

theorem safe_readAAAA : r.Safe r.readAAAA :=
  keeps_cursor <| keeps_read.bind fun _ => keeps_test.bind fun _ =>
    keeps_take.bind_of_eq fun _ bytes offset hbytes hoffset => by
      have h : bytes.length = 16 := length_of_take_eq_some hbytes
      exact (keeps_ofChecked (by simp [ipv6Address, h])).bind (fun _ => keeps_pure) offset hoffset

variable {offset offset' : ℕ}

/-- An entry of a TXT record is within its limit, and reading it moves on. -/
theorem readEntry_eq_some {entry : List UInt8}
    (h : r.readEntry offset = .ok (some entry, offset')) :
    entry.length ≤ kTXTMaxEntrySize ∧ offset < offset' := by
  rw [readEntry, cursor_eq_some] at h
  obtain ⟨n, s, hn, h⟩ := bind_eq_some.mp h
  obtain ⟨rfl, hlt⟩ := read_eq_some hn
  obtain ⟨-, -, rfl⟩ := take_eq_some h
  have hlength := length_of_take_eq_some h
  refine ⟨?_, by omega⟩
  unfold kTXTMaxEntrySize
  omega

theorem safe_readText (texts : List (List UInt8)) : r.Safe (r.readText texts) :=
  r.safe_readEntry.bind_of_eq fun _ _ offset hentry hoffset =>
    (keeps_assert fun h => h (r.readEntry_eq_some hentry).1).bind (fun _ => keeps_pure)
      offset hoffset

theorem lt_of_readText {texts texts' : List (List UInt8)}
    (h : r.readText texts offset = .ok (some texts', offset')) : offset < offset' := by
  obtain ⟨entry, s, hentry, h⟩ := bind_eq_some.mp h
  obtain ⟨hsize, hlt⟩ := r.readEntry_eq_some hentry
  rw [bind_of_some (assert_of hsize)] at h
  cases h
  exact hlt

/-- The measure of a loop that reads on. -/
theorem sub_lt_of_safe {α : Type} {x : Reader α} (hx : r.Safe x) {a : α}
    (hoffset : InBuffer r.buffer offset) (h : x offset = .ok (some a, offset'))
    (hlt : offset < offset') : r.buffer.length - offset' < r.buffer.length - offset := by
  have := (hx offset hoffset).of_ok h
  unfold InBuffer at *
  dsimp only at this
  omega

theorem safe_readTxt : r.Safe r.readTxt :=
  keeps_cursor <| keeps_get.bind fun _ => keeps_read.bind fun _ => keeps_test.bind fun _ =>
    (keeps_loop r.safe_readText (fun texts _ _ _ hoffset _ h =>
      r.sub_lt_of_safe (r.safe_readText texts) hoffset h (r.lt_of_readText h)) []).bind fun _ =>
    keeps_get.bind fun _ => keeps_test.bind fun _ => keeps_ofOption

theorem safe_readBitMapField : r.Safe r.readBitMapField :=
  keeps_cursor <| keeps_read.bind fun _ => keeps_read.bind fun _ => keeps_test.bind fun _ =>
    keeps_take.bind fun _ => keeps_pure

theorem safe_readBitmapTypes (remainingSize : ℕ) (done : ℕ × List DnsType) :
    r.Safe (r.readBitmapTypes remainingSize done) :=
  r.safe_readBitMapField.bind fun _ => keeps_test.bind fun _ => keeps_pure

theorem lt_of_readBitmapTypes {remainingSize : ℕ} {done done' : ℕ × List DnsType}
    (h : r.readBitmapTypes remainingSize done offset = .ok (some done', offset')) :
    offset < offset' := by
  obtain ⟨field, s, hfield, h⟩ := bind_eq_some.mp h
  obtain ⟨_, _, htest, h⟩ := bind_eq_some.mp h
  obtain ⟨-, rfl⟩ := test_eq_some.mp htest
  cases h
  rw [readBitMapField, cursor_eq_some] at hfield
  obtain ⟨_, s₁, h₁, hfield⟩ := bind_eq_some.mp hfield
  obtain ⟨_, s₂, h₂, hfield⟩ := bind_eq_some.mp hfield
  obtain ⟨_, _, htest, hfield⟩ := bind_eq_some.mp hfield
  obtain ⟨-, rfl⟩ := test_eq_some.mp htest
  obtain ⟨_, s₃, h₃, hfield⟩ := bind_eq_some.mp hfield
  cases hfield
  obtain ⟨rfl, -⟩ := read_eq_some h₁
  obtain ⟨rfl, -⟩ := read_eq_some h₂
  obtain ⟨-, -, rfl⟩ := take_eq_some h₃
  omega

theorem safe_readTypes (remainingSize : ℕ) : r.Safe (r.readTypes remainingSize) :=
  keeps_cursor <| (keeps_loop (r.safe_readBitmapTypes remainingSize) (fun done _ _ _ hoffset _ h =>
    r.sub_lt_of_safe (r.safe_readBitmapTypes remainingSize done) hoffset h
      (r.lt_of_readBitmapTypes h)) (0, [])).bind fun _ => keeps_pure

theorem safe_readNsec : r.Safe r.readNsec :=
  keeps_cursor <| keeps_get.bind fun _ => keeps_read.bind fun _ => r.safe_readName.bind fun _ =>
    keeps_test.bind fun _ => keeps_get.bind fun _ => keeps_test.bind fun _ =>
    (r.safe_readTypes _).bind fun _ => keeps_pure

/-- The data of every record but one of type `kANY` is read or rejected. -/
theorem safe_readRdata {type : DnsType} (h : type ≠ .kANY) : r.Safe (r.readRdata type) := by
  unfold readRdata
  split_ifs with hsrv ha haaaa hptr htxt hnsec
  · exact r.safe_readSrv
  · exact r.safe_readA
  · exact r.safe_readAAAA
  · exact r.safe_readPtr
  · exact r.safe_readTxt
  · exact r.safe_readNsec
  · refine (keeps_assert fun hsupported => hsupported ?_).bind fun _ => r.safe_readRaw
    simp [kSupportedDnsTypes, hsrv, ha, haaaa, hptr, htxt, hnsec, h]

/-- The data of a record of type `kANY` stops the reader. -/
theorem readRdata_any (offset : ℕ) : r.readRdata .kANY offset = .error .checkFailed := rfl

/-! ### Records -/

theorem safe_readRecordHead : r.Safe r.readRecordHead :=
  r.safe_readName.bind fun _ => keeps_read.bind fun _ => keeps_read.bind fun _ =>
    keeps_read.bind fun _ => keeps_pure

theorem safe_readQuestions (count : ℕ) : r.Safe (r.readQuestions count) :=
  keeps_cursor <| Keeps.many (keeps_cursor <| r.safe_readName.bind fun _ =>
    keeps_read.bind fun _ => keeps_read.bind fun _ => keeps_ofOption) count

theorem safe_readHeader : r.Safe r.readHeader :=
  keeps_cursor <| keeps_read.bind fun _ => keeps_read.bind fun _ => keeps_read.bind fun _ =>
    keeps_read.bind fun _ => keeps_read.bind fun _ => keeps_read.bind fun _ => keeps_pure

/-! ### The records that a message comes to -/

/-- The types that come after a read, if it has a value. -/
def typesAfter {α : Type} (x : Reader α) (offset : ℕ) (next : α → ℕ → List DnsType) :
    List DnsType :=
  match x offset with
  | .ok (some a, offset) => next a offset
  | _ => []

/-- The types of the records whose data a loop over `count` records comes to read. -/
def recordTypes : ℕ → ℕ → List DnsType
  | 0, _ => []
  | count + 1, offset =>
    typesAfter r.readRecordHead offset (fun head _ => [head.dnsType]) ++
      typesAfter r.readRecord offset fun _ offset => recordTypes count offset

/-- The types of the records of several sections, of which each is read after the one before. -/
def sectionTypes : List ℕ → ℕ → List DnsType
  | [], _ => []
  | count :: counts, offset =>
    r.recordTypes count offset ++
      typesAfter (r.readRecords count) offset fun _ offset => sectionTypes counts offset

/-- The types of the records whose data `Read()` comes to read. -/
def messageTypes (offset : ℕ) : List DnsType :=
  typesAfter r.readHeader offset fun header offset =>
    typesAfter (r.readQuestions header.questionCount) offset fun _ offset =>
      r.sectionTypes
        [header.answerCount, header.authorityRecordCount, header.additionalRecordCount] offset

/-- A read stops if `kANY` is among the types, and only then. -/
def StopsAtAny {α : Type} (x : Reader α) (offset : ℕ) (types : List DnsType) : Prop :=
  if .kANY ∈ types then x offset = .error .checkFailed
  else Outcome (fun p => InBuffer r.buffer p.2) Never (x offset)

variable {r} {α β : Type} {x : Reader α} {offset : ℕ}

theorem stopsAtAny_nil (hx : r.Safe x) (h : InBuffer r.buffer offset) :
    r.StopsAtAny x offset [] := by
  simpa [StopsAtAny] using hx offset h

variable {types : List DnsType}

theorem StopsAtAny.cursor (h : r.StopsAtAny x offset types)
    (hoffset : InBuffer r.buffer offset) : r.StopsAtAny (cursor x) offset types := by
  unfold StopsAtAny BigEndianReader.cursor undo at *
  split_ifs at h ⊢
  · rw [h]
  · rcases hx : x offset with e | ⟨_ | a, o⟩ <;> rw [hx] at h
    · exact h
    · exact hoffset
    · exact h

variable {f : α → Reader β}

/-- The rule for two reads in a row. -/
theorem StopsAtAny.bind {next : α → ℕ → List DnsType} (hx : r.StopsAtAny x offset types)
    (hf : ∀ a o, InBuffer r.buffer o → r.StopsAtAny (f a) o (next a o)) :
    r.StopsAtAny (x >>= f) offset (types ++ typesAfter x offset next) := by
  unfold StopsAtAny at *
  by_cases hany : .kANY ∈ types
  · rw [if_pos (List.mem_append_left _ hany)]
    rw [if_pos hany] at hx
    exact bind_of_error hx
  · rw [if_neg hany] at hx
    simp only [List.mem_append, hany, false_or, typesAfter]
    rcases hxo : x offset with e | ⟨_ | a, o⟩ <;> rw [hxo] at hx
    · exact hx.elim
    · rw [if_neg List.not_mem_nil, bind_of_none hxo]
      exact hx
    · rw [bind_of_some hxo]
      exact hf a o hx

/-- The rule for two reads of which the second is safe. -/
theorem StopsAtAny.bind_safe (hx : r.StopsAtAny x offset types) (hf : ∀ a, r.Safe (f a)) :
    r.StopsAtAny (x >>= f) offset types := by
  have h : r.StopsAtAny (x >>= f) offset (types ++ typesAfter x offset fun _ _ => []) :=
    hx.bind fun a o ho => stopsAtAny_nil (hf a) ho
  have hnil : typesAfter x offset (fun _ _ => []) = [] := by
    unfold typesAfter
    split <;> rfl
  rwa [hnil, List.append_nil] at h

/-- The rule for two reads of which the first is safe. -/
theorem stopsAtAny_safe_bind {next : α → ℕ → List DnsType} (hx : r.Safe x)
    (h : InBuffer r.buffer offset)
    (hf : ∀ a o, InBuffer r.buffer o → r.StopsAtAny (f a) o (next a o)) :
    r.StopsAtAny (x >>= f) offset (typesAfter x offset next) :=
  (stopsAtAny_nil hx h).bind hf

theorem stopsAtAny_readRdata (type : DnsType) (h : InBuffer r.buffer offset) :
    r.StopsAtAny (r.readRdata type) offset [type] := by
  unfold StopsAtAny
  split_ifs with hany
  · rw [List.mem_singleton] at hany
    rw [← hany]
    exact r.readRdata_any offset
  · exact r.safe_readRdata (fun htype => hany (by simp [htype])) offset h

/-- A record stops the reader exactly if it is of type `kANY`. -/
theorem stopsAtAny_readRecord (h : InBuffer r.buffer offset) :
    r.StopsAtAny r.readRecord offset
      (typesAfter r.readRecordHead offset fun head _ => [head.dnsType]) :=
  .cursor (stopsAtAny_safe_bind r.safe_readRecordHead h fun head _ ho =>
    (stopsAtAny_readRdata head.dnsType ho).bind_safe fun _ => keeps_ofOption) h

theorem stopsAtAny_readRecords (count : ℕ) (h : InBuffer r.buffer offset) :
    r.StopsAtAny (r.readRecords count) offset (r.recordTypes count offset) := by
  refine StopsAtAny.cursor ?_ h
  induction count generalizing offset with
  | zero => exact stopsAtAny_nil keeps_value h
  | succ count ih =>
    exact (stopsAtAny_readRecord h).bind fun _ o ho => (ih ho).bind_safe fun _ => keeps_pure

theorem stopsAtAny_readParts (h : InBuffer r.buffer offset) :
    r.StopsAtAny r.readParts offset (r.messageTypes offset) := by
  refine stopsAtAny_safe_bind r.safe_readHeader h fun header _ h => ?_
  refine stopsAtAny_safe_bind (r.safe_readQuestions _) h fun _ _ h => ?_
  -- the three sections, and nothing after the last
  refine (stopsAtAny_readRecords _ h).bind fun _ _ h => ?_
  refine (stopsAtAny_readRecords _ h).bind fun _ _ h => ?_
  exact (stopsAtAny_readRecords _ h).bind fun _ _ h => stopsAtAny_nil keeps_pure h

/-! ### The result of `Read()` -/

/-- `Read()` has failed and stands where it stood, or it has a well-formed message. -/
def IsSound (origin : ℕ) : Except ReadError MdnsMessage × ℕ → Prop
  | (.error _, offset) => offset = origin
  | (.ok message, offset) => message.IsWellFormed ∧ InBuffer r.buffer offset

/-- **Hostile input.** On any buffer, `Read()` returns with no byte taken from outside of the
buffer and no assertion failed, with an error and the offset unchanged or with a well-formed
message, exactly if it does not come to the data of a record of type 255. -/
theorem readMessage_isSound_iff (r : MdnsReader) :
    Outcome (r.IsSound 0) Never (r.readMessage 0) ↔ .kANY ∉ r.messageTypes 0 := by
  have h := stopsAtAny_readParts (r := r) (Nat.zero_le _)
  unfold StopsAtAny at h
  unfold readMessage
  split_ifs at h with hany
  · rw [h]
    exact ⟨fun hfalse => hfalse.elim, fun hnot => (hnot hany).elim⟩
  · refine ⟨fun _ => hany, fun _ => h.bind fun p hp => ?_⟩
    rcases p with ⟨_ | (error | message), offset⟩
    · rfl
    · rfl
    · exact ⟨message.isWellFormed, hp⟩

/-- A response with one record: the root name, type 255, class IN and no lifetime. -/
def anyRecord : MdnsReader where
  buffer :=
    [0, 0, 0x84, 0, 0, 0, 0, 1, 0, 0, 0, 0,
      0, 0, 255, 0, 1, 0, 0, 0, 0]
  kMaximumAllowedRdataSize := 1300

theorem readMessage_anyRecord : anyRecord.readMessage 0 = .error .checkFailed := by
  decide +kernel

theorem not_isSound_anyRecord : ¬Outcome (anyRecord.IsSound 0) Never (anyRecord.readMessage 0) := by
  rw [readMessage_anyRecord]
  exact not_false

end StreamerPlus.Discovery.MdnsReader
