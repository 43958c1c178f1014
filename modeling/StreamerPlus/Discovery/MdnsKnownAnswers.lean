import StreamerPlus.Discovery.MdnsSizes
import StreamerPlus.Discovery.MdnsTrackers
import StreamerPlus.Lib.Loop

/-!
# Known answers

A query lists the records that its sender already has, so that nobody answers with them.
`MdnsQuestionTracker::SendQuery` (`mdns_trackers.cc`) goes over the trackers associated with the
question and adds their records to the message; when a record does not fit, it sends the message,
marked as truncated, and comes to the same record again with an empty message.

## Main results

* `sendQuery_of_effective`: the loop ends, and the messages it sends have the question and the known
  answers in order, each in one message (`KnownAnswerSplit`).
-/

namespace StreamerPlus.Discovery

open Checked

/-- `kMinimumQueryInterval`. -/
def kMinimumQueryInterval : ℤ := 1 * microsPerSecond

/-- `MdnsRecordTracker::IsNearingExpiry()`, which divides the seconds of the TTL. -/
def MdnsRecordTracker.isNearingExpiry (t : MdnsRecordTracker) (now : ℤ) : Bool :=
  now - t.startTime > (t.record.ttl.tdiv 2) * microsPerSecond

/-- `MdnsQuestionTracker`, as far as `SendQuery` reads it. `lastSendTime` is `none` for
`time_point::min()`. -/
structure MdnsQuestionTracker where
  question : MdnsQuestion
  adjacentNodes : List MdnsRecordTracker
  lastSendTime : Option ℤ := none

/-- The local variables of `SendQuery`, the messages it has sent, and the counter of
`CreateMessageId`. -/
structure SendQueryState where
  it : List MdnsRecordTracker
  message : MdnsMessage
  sent : List MdnsMessage := []
  nextId : UInt16

/-- A query without any entries. -/
def emptyQuery (id : UInt16) : MdnsMessage := { id, type := .query }

/-- `message.set_truncated()`. -/
def MdnsMessage.truncated (m : MdnsMessage) : MdnsMessage := { m with isTruncated := true }

/-- An iteration of the loop of `SendQuery`. It leaves with the messages that were sent and the
counter. -/
def sendQueryBody (now : ℤ) (s : SendQueryState) :
    SendQueryState ⊕ Except MessageFault (List MdnsMessage × UInt16) :=
  match s.it with
  | [] => .inr (.ok (s.sent ++ [s.message], s.nextId))
  | recordTracker :: rest =>
    if recordTracker.isNearingExpiry now then .inl { s with it := rest }
    else if s.message.canAddRecord recordTracker.record then
      match s.message.addAnswer recordTracker.record with
      | .ok message => .inl { s with it := rest, message }
      | .error e => .inr (.error e)
    else if s.message.questions.isEmpty && s.message.answers.isEmpty then
      .inl { s with it := rest }
    else
      .inl { s with
        message := emptyQuery s.nextId
        sent := s.sent ++ [s.message.truncated]
        nextId := s.nextId + 1 }

namespace MdnsQuestionTracker

variable (t : MdnsQuestionTracker) (now : ℤ) (id : UInt16)

/-- The last query was sent long enough ago. -/
def Effective : Prop := ∀ last ∈ t.lastSendTime, ¬now < last + kMinimumQueryInterval

instance : Decidable (t.Effective now) := by
  unfold Effective
  infer_instance

/-- `SendQuery()` within `n` iterations of its loop: the tracker, the messages sent and the counter
of message ids. -/
def sendQuery (n : ℕ) :
    Option (Except MessageFault (MdnsQuestionTracker × List MdnsMessage × UInt16)) :=
  if ¬t.Effective now then some (.ok (t, [], id))
  else
    match (emptyQuery id).addQuestion t.question with
    | .error e => some (.error e)
    | .ok message =>
      (Loop.run (sendQueryBody now) n { it := t.adjacentNodes, message, nextId := id + 1 }).map
        fun r => r.map fun sent => ({ t with lastSendTime := some now }, sent)

end MdnsQuestionTracker

/-! ### What the messages hold -/

/-- The record fits into a message of its own. -/
def MdnsRecord.fitsAlone (r : MdnsRecord) : Bool :=
  kHeaderSize + r.maxWireSize < kMaxMulticastMessageSize

/-- The records of the trackers that do not near their expiry, without those that are too large for
any message. -/
def knownAnswers (now : ℤ) (trackers : List MdnsRecordTracker) : List MdnsRecord :=
  ((trackers.filter fun t => !t.isNearingExpiry now).map (·.record)).filter (·.fitsAlone)

/-- The messages that were sent and the last one ask the question once and list the known answers,
each in its place. -/
structure KnownAnswerSplit (question : MdnsQuestion) (known : List MdnsRecord)
    (sent : List MdnsMessage) (last : MdnsMessage) : Prop where
  question : ∃ first rest, sent ++ [last] = first :: rest ∧ first.questions = [question] ∧
    ∀ m ∈ rest, m.questions = []
  answers : (sent ++ [last]).flatMap (·.answers) = known
  size : ∀ m ∈ sent ++ [last], m.maxWireSize < kMaxMulticastMessageSize
  truncated : ∀ m ∈ sent, m.isTruncated
  notTruncated : ¬last.isTruncated
  others : ∀ m ∈ sent ++ [last],
    m.type = .query ∧ m.authorityRecords = [] ∧ m.additionalRecords = []

variable {now : ℤ} {question : MdnsQuestion} {known : List MdnsRecord} {sent : List MdnsMessage}
  {message : MdnsMessage}

/-- A property of all messages, when only the last one changes. -/
theorem forall_mem_concat_of {P : MdnsMessage → Prop} {last : MdnsMessage} (last' : MdnsMessage)
    (h : ∀ m ∈ sent ++ [last], P m) (hlast : P last → P last') : ∀ m ∈ sent ++ [last'], P m :=
  List.forall_mem_append.mpr ⟨fun m hm => h m (List.mem_append_left _ hm),
    List.forall_mem_singleton.mpr (hlast (h last (by simp)))⟩

/-- The message the loop starts with. A name of at most 256 bytes leaves room. -/
theorem KnownAnswerSplit.start (id : UInt16) (question : MdnsQuestion) :
    KnownAnswerSplit question [] [] { emptyQuery id with questions := [question] } where
  question := ⟨_, [], rfl, rfl, by simp⟩
  answers := rfl
  size := by
    intro m hm
    obtain rfl := List.mem_singleton.mp hm
    have hname : question.name.maxWireSize ≤ 256 := question.name.size
    simp only [MdnsMessage.maxWireSize, MdnsMessage.records, emptyQuery, List.map_cons,
      List.map_nil, List.sum_cons, List.sum_nil, List.append_nil, MdnsQuestion.maxWireSize,
      kHeaderSize, kMaxMulticastMessageSize]
    omega
  truncated := by simp
  notTruncated := by simp [emptyQuery]
  others := by
    intro m hm
    obtain rfl := List.mem_singleton.mp hm
    exact ⟨rfl, rfl, rfl⟩

/-- Another answer in the last message. -/
theorem KnownAnswerSplit.add (h : KnownAnswerSplit question known sent message) {r : MdnsRecord}
    (hr : message.canAddRecord r) :
    KnownAnswerSplit question (known ++ [r]) sent
      { message with answers := message.answers ++ [r] } where
  question := by
    obtain ⟨first, rest, hmessages, hfirst, hrest⟩ := h.question
    cases sent with
    | nil =>
      cases hmessages
      exact ⟨_, [], rfl, hfirst, by simp⟩
    | cons m sent =>
      cases hmessages
      exact ⟨_, _, rfl, hfirst, forall_mem_concat_of _ hrest id⟩
  answers := by
    rw [← h.answers]
    simp
  size := forall_mem_concat_of _ h.size fun _ => by
    rw [MdnsMessage.maxWireSize_addAnswer]
    exact of_decide_eq_true hr
  truncated := h.truncated
  notTruncated := h.notTruncated
  others := forall_mem_concat_of _ h.others id

/-- The last message is sent as one of several, and an empty one is begun. -/
theorem KnownAnswerSplit.flush (h : KnownAnswerSplit question known sent message)
    (nextId : UInt16) :
    KnownAnswerSplit question known (sent ++ [message.truncated]) (emptyQuery nextId) where
  question := by
    obtain ⟨first, rest, hmessages, hfirst, hrest⟩ := h.question
    cases sent with
    | nil =>
      cases hmessages
      exact ⟨_, [emptyQuery nextId], rfl, hfirst, by simp [emptyQuery]⟩
    | cons m sent =>
      cases hmessages
      exact ⟨_, _, rfl, hfirst, List.forall_mem_append.mpr
        ⟨forall_mem_concat_of message.truncated hrest id, List.forall_mem_singleton.mpr rfl⟩⟩
  answers := by
    rw [← h.answers]
    simp [MdnsMessage.truncated, emptyQuery]
  size := List.forall_mem_append.mpr ⟨forall_mem_concat_of message.truncated h.size id,
    List.forall_mem_singleton.mpr (by decide : kHeaderSize < kMaxMulticastMessageSize)⟩
  truncated := List.forall_mem_append.mpr ⟨h.truncated, List.forall_mem_singleton.mpr rfl⟩
  notTruncated := by simp [emptyQuery]
  others := List.forall_mem_append.mpr ⟨forall_mem_concat_of message.truncated h.others id,
    List.forall_mem_singleton.mpr ⟨rfl, rfl, rfl⟩⟩

section Loop

variable {trackers : List MdnsRecordTracker} {s s' : SendQueryState}

/-- The messages hold the known answers of the trackers that the loop has passed. -/
def Splitting (now : ℤ) (question : MdnsQuestion) (trackers : List MdnsRecordTracker)
    (s : SendQueryState) : Prop :=
  ∃ passed, trackers = passed ++ s.it ∧
    KnownAnswerSplit question (knownAnswers now passed) s.sent s.message

/-- The trackers left count twice, a message with something in it once. -/
def sendQueryMeasure (s : SendQueryState) : ℕ :=
  2 * s.it.length +
    if s.message.questions.isEmpty && s.message.answers.isEmpty then 0 else 1

theorem knownAnswers_concat (now : ℤ) (passed : List MdnsRecordTracker) (t : MdnsRecordTracker) :
    knownAnswers now (passed ++ [t]) = knownAnswers now passed ++
      if t.isNearingExpiry now = false ∧ t.record.fitsAlone then [t.record] else [] := by
  unfold knownAnswers
  rw [List.filter_append, List.map_append, List.filter_append]
  congr 1
  cases hexpiry : t.isNearingExpiry now <;> cases hfits : t.record.fitsAlone <;>
    simp [hexpiry, hfits]

theorem MdnsMessage.fitsAlone_of_canAddRecord {r : MdnsRecord} (h : message.canAddRecord r) :
    r.fitsAlone := by
  have hsize : message.maxWireSize + r.maxWireSize < kMaxMulticastMessageSize :=
    of_decide_eq_true h
  have hheader : kHeaderSize ≤ message.maxWireSize := by
    unfold MdnsMessage.maxWireSize
    omega
  exact decide_eq_true (by omega)

/-- A message without questions and answers has nothing in it, so what it cannot take is too
large. -/
theorem KnownAnswerSplit.not_fitsAlone (h : KnownAnswerSplit question known sent message)
    {r : MdnsRecord} (hr : ¬message.canAddRecord r) (hquestions : message.questions = [])
    (hanswers : message.answers = []) : ¬r.fitsAlone := by
  obtain ⟨-, hauthority, hadditional⟩ := h.others message (by simp)
  intro hfits
  refine hr (decide_eq_true ?_)
  rw [MdnsMessage.maxWireSize, MdnsMessage.records, hquestions, hanswers, hauthority, hadditional]
  exact of_decide_eq_true hfits

/-- **An iteration of the loop keeps to the split and brings the measure down.** -/
theorem Splitting.next (h : Splitting now question trackers s)
    (hbody : sendQueryBody now s = .inl s') :
    Splitting now question trackers s' ∧ sendQueryMeasure s' < sendQueryMeasure s := by
  obtain ⟨passed, htrackers, hsplit⟩ := h
  obtain ⟨it, message, sent, nextId⟩ := s
  dsimp only at htrackers hsplit
  unfold sendQueryBody at hbody
  dsimp only at hbody
  cases it with
  | nil => cases hbody
  | cons t rest =>
    have hpassed : trackers = (passed ++ [t]) ++ rest := by
      rw [htrackers, List.append_assoc, List.singleton_append]
    have hconcat := knownAnswers_concat now passed t
    dsimp only at hbody
    split_ifs at hbody with hexpiry hadd hempty
    · -- the record nears its expiry
      cases hbody
      refine ⟨⟨passed ++ [t], hpassed, ?_⟩, ?_⟩
      · rw [hconcat, if_neg (by simp [hexpiry]), List.append_nil]
        exact hsplit
      · simp only [sendQueryMeasure, List.length_cons]
        omega
    · -- the record fits
      rw [MdnsMessage.addAnswer_of_canAddRecord hadd] at hbody
      cases hbody
      refine ⟨⟨passed ++ [t], hpassed, ?_⟩, ?_⟩
      · rw [hconcat, if_pos ⟨by simpa using hexpiry,
          MdnsMessage.fitsAlone_of_canAddRecord hadd⟩]
        exact hsplit.add hadd
      · simp only [sendQueryMeasure, List.length_cons]
        split_ifs <;> omega
    · -- the record does not fit into an empty message
      cases hbody
      simp only [Bool.and_eq_true, List.isEmpty_iff] at hempty
      refine ⟨⟨passed ++ [t], hpassed, ?_⟩, ?_⟩
      · rw [hconcat, if_neg fun h => hsplit.not_fitsAlone hadd hempty.1 hempty.2 h.2,
          List.append_nil]
        exact hsplit
      · simp only [sendQueryMeasure, List.length_cons]
        omega
    · -- the message is sent, and the record is come to again
      cases hbody
      refine ⟨⟨passed, htrackers, hsplit.flush _⟩, ?_⟩
      simp only [sendQueryMeasure, hempty]
      simp [emptyQuery]

/-- The loop leaves when all trackers are passed, and with all of the messages. -/
theorem Splitting.leave (h : Splitting now question trackers s)
    {r : Except MessageFault (List MdnsMessage × UInt16)} (hbody : sendQueryBody now s = .inr r) :
    ∃ sent last nextId, r = .ok (sent ++ [last], nextId) ∧
      KnownAnswerSplit question (knownAnswers now trackers) sent last := by
  obtain ⟨passed, htrackers, hsplit⟩ := h
  obtain ⟨it, message, sent, nextId⟩ := s
  dsimp only at htrackers hsplit
  unfold sendQueryBody at hbody
  dsimp only at hbody
  cases it with
  | nil =>
    cases hbody
    rw [List.append_nil] at htrackers
    exact ⟨sent, message, nextId, rfl, htrackers ▸ hsplit⟩
  | cons t rest =>
    dsimp only at hbody
    split_ifs at hbody with hexpiry hadd
    rw [MdnsMessage.addAnswer_of_canAddRecord hadd] at hbody
    cases hbody

end Loop

/-- **A query that is not too soon after the last one sends its question once, in the first message,
and every known answer once and in order; all messages are small enough, and all but the last are
marked as truncated.** -/
theorem MdnsQuestionTracker.sendQuery_of_effective (t : MdnsQuestionTracker) (now : ℤ) (id : UInt16)
    (heffective : t.Effective now) :
    ∃ n sent last nextId, t.sendQuery now id n =
        some (.ok ({ t with lastSendTime := some now }, sent ++ [last], nextId)) ∧
      KnownAnswerSplit t.question (knownAnswers now t.adjacentNodes) sent last := by
  have hquestion : (emptyQuery id).addQuestion t.question =
      .ok { emptyQuery id with questions := [t.question] } := rfl
  have hstart : Splitting now t.question t.adjacentNodes
      { it := t.adjacentNodes, message := { emptyQuery id with questions := [t.question] },
        nextId := id + 1 } := ⟨[], rfl, .start id t.question⟩
  obtain ⟨r, hreturns⟩ := Loop.Returns.of_measure sendQueryMeasure hstart
    fun _ _ h hbody => h.next hbody
  obtain ⟨sent, last, nextId, rfl, hsplit⟩ := hreturns.invariant hstart
    (fun _ _ h hbody => (h.next hbody).1) fun _ _ h hbody => h.leave hbody
  obtain ⟨n, hn⟩ := hreturns
  refine ⟨n, sent, last, nextId, ?_, hsplit⟩
  rw [MdnsQuestionTracker.sendQuery, if_neg (not_not_intro heffective), hquestion]
  dsimp only
  rw [hn]
  rfl

/-- A record of the name `a` with `n` texts of 200 bytes. -/
def textRecord (n : ℕ) : MdnsRecord where
  name := ⟨[[97]], by decide, by decide⟩
  dnsType := .kTXT
  dnsClass := .kIN
  recordType := .shared
  ttl := 10
  rdata := .txt (List.replicate n (List.replicate 200 0))
  valid := ⟨by decide, rfl⟩

/-- The question for `a`, asked before and now for the second time. After eight seconds the first of
its records is nearing its expiry. The third is too large for any message, and the second and the
fourth do not fit into the same message. -/
def askedTwice : MdnsQuestionTracker where
  question := ⟨⟨[[97]], by decide, by decide⟩, .kANY, .kIN, .multicast, by decide⟩
  adjacentNodes := [⟨0, textRecord 1, .kTXT, 0, 1, .inl rfl⟩,
    ⟨1, textRecord 4, .kTXT, 5000000, 1, .inl rfl⟩, ⟨2, textRecord 8, .kTXT, 5000000, 1, .inl rfl⟩,
    ⟨3, textRecord 4, .kTXT, 6000000, 1, .inl rfl⟩, ⟨4, textRecord 2, .kTXT, 7000000, 1, .inl rfl⟩]
  lastSendTime := some 0

theorem sendQuery_askedTwice :
    ∃ n sent last nextId, askedTwice.sendQuery 8000000 0 n =
        some (.ok ({ askedTwice with lastSendTime := some 8000000 }, sent ++ [last], nextId)) ∧
      KnownAnswerSplit askedTwice.question [textRecord 4, textRecord 4, textRecord 2] sent last ∧
      sent ≠ [] := by
  obtain ⟨n, sent, last, nextId, hsent, hsplit⟩ :=
    askedTwice.sendQuery_of_effective 8000000 0 (by decide)
  have hknown : knownAnswers 8000000 askedTwice.adjacentNodes =
      [textRecord 4, textRecord 4, textRecord 2] := by decide +kernel
  rw [hknown] at hsplit
  refine ⟨n, sent, last, nextId, hsent, hsplit, ?_⟩
  rintro rfl
  -- one message would be too large for the three records
  have hanswers : last.answers = [textRecord 4, textRecord 4, textRecord 2] := by
    simpa using hsplit.answers
  have hsize : last.maxWireSize < kMaxMulticastMessageSize := hsplit.size last (by simp)
  have hrecords : kMaxMulticastMessageSize ≤ (last.answers.map MdnsRecord.maxWireSize).sum := by
    rw [hanswers]
    decide +kernel
  simp only [MdnsMessage.maxWireSize, MdnsMessage.records, List.map_append, List.sum_append]
    at hsize
  omega

end StreamerPlus.Discovery
