import Mathlib
import StreamerPlus.Discovery.MdnsRecords
import StreamerPlus.Lib.Run

/-!
# Truncated queries

A query whose known answers do not fit into one message comes in several. `MdnsResponder` keeps what
it has got so far by source, and answers when no more has come for a while (`mdns_responder.cc`).
Known answers may come before their query, and then the entry has no questions yet. If they never
come, the alarm of the entry runs and returns without removing it.

What is done with a query that is complete, or that is not of this kind, does not touch the table.
Sources are only compared.

## Main results

* `released_iff`: an entry is gone once its delay has elapsed, and known answers are not kept from
  one query to the next, exactly in the runs in which no alarm runs for an entry without questions.
* `not_released_knownAnswers`: sources that send known answers only.
* `admitted_iff`: the table keeps to its limit, and takes in what belongs to its entries, exactly in
  the runs in which no new source is admitted at the limit.
* `not_admitted_twoSources`: the comparison of the limit admits one source too many.
-/

namespace StreamerPlus.Discovery

open TransitionSystem

/-- The limits of `Config` for truncated queries, as the constructors check them. -/
structure TruncatedConfig where
  maximumTruncatedMessagesPerQuery : ℕ
  maximumKnownAnswerRecordsPerQuery : ℕ
  maximumConcurrentTruncatedQueriesPerInterface : ℕ
  messages_pos : 0 < maximumTruncatedMessagesPerQuery
  records_pos : 0 < maximumKnownAnswerRecordsPerQuery
  concurrent_pos : 0 < maximumConcurrentTruncatedQueriesPerInterface

/-- `MdnsResponder::TruncatedQuery`, with the time for which its alarm is set. -/
structure TruncatedQuery where
  questions : List MdnsQuestion
  knownAnswers : List MdnsRecord
  messagesReceivedSoFar : ℕ := 0
  alarm : Option ℤ := none

namespace TruncatedQuery

variable (config : TruncatedConfig) (now delay : ℤ)

variable (q : TruncatedQuery)

/-- `RescheduleSend()`, where `delay` is the random delay. -/
def rescheduleSend : TruncatedQuery :=
  let sendDelay :=
    if q.messagesReceivedSoFar ≥ config.maximumTruncatedMessagesPerQuery then 0
    else if q.knownAnswers.length ≥ config.maximumKnownAnswerRecordsPerQuery then 0
    else delay
  { q with alarm := some (now + sendDelay) }

/-- The constructor. -/
def new (message : MdnsMessage) : TruncatedQuery :=
  rescheduleSend config now delay
    { questions := message.questions, knownAnswers := message.answers }

/-- `SetQuery(message)`, for an entry without questions. -/
def setQuery (message : MdnsMessage) : TruncatedQuery :=
  rescheduleSend config now delay { q with
    questions := q.questions ++ message.questions
    knownAnswers := q.knownAnswers ++ message.answers
    messagesReceivedSoFar := q.messagesReceivedSoFar + 1 }

/-- `AddKnownAnswers(records)`. -/
def addKnownAnswers (records : List MdnsRecord) : TruncatedQuery :=
  rescheduleSend config now delay { q with
    knownAnswers := q.knownAnswers ++ records
    messagesReceivedSoFar := q.messagesReceivedSoFar + 1 }

end TruncatedQuery

/-- `IsMultiPacketTruncatedQueryMessage(message)`. -/
def isMultiPacketTruncatedQueryMessage (message : MdnsMessage) : Bool :=
  message.isTruncated || message.questions.isEmpty

/-- What happens to the entries: one is made from a message or takes one in, its alarm runs, or its
questions are passed to `ProcessQueries`. -/
inductive TruncatedEvent (σ : Type)
  | opened (src : σ) (answers : List MdnsRecord)
  | extended (src : σ) (answers : List MdnsRecord)
  | elapsed (src : σ)
  | responded (src : σ) (questions : List MdnsQuestion) (knownAnswers : List MdnsRecord)

/-- `truncated_queries_`, with its history. -/
structure TruncatedQueries (σ : Type) where
  queries : AList fun _ : σ => TruncatedQuery := ∅
  events : List (TruncatedEvent σ) := []

/-- A message is received, or the alarm of the entry of a source runs. -/
inductive TruncatedOp (σ : Type)
  | receive (now delay : ℤ) (message : MdnsMessage) (src : σ)
  | fire (now : ℤ) (src : σ)

namespace TruncatedQueries

variable {σ : Type} [DecidableEq σ] (config : TruncatedConfig)

variable (s : TruncatedQueries σ)

/-- Store an entry. -/
def put (src : σ) (q : TruncatedQuery)
    (events : List (TruncatedEvent σ)) : TruncatedQueries σ :=
  ⟨s.queries.insert src q, s.events ++ events⟩

/-- `ProcessMultiPacketTruncatedMessage(message, src)`. A message with questions is truncated here,
and `SetQuery` is called for entries without questions only, so that the checks of the two hold. -/
def processMultiPacketTruncatedMessage (now delay : ℤ)
    (message : MdnsMessage) (src : σ) : TruncatedQueries σ :=
  match s.queries.lookup src with
  | none => s.put src (.new config now delay message) [.opened src message.answers]
  | some stored =>
    if message.questions.isEmpty then
      s.put src (stored.addKnownAnswers config now delay message.answers)
        [.extended src message.answers]
    else if stored.questions.isEmpty then
      s.put src (stored.setQuery config now delay message) [.extended src message.answers]
    else
      -- the old query is answered at once; the entry is the new one by then, and it stays
      s.put src (.new config now delay message) [.opened src message.answers,
        .responded src stored.questions stored.knownAnswers]

/-- `OnMessageReceived(message, src)`, as far as the table goes. -/
def onMessageReceived (now delay : ℤ) (message : MdnsMessage) (src : σ) : TruncatedQueries σ :=
  if isMultiPacketTruncatedQueryMessage message then
    if s.queries.entries.length > config.maximumConcurrentTruncatedQueriesPerInterface then s
    else s.processMultiPacketTruncatedMessage config now delay message src
  else s

/-- `TruncatedQuery::SendResponse()` of the entry of `src`, when its alarm runs. -/
def sendResponse (src : σ) (q : TruncatedQuery) : TruncatedQueries σ :=
  if q.questions.isEmpty then s.put src { q with alarm := none } [.elapsed src]
  else ⟨s.queries.erase src,
    s.events ++ [.elapsed src, .responded src q.questions q.knownAnswers]⟩

/-- One step. An alarm runs when it is due, or later. -/
def step : TruncatedOp σ → Option (TruncatedQueries σ)
  | .receive now delay message src => some (s.onMessageReceived config now delay message src)
  | .fire now src => do
    let q ← s.queries.lookup src
    let due ← q.alarm
    if due ≤ now then some (s.sendResponse src q) else none

/-- The steps of a responder, one after the other. -/
def run (ops : List (TruncatedOp σ)) : Option (TruncatedQueries σ) := ops.foldlM (step config) {}

/-- What an event adds to the known answers of a source. -/
def collect (src : σ) (answers : List MdnsRecord) : TruncatedEvent σ → List MdnsRecord
  | .opened src' new => if src' = src then new else answers
  | .extended src' new => if src' = src then answers ++ new else answers
  | .elapsed src' => if src' = src then [] else answers
  | .responded .. => answers

/-- The known answers that a source has sent since its entry was made, or its delay elapsed. -/
def collected (src : σ) (events : List (TruncatedEvent σ)) : List MdnsRecord :=
  events.foldl (collect src) []

/-- Entries are gone once their delay has elapsed: the alarm of each is still to run, so that there
are none when no alarm is. And no entry has known answers of an earlier query. -/
structure Released : Prop where
  pending : ∀ src, ∀ q ∈ s.queries.lookup src, q.alarm.isSome
  empty : (∀ src, ∀ q ∈ s.queries.lookup src, q.alarm = none) → s.queries = ∅
  knownAnswers : ∀ src, ∀ q ∈ s.queries.lookup src, q.knownAnswers = collected src s.events

/-! ### One step -/

variable {config} {s t : TruncatedQueries σ} {src : σ} {q : TruncatedQuery}

theorem queries_eq_empty (h : ∀ src, s.queries.lookup src = none) : s.queries = ∅ := by
  refine AList.ext ?_
  rcases hentries : s.queries.entries with _ | ⟨⟨src, q⟩, rest⟩
  · rfl
  · have hmem : q ∈ s.queries.lookup src := by
      rw [AList.mem_lookup_iff, hentries]
      exact List.mem_cons_self
    rw [h src] at hmem
    cases hmem

/-- The second part follows from the first. -/
theorem Released.of_entries (h : ∀ src, ∀ q ∈ s.queries.lookup src,
    q.alarm.isSome ∧ q.knownAnswers = collected src s.events) : s.Released := by
  refine ⟨fun src q hq => (h src q hq).1, fun hnone => queries_eq_empty fun src => ?_,
    fun src q hq => (h src q hq).2⟩
  rcases hq : s.queries.lookup src with _ | q
  · rfl
  · have hsome := (h src q hq).1
    rw [hnone src q hq] at hsome
    cases hsome

theorem collected_append (src : σ) (events new : List (TruncatedEvent σ)) :
    collected src (events ++ new) = new.foldl (collect src) (collected src events) :=
  List.foldl_append

/-- Storing an entry whose alarm is set, with the known answers that its events tell of. -/
theorem Released.put (h : s.Released) {new : List (TruncatedEvent σ)} (halarm : q.alarm.isSome)
    (hknown : q.knownAnswers = new.foldl (collect src) (collected src s.events))
    (hothers : ∀ other ≠ src, ∀ answers, new.foldl (collect other) answers = answers) :
    (s.put src q new).Released := by
  refine .of_entries fun other q' hq' => ?_
  simp only [TruncatedQueries.put] at hq' ⊢
  by_cases hother : other = src
  · subst hother
    rw [AList.lookup_insert] at hq'
    obtain rfl := Option.some.inj hq'
    rw [collected_append]
    exact ⟨halarm, hknown⟩
  · rw [AList.lookup_insert_ne hother] at hq'
    rw [collected_append, hothers other hother]
    exact ⟨h.pending other q' hq', h.knownAnswers other q' hq'⟩

theorem Released.onMessageReceived (h : s.Released) (now delay : ℤ) (message : MdnsMessage)
    (src : σ) : (s.onMessageReceived config now delay message src).Released := by
  unfold TruncatedQueries.onMessageReceived
  split_ifs with hmulti hmany
  · exact h
  · unfold processMultiPacketTruncatedMessage
    rcases hstored : s.queries.lookup src with _ | stored
    · refine h.put rfl ?_ fun other hother answers => ?_
      · simp [collect, TruncatedQuery.new, TruncatedQuery.rescheduleSend]
      · simp [collect, hother.symm]
    · have hknown := h.knownAnswers src stored hstored
      dsimp only
      split_ifs
      · refine h.put rfl ?_ fun other hother answers => ?_
        · simp [collect, TruncatedQuery.addKnownAnswers, TruncatedQuery.rescheduleSend, hknown]
        · simp [collect, hother.symm]
      · refine h.put rfl ?_ fun other hother answers => ?_
        · simp [collect, TruncatedQuery.setQuery, TruncatedQuery.rescheduleSend, hknown]
        · simp [collect, hother.symm]
      · refine h.put rfl ?_ fun other hother answers => ?_
        · simp [collect, TruncatedQuery.new, TruncatedQuery.rescheduleSend]
        · simp [collect, hother.symm]
  · exact h

/-- An alarm that runs releases its entry, if there is a question to answer. -/
theorem Released.sendResponse (h : s.Released) (hquestions : q.questions ≠ []) :
    (s.sendResponse src q).Released := by
  rw [TruncatedQueries.sendResponse, if_neg (by simpa using hquestions)]
  refine .of_entries fun other q' hq' => ?_
  dsimp only at hq' ⊢
  by_cases hother : other = src
  · subst hother
    rw [AList.lookup_erase] at hq'
    cases hq'
  · rw [AList.lookup_erase_ne hother] at hq'
    have hsame : collected other s.events = collected other (s.events ++
        [.elapsed src, .responded src q.questions q.knownAnswers]) := by
      simp [collected_append, collect, Ne.symm hother]
    exact ⟨h.pending other q' hq', (h.knownAnswers other q' hq').trans hsame⟩

theorem step_fire_eq_some {now : ℤ} (h : s.step config (.fire now src) = some t) :
    ∃ q, s.queries.lookup src = some q ∧ t = s.sendResponse src q := by
  simp only [step, Option.bind_eq_bind, Option.bind_eq_some_iff] at h
  obtain ⟨q, hq, due, -, h⟩ := h
  split_ifs at h
  exact ⟨q, hq, (Option.some.inj h).symm⟩

/-- An alarm that runs for an entry without questions leaves it there for good. -/
theorem not_released_sendResponse (s : TruncatedQueries σ) (src : σ)
    (hquestions : q.questions = []) :
    ¬(s.sendResponse src q).Released := by
  intro h
  rw [TruncatedQueries.sendResponse, if_pos (by simpa using hquestions)] at h
  have hpending := h.pending src { q with alarm := none } (AList.lookup_insert _)
  cases hpending

/-! ### Runs -/

/-- **When truncated queries are released.** In the states of a run all entries whose delay has
elapsed are gone and known answers are not kept from one query to the next, exactly if no alarm of
the run runs for an entry without questions. -/
theorem released_iff {ops : List (TruncatedOp σ)} (h : run config ops = some t) :
    (∀ pre post u, ops = pre ++ post → run config pre = some u → u.Released) ↔
      ∀ pre now src post u, ops = pre ++ .fire now src :: post → run config pre = some u →
        ∀ q ∈ u.queries.lookup src, q.questions ≠ [] := by
  have hsplit := forall_split_iff (P := Released)
    (C := fun u op => ∀ now src, op = .fire now src → ∀ q ∈ u.queries.lookup src, q.questions ≠ [])
    h (fun _ => id) (.of_entries fun src q hq => nomatch hq)
    fun pre op u v _ hreleased hstep => iff_iff_implies_and_implies.mp ?_
  · refine hsplit.trans ⟨fun hfire pre now src post u hops hu => ?_, ?_⟩
    · exact hfire pre _ post u hops hu now src rfl
    · rintro hfire pre op post u hops hu now src rfl
      exact hfire pre now src post u hops hu
  · cases op with
    | receive now delay message src =>
      cases hstep
      exact iff_of_true (hreleased.onMessageReceived now delay message src) nofun
    | fire now src =>
      obtain ⟨q, hq, rfl⟩ := step_fire_eq_some hstep
      constructor
      · rintro hnext _ _ ⟨⟩ q' hq' hquestions
        obtain rfl := Option.some.inj (hq.symm.trans hq')
        exact not_released_sendResponse u src hquestions hnext
      · intro hfire
        exact hreleased.sendResponse (hfire now src rfl q hq)

/-! ### The limit of the table -/

variable (config) in
/-- The table keeps to its limit, and known answers of a source that is tracked extend its entry. -/
structure Admitted (s : TruncatedQueries σ) : Prop where
  size_le : s.queries.entries.length ≤ config.maximumConcurrentTruncatedQueriesPerInterface
  extends_entry : ∀ now delay message src, ∀ q ∈ s.queries.lookup src, message.questions = [] →
    ∃ q' ∈ (s.onMessageReceived config now delay message src).queries.lookup src,
      q'.questions = q.questions ∧ q'.knownAnswers = q.knownAnswers ++ message.answers

variable (config) in
/-- A message is about to make an entry, and the limit is reached. -/
def AdmitsAtLimit (s : TruncatedQueries σ) : TruncatedOp σ → Prop
  | .receive _ _ message src => isMultiPacketTruncatedQueryMessage message = true ∧
      s.queries.lookup src = none ∧
      s.queries.entries.length = config.maximumConcurrentTruncatedQueriesPerInterface
  | .fire .. => False

/-- Known answers extend the entry of their source as long as the limit is kept. -/
theorem admitted_of_size_le
    (h : s.queries.entries.length ≤ config.maximumConcurrentTruncatedQueriesPerInterface) :
    s.Admitted config := by
  refine ⟨h, fun now delay message src q hq hquestions => ?_⟩
  have hmulti : isMultiPacketTruncatedQueryMessage message = true := by
    simp [isMultiPacketTruncatedQueryMessage, hquestions]
  rw [onMessageReceived, if_pos hmulti, if_neg (by omega), processMultiPacketTruncatedMessage,
    Option.mem_def.mp hq]
  dsimp only
  rw [if_pos (by rw [hquestions]; rfl), put, AList.lookup_insert]
  exact ⟨_, rfl, rfl, rfl⟩

theorem length_insert (m : AList fun _ : σ => TruncatedQuery) (src : σ) (q : TruncatedQuery) :
    (m.insert src q).entries.length =
      if m.lookup src = none then m.entries.length + 1 else m.entries.length := by
  have hkeys : ∀ m : AList fun _ : σ => TruncatedQuery, m.entries.length = m.keys.length :=
    fun m => by simp [AList.keys, List.keys]
  rw [hkeys, hkeys, AList.keys_insert, List.length_cons]
  split_ifs with h
  · rw [List.erase_of_not_mem (AList.lookup_eq_none.mp h)]
  · have hmem : src ∈ m.keys := not_not.mp fun hmem => h (AList.lookup_eq_none.mpr hmem)
    rw [List.length_erase_of_mem hmem, Nat.sub_add_cancel (List.length_pos_of_mem hmem)]

/-- Only a message of a new source makes the table larger, and by one entry. -/
theorem length_onMessageReceived (s : TruncatedQueries σ) (now delay : ℤ) (message : MdnsMessage)
    (src : σ) :
    (s.onMessageReceived config now delay message src).queries.entries.length =
      if isMultiPacketTruncatedQueryMessage message = true ∧ s.queries.lookup src = none ∧
          s.queries.entries.length ≤ config.maximumConcurrentTruncatedQueriesPerInterface then
        s.queries.entries.length + 1
      else s.queries.entries.length := by
  unfold onMessageReceived
  split_ifs with hmulti hmany hnew hnew hnew
  · exact absurd hnew.2.2 (by omega)
  · rfl
  · rw [processMultiPacketTruncatedMessage, hnew.2.1]
    exact (length_insert _ _ _).trans (if_pos hnew.2.1)
  · have htracked : s.queries.lookup src ≠ none := fun h => hnew ⟨hmulti, h, by omega⟩
    obtain ⟨stored, hstored⟩ := Option.ne_none_iff_exists'.mp htracked
    have hput : ∀ q events, (s.put src q events).queries.entries.length =
        s.queries.entries.length := fun q events =>
      (length_insert _ _ _).trans (if_neg htracked)
    rw [processMultiPacketTruncatedMessage, hstored]
    dsimp only
    split_ifs <;> exact hput _ _
  · exact absurd hnew.1 hmulti
  · rfl

theorem length_sendResponse (hq : s.queries.lookup src = some q) :
    (s.sendResponse src q).queries.entries.length ≤ s.queries.entries.length := by
  unfold TruncatedQueries.sendResponse
  split_ifs
  · exact ((length_insert _ _ _).trans (if_neg (by simp [hq]))).le
  · exact List.Sublist.length_le (List.kerase_sublist src _)

/-- **When the table keeps to its limit.** In the states of a run it does, and known answers extend
the entry of their source, exactly if no message of the run makes an entry at the limit. -/
theorem admitted_iff {ops : List (TruncatedOp σ)} (h : run config ops = some t) :
    (∀ pre post u, ops = pre ++ post → run config pre = some u → u.Admitted config) ↔
      ∀ pre op post u, ops = pre ++ op :: post → run config pre = some u →
        ¬ u.AdmitsAtLimit config op := by
  refine forall_split_iff h (fun _ => id) (admitted_of_size_le (Nat.zero_le _))
    fun pre op u v _ hadmitted hstep => iff_iff_implies_and_implies.mp ?_
  have hle := hadmitted.size_le
  cases op with
  | receive now delay message src =>
    cases hstep
    constructor
    · rintro hnext ⟨hmulti, hnew, hfull⟩
      have hle' := hnext.size_le
      rw [length_onMessageReceived, if_pos ⟨hmulti, hnew, hfull.le⟩] at hle'
      omega
    · intro hnot
      refine admitted_of_size_le ?_
      rw [length_onMessageReceived]
      split_ifs with hnew
      · have hne : u.queries.entries.length ≠
            config.maximumConcurrentTruncatedQueriesPerInterface :=
          fun hfull => hnot ⟨hnew.1, hnew.2.1, hfull⟩
        omega
      · exact hle
  | fire now src =>
    obtain ⟨q, hq, rfl⟩ := step_fire_eq_some hstep
    exact iff_of_true (admitted_of_size_le ((length_sendResponse hq).trans hle)) id

/-! ### Known answers without a query -/

/-- Limits that let two sources wait at once. -/
def twoSources : TruncatedConfig := ⟨8, 8, 1, by decide, by decide, by decide⟩

/-- A record that a querier knows. -/
def knownRecord (byte : UInt8) : MdnsRecord := sampleRecord byte

/-- A message with a known answer, and one with the question that it belongs to. -/
def knownMessage (byte : UInt8) : MdnsMessage :=
  { id := 0, type := .query, answers := [knownRecord byte] }

@[inherit_doc knownMessage]
def askingMessage : MdnsMessage where
  id := 0
  type := .query
  isTruncated := true
  questions := [sampleQuestion]

/-- A query with a known answer, from one source. -/
def askedQuery : List (TruncatedOp ℕ) :=
  [.receive 0 400 askingMessage 0, .receive 10 400 (knownMessage 1) 0, .fire 410 0]

theorem released_iff_askedQuery :
    ∃ t, run twoSources askedQuery = some t ∧ t.queries = ∅ ∧
      ∀ pre post u, askedQuery = pre ++ post → run twoSources pre = some u → u.Released := by
  refine ⟨_, rfl, rfl, (released_iff rfl).mpr ?_⟩
  intro pre now src post u hops hu q hq
  -- the alarm is the last of the three steps
  rcases pre with _ | ⟨a, _ | ⟨b, _ | ⟨c, pre⟩⟩⟩ <;> simp [askedQuery] at hops
  obtain ⟨rfl, rfl, ⟨rfl, rfl⟩, rfl⟩ := hops
  cases hu
  cases hq
  rintro ⟨⟩

/-- Known answers of two sources, that no query follows. -/
def knownOnly : List (TruncatedOp ℕ) :=
  [.receive 0 400 (knownMessage 1) 0, .fire 400 0, .receive 500 400 (knownMessage 1) 1, .fire 900 1]

/-- **Known answers that no query follows.** With them two sources use up the entries for good: no
alarm is set, and a query of a third one is not stored. And the known answer of one source is still
there when it sends another one later. -/
theorem not_released_knownAnswers :
    (∃ t, run twoSources knownOnly = some t ∧ t.queries.entries.length = 2 ∧
      (∀ entry ∈ t.queries.entries, entry.2.alarm = none) ∧
      ∀ now delay src, t.onMessageReceived twoSources now delay askingMessage src = t) ∧
    ∃ t q, run twoSources (knownOnly.take 2 ++ [.receive 1000 400 (knownMessage 2) 0]) = some t ∧
      t.queries.lookup 0 = some q ∧ q.knownAnswers = [knownRecord 1, knownRecord 2] ∧
      collected 0 t.events = [knownRecord 2] := by
  refine ⟨⟨_, rfl, rfl, ?_, fun now delay src => rfl⟩, ⟨_, _, rfl, rfl, rfl, rfl⟩⟩
  decide

theorem admitted_iff_askedQuery :
    ∃ t, run twoSources askedQuery = some t ∧
      ∀ pre post u, askedQuery = pre ++ post → run twoSources pre = some u →
        u.Admitted twoSources := by
  refine ⟨_, rfl, (admitted_iff rfl).mpr ?_⟩
  intro pre op post u hops hu hlimit
  -- the limit is reached after the first message, and the second one is of the same source
  rcases pre with _ | ⟨a, _ | ⟨b, _ | ⟨c, pre⟩⟩⟩ <;> simp [askedQuery] at hops
  · obtain ⟨rfl, -⟩ := hops
    cases hu
    exact absurd hlimit.2.2 (by decide)
  · obtain ⟨rfl, rfl, -⟩ := hops
    cases hu
    exact absurd hlimit.2.1 (by decide)
  · obtain ⟨rfl, rfl, rfl, -⟩ := hops
    exact hlimit

/-- **One source too many.** With a limit of one entry there are two after the first messages of two
sources, and then the known answer that the first one sends for its query is not stored. -/
theorem not_admitted_twoSources :
    ∃ t, run twoSources [.receive 0 400 askingMessage 0, .receive 1 400 askingMessage 1] = some t ∧
      twoSources.maximumConcurrentTruncatedQueriesPerInterface < t.queries.entries.length ∧
      ∀ now delay, t.onMessageReceived twoSources now delay (knownMessage 1) 0 = t :=
  ⟨_, rfl, by decide, fun _ _ => rfl⟩

end TruncatedQueries

end StreamerPlus.Discovery
