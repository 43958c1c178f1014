import StreamerPlus.Discovery.MdnsQuerier
import StreamerPlus.Lib.Loop

/-!
# Starting and stopping queries

The querier has two multimaps by name: the callbacks of its clients, and the trackers of the
questions that it asks for them (`mdns_querier.cc`). `StartQuery` adds to both, and `StopQuery`
takes a callback away, and the question with the last of its callbacks.

`StopQuery` walks over the callbacks of a name with an iterator that it advances itself. It does not
advance it over a callback for another type or class of the same name, and never comes to an end
then.

The maps are lists here, in which the entries of one name stand in the order of the multimap;
`callbacksOf` is the range of a name. `MdnsQuerier` has the callbacks without the iterator and the
questions, and adds what a new callback is told and the changes that it asks for.

## Main results

* `stopQuery_stops_iff` : `StopQuery` returns and does what it is for exactly if every callback of
  the name is for its type and class, or nothing can be asked for the type.
* `not_stops_twoTypes` : a client that asks for both kinds of addresses of a host cannot stop.
* `MdnsQuerier.Agrees.stopQuery`, `MdnsQuerier.Agrees.startQuery` : the functions of `MdnsQuerier`
  do to its callbacks what these do.
-/

namespace StreamerPlus.Discovery

/-- Whether a callback is registered for a name, type and class. -/
def CallbackInfo.isFor (name : DomainName) (dnsType : DnsType) (dnsClass : DnsClass)
    (info : CallbackInfo) : Bool :=
  info.name.key = name.key && info.dnsType = dnsType && info.dnsClass = dnsClass

/-- Whether a question is the one for a name, type and class. -/
def MdnsQuestion.isFor (name : DomainName) (dnsType : DnsType) (dnsClass : DnsClass)
    (question : MdnsQuestion) : Bool :=
  question.name.key = name.key && question.dnsType = dnsType && question.dnsClass = dnsClass

/-- `callbacks_` and `questions_`. There is at most one question for a name, type and class. -/
structure MdnsQueries where
  callbacks : List CallbackInfo
  questions : List MdnsQuestion
  nextRegistration : ℕ
  queryable : ∀ info ∈ callbacks, canBeQueried info.dnsType
  asked : ∀ question ∈ questions, canBeQueried question.dnsType
  distinct : questions.Pairwise fun a b => ¬ a.isFor b.name b.dnsType b.dnsClass

namespace MdnsQueries

/-- The maps as they are constructed. -/
def empty : MdnsQueries := ⟨[], [], 0, nofun, nofun, List.Pairwise.nil⟩

variable (s : MdnsQueries) (name : DomainName) (dnsType : DnsType) (dnsClass : DnsClass)
  (callback : ℕ)

/-- `callbacks_.equal_range(name)`. -/
def callbacksOf : List CallbackInfo := s.callbacks.filter fun info => info.name.key = name.key

/-- `StartQuery(name, dns_type, dns_class, callback)`: nothing if an assertion fails. -/
def startQuery : Option MdnsQueries :=
  if hqueryable : canBeQueried dnsType then
    if s.callbacks.any fun info => info.isFor name dnsType dnsClass && info.callback = callback then
      some s
    else
      let s : MdnsQueries := { s with
        callbacks := s.callbacks ++ [⟨s.nextRegistration, name, callback, dnsType, dnsClass⟩]
        nextRegistration := s.nextRegistration + 1
        queryable := List.forall_mem_append.mpr
          ⟨s.queryable, List.forall_mem_singleton.mpr hqueryable⟩ }
      if htracked : s.questions.any (·.isFor name dnsType dnsClass) then some s
      else if hname : ¬name.empty then
        some { s with
          questions := s.questions ++ [⟨name, dnsType, dnsClass, .multicast, hname⟩]
          asked := List.forall_mem_append.mpr
            ⟨s.asked, List.forall_mem_singleton.mpr hqueryable⟩
          distinct := by
            refine List.pairwise_append.mpr ⟨s.distinct, List.pairwise_singleton _ _, ?_⟩
            intro a ha b hb hfor
            rw [List.mem_singleton.mp hb] at hfor
            exact htracked (List.any_eq_true.mpr ⟨a, ha, hfor⟩) }
      else none
  else none

/-! ### The loop of `StopQuery` -/

/-- The state of the loop: the entries that the iterator has passed, those from the iterator on, and
`callbacks_for_key`. No entry is new. -/
structure StopLoop (callbacks : List CallbackInfo) where
  passed : List CallbackInfo
  rest : List CallbackInfo
  callbacksForKey : ℕ
  mem : ∀ info ∈ passed ++ rest, info ∈ callbacks

variable {callbacks : List CallbackInfo}

/-- The body of the loop, which is left at the end of the range. -/
def stopBody (l : StopLoop callbacks) : StopLoop callbacks ⊕ StopLoop callbacks :=
  match hrest : l.rest with
  | [] => .inr l
  | info :: rest =>
    if dnsType = info.dnsType ∧ dnsClass = info.dnsClass then
      if callback = info.callback then
        .inl ⟨l.passed, rest, l.callbacksForKey, fun i hi => l.mem i (by
          rw [hrest]
          simp only [List.mem_append, List.mem_cons] at hi ⊢
          tauto)⟩
      else
        .inl ⟨l.passed ++ [info], rest, l.callbacksForKey + 1, fun i hi => l.mem i (by
          rw [hrest]
          simpa using hi)⟩
    -- `entry` stays where it is
    else .inl l

/-- The loop before its first iteration. -/
def stopStart : StopLoop s.callbacks :=
  ⟨[], s.callbacksOf name, 0, fun _ hi => List.mem_of_mem_filter hi⟩

/-- The maps behind the loop: the question goes if no callback for it was passed. -/
def stopFinish (l : StopLoop s.callbacks) : MdnsQueries :=
  let s' : MdnsQueries := { s with
    callbacks := s.callbacks.filter (fun info => info.name.key ≠ name.key) ++ l.passed
    queryable := fun info hinfo => s.queryable info (by
      rcases List.mem_append.mp hinfo with hinfo | hinfo
      · exact List.mem_of_mem_filter hinfo
      · exact l.mem info (List.mem_append_left _ hinfo)) }
  if 0 < l.callbacksForKey then s'
  else { s' with
    questions := s.questions.eraseP (·.isFor name dnsType dnsClass)
    asked := fun question hquestion => s.asked question (List.mem_of_mem_eraseP hquestion)
    distinct := s.distinct.sublist List.eraseP_sublist }

/-- `StopQuery(name, dns_type, dns_class, callback)`, if its loop ends within `n` iterations. -/
def stopQuery (n : ℕ) : Option MdnsQueries :=
  if canBeQueried dnsType then
    (Loop.run (stopBody dnsType dnsClass callback) n (s.stopStart name)).map
      (s.stopFinish name dnsType dnsClass)
  else some s

/-! ### What the loop does -/

variable {s name dnsType dnsClass callback}

/-- An entry for another type or class is never passed. -/
theorem not_returns_of_mem {l r : StopLoop callbacks} {info : CallbackInfo} (hinfo : info ∈ l.rest)
    (hother : ¬ (dnsType = info.dnsType ∧ dnsClass = info.dnsClass)) :
    ¬ Loop.Returns (stopBody dnsType dnsClass callback) l r := by
  refine Loop.not_returns_of_forall (P := fun l => info ∈ l.rest) hinfo fun l hl => ?_
  unfold stopBody
  split
  · next hrest => exact absurd (hrest ▸ hl) List.not_mem_nil
  · next head rest hrest =>
    rw [hrest] at hl
    split_ifs with hkey hcallback
    -- the entry that is passed or erased is another one
    · refine ⟨_, rfl, (List.mem_cons.mp hl).resolve_left fun heq => hother ?_⟩
      exact heq ▸ hkey
    · refine ⟨_, rfl, (List.mem_cons.mp hl).resolve_left fun heq => hother ?_⟩
      exact heq ▸ hkey
    · exact ⟨l, rfl, hrest ▸ hl⟩

/-- If every entry is for the type and class, the loop erases those of the callback and counts the
others. -/
theorem returns_of_forall (callback : ℕ) (l : StopLoop callbacks)
    (hfor : ∀ info ∈ l.rest, dnsType = info.dnsType ∧ dnsClass = info.dnsClass) :
    ∃ r : StopLoop callbacks, Loop.Returns (stopBody dnsType dnsClass callback) l r ∧
      r.passed = l.passed ++ l.rest.filter (fun info => callback ≠ info.callback) ∧
      r.callbacksForKey =
        l.callbacksForKey + (l.rest.filter fun info => callback ≠ info.callback).length := by
  obtain ⟨passed, rest, count, hmem⟩ := l
  induction rest generalizing passed count with
  | nil =>
    have hleave : stopBody dnsType dnsClass callback ⟨passed, [], count, hmem⟩ =
        .inr ⟨passed, [], count, hmem⟩ := rfl
    exact ⟨_, (Loop.returns_of_inr hleave).mpr rfl, by simp, by simp⟩
  | cons info rest ih =>
    have hkey := hfor info List.mem_cons_self
    have hrest : ∀ info ∈ rest, dnsType = info.dnsType ∧ dnsClass = info.dnsClass :=
      fun i hi => hfor i (List.mem_cons_of_mem info hi)
    by_cases hcallback : callback = info.callback
    · obtain ⟨r, hr, hpassed, hcount⟩ := ih passed count
        (fun i hi => hmem i (by
          simp only [List.mem_append, List.mem_cons] at hi ⊢
          tauto)) hrest
      refine ⟨r, (Loop.returns_of_inl ?_).mpr hr, ?_, ?_⟩
      · simp only [stopBody]
        rw [if_pos hkey, if_pos hcallback]
      · simpa [hcallback] using hpassed
      · simpa [hcallback] using hcount
    · obtain ⟨r, hr, hpassed, hcount⟩ := ih (passed ++ [info]) (count + 1)
        (fun i hi => hmem i (by simpa using hi)) hrest
      refine ⟨r, (Loop.returns_of_inl ?_).mpr hr, ?_, ?_⟩
      · simp only [stopBody]
        rw [if_pos hkey, if_neg hcallback]
      · simpa [hcallback] using hpassed
      · simp only [hcallback, ne_eq, not_false_eq_true, decide_true, List.filter_cons_of_pos,
          List.length_cons, hcount]
        omega

/-! ### What `StopQuery` is for -/

variable (s name dnsType dnsClass callback)

/-- The callback is gone, every other callback is there, and the question is gone if no callback for
it is left. -/
structure Stops (s' : MdnsQueries) : Prop where
  callbacks : ∀ d, s'.callbacksOf d = (s.callbacksOf d).filter fun info =>
    ¬ (info.isFor name dnsType dnsClass ∧ info.callback = callback)
  questions : s'.questions =
    if ∃ info ∈ s'.callbacks, info.isFor name dnsType dnsClass then s.questions
    else s.questions.filter fun question => ¬ question.isFor name dnsType dnsClass

/-- Every callback of the name is for the type and class. -/
def OnlyKey : Prop :=
  ∀ info ∈ s.callbacks, info.name.key = name.key → info.dnsType = dnsType ∧ info.dnsClass = dnsClass

instance : Decidable (s.OnlyKey name dnsType dnsClass) :=
  inferInstanceAs (Decidable (∀ info ∈ s.callbacks, _ → _))

variable {s name dnsType dnsClass callback}

theorem isFor_iff {info : CallbackInfo} : info.isFor name dnsType dnsClass ↔
    info.name.key = name.key ∧ info.dnsType = dnsType ∧ info.dnsClass = dnsClass := by
  simp [CallbackInfo.isFor, and_assoc]

/-- Where questions are distinct, the first one for a key is the only one. -/
theorem eraseP_eq_filter {questions : List MdnsQuestion}
    (hdistinct : questions.Pairwise fun a b => ¬ a.isFor b.name b.dnsType b.dnsClass) :
    questions.eraseP (·.isFor name dnsType dnsClass) =
      questions.filter fun question => ¬ question.isFor name dnsType dnsClass := by
  induction questions with
  | nil => rfl
  | cons question rest ih =>
    obtain ⟨hquestion, hrest⟩ := List.pairwise_cons.mp hdistinct
    by_cases hfor : question.isFor name dnsType dnsClass
    · have hother : ∀ q ∈ rest, ¬ q.isFor name dnsType dnsClass := by
        intro q hq hfor'
        refine hquestion q hq ?_
        simp only [MdnsQuestion.isFor, Bool.and_eq_true, decide_eq_true_eq] at hfor hfor' ⊢
        exact ⟨⟨hfor.1.1.trans hfor'.1.1.symm, hfor.1.2.trans hfor'.1.2.symm⟩,
          hfor.2.trans hfor'.2.symm⟩
      rw [List.eraseP_cons_of_pos hfor, List.filter_cons_of_neg (by simpa using hfor),
        List.filter_eq_self.mpr fun q hq => by simpa using hother q hq]
    · rw [List.eraseP_cons_of_neg hfor, List.filter_cons_of_pos (by simpa using hfor), ih hrest]

/-- What the loop has passed is what is left of the name. -/
theorem callbacksOf_stopFinish (dnsType : DnsType) (dnsClass : DnsClass) {r : StopLoop s.callbacks}
    (hpassed : r.passed = (s.callbacksOf name).filter fun info => callback ≠ info.callback)
    (d : DomainName) :
    (s.stopFinish name dnsType dnsClass r).callbacksOf d =
      if d.key = name.key then (s.callbacksOf d).filter fun info => callback ≠ info.callback
      else s.callbacksOf d := by
  have hcallbacks : (s.stopFinish name dnsType dnsClass r).callbacks =
      s.callbacks.filter (fun info => info.name.key ≠ name.key) ++
        (s.callbacksOf name).filter fun info => callback ≠ info.callback := by
    rw [← hpassed]
    unfold stopFinish
    simp only
    split_ifs <;> rfl
  rw [callbacksOf, hcallbacks, List.filter_append]
  simp only [callbacksOf, List.filter_filter]
  split_ifs with hd
  · have hothers : s.callbacks.filter (fun info =>
        info.name.key = d.key && decide (info.name.key ≠ name.key)) = [] := by
      refine List.filter_eq_nil_iff.mpr fun info _ => ?_
      simp [hd]
    rw [hothers, List.nil_append, hd]
    refine List.filter_congr fun info _ => ?_
    by_cases hname : info.name.key = name.key <;> simp [hname]
  · have hrange : s.callbacks.filter (fun info => info.name.key = d.key &&
        (decide (callback ≠ info.callback) && decide (info.name.key = name.key))) = [] := by
      refine List.filter_eq_nil_iff.mpr fun info _ => ?_
      by_cases hname : info.name.key = d.key <;> simp [hname, hd]
    rw [hrange, List.append_nil]
    refine List.filter_congr fun info _ => ?_
    by_cases hname : info.name.key = d.key <;> simp [hname, hd]

/-- Where every callback of the name is for the type and class, `StopQuery` does what it is for. -/
theorem exists_stops (callback : ℕ) (hqueryable : canBeQueried dnsType)
    (hkey : s.OnlyKey name dnsType dnsClass) :
    ∃ n s', s.stopQuery name dnsType dnsClass callback n = some s' ∧
      s.Stops name dnsType dnsClass callback s' := by
  have hrange : ∀ info ∈ s.callbacksOf name,
      dnsType = info.dnsType ∧ dnsClass = info.dnsClass := by
    intro info hinfo
    obtain ⟨hmem, hname⟩ := List.mem_filter.mp hinfo
    obtain ⟨htype, hclass⟩ := hkey info hmem (by simpa using hname)
    exact ⟨htype.symm, hclass.symm⟩
  obtain ⟨r, ⟨n, hr⟩, hpassed, hcount⟩ :=
    returns_of_forall callback (s.stopStart name) hrange
  simp only [stopStart, List.nil_append, Nat.zero_add] at hpassed hcount
  have hcallbacks := callbacksOf_stopFinish dnsType dnsClass hpassed
  refine ⟨n, s.stopFinish name dnsType dnsClass r, ?_, fun d => ?_, ?_⟩
  · rw [stopQuery, if_pos hqueryable, hr]
    rfl
  · rw [hcallbacks d]
    split_ifs with hd
    · refine List.filter_congr fun info hinfo => ?_
      obtain ⟨hmem, hname⟩ := List.mem_filter.mp hinfo
      have hname : info.name.key = name.key := (by simpa using hname : _ = d.key).trans hd
      have hfor := isFor_iff.mpr ⟨hname, hkey info hmem hname⟩
      simp [hfor, eq_comm]
    · refine (List.filter_eq_self.mpr fun info hinfo => ?_).symm
      have hname : info.name.key = d.key := by simpa using (List.mem_filter.mp hinfo).2
      have hfor : ¬ info.isFor name dnsType dnsClass := fun hfor =>
        hd (hname.symm.trans (isFor_iff.mp hfor).1)
      simp [hfor]
  · -- a callback for the question is left exactly if one was counted
    have hleft : (∃ info ∈ (s.stopFinish name dnsType dnsClass r).callbacks,
        info.isFor name dnsType dnsClass) ↔ 0 < r.callbacksForKey := by
      rw [hcount, List.length_pos_iff_exists_mem]
      have hname := hcallbacks name
      rw [if_pos rfl] at hname
      constructor
      · rintro ⟨info, hinfo, hfor⟩
        refine ⟨info, hname ▸ List.mem_filter.mpr ⟨hinfo, ?_⟩⟩
        simpa using (isFor_iff.mp hfor).1
      · rintro ⟨info, hinfo⟩
        have hmem : info ∈ (s.stopFinish name dnsType dnsClass r).callbacksOf name := hname ▸ hinfo
        obtain ⟨hmem', hkey'⟩ := List.mem_filter.mp hmem
        obtain ⟨hold, hname'⟩ := List.mem_filter.mp (List.mem_of_mem_filter hinfo)
        exact ⟨info, hmem', isFor_iff.mpr ⟨by simpa using hname',
          hkey info hold (by simpa using hname')⟩⟩
    simp only [hleft]
    unfold stopFinish
    simp only
    split_ifs
    · rfl
    · exact eraseP_eq_filter s.distinct

/-- An entry of the name for another type or class keeps `StopQuery` from returning. -/
theorem stopQuery_eq_none (hqueryable : canBeQueried dnsType)
    (hkey : ¬ s.OnlyKey name dnsType dnsClass) (n : ℕ) :
    s.stopQuery name dnsType dnsClass callback n = none := by
  rw [stopQuery, if_pos hqueryable, Option.map_eq_none_iff]
  unfold OnlyKey at hkey
  push Not at hkey
  obtain ⟨info, hmem, hname, hother⟩ := hkey
  have hinfo : info ∈ (s.stopStart name).rest := List.mem_filter.mpr ⟨hmem, by simpa using hname⟩
  cases hrun : Loop.run (stopBody dnsType dnsClass callback) n (s.stopStart name) with
  | none => rfl
  | some r =>
    refine absurd ⟨n, hrun⟩ (not_returns_of_mem hinfo fun h => ?_)
    exact hother h.1.symm h.2.symm

/-- **When `StopQuery` works.** `StopQuery` returns, with exactly the callback removed, and the
question removed exactly if no callback for it is left, if and only if every callback of the name is
for its type and class. It returns at once for a type that nobody can ask for. -/
theorem stopQuery_stops_iff (s : MdnsQueries) (name : DomainName) (dnsType : DnsType)
    (dnsClass : DnsClass) (callback : ℕ) :
    (∃ n s', s.stopQuery name dnsType dnsClass callback n = some s' ∧
      s.Stops name dnsType dnsClass callback s') ↔
    (canBeQueried dnsType → s.OnlyKey name dnsType dnsClass) := by
  constructor
  · rintro ⟨n, s', hstop, -⟩ hqueryable
    by_contra hkey
    rw [stopQuery_eq_none hqueryable hkey] at hstop
    cases hstop
  · intro hkey
    by_cases hqueryable : canBeQueried dnsType
    · exact exists_stops callback hqueryable (hkey hqueryable)
    · -- nobody has asked for the type, and there is no question for it
      have hother : ∀ info ∈ s.callbacks, ¬ info.isFor name dnsType dnsClass :=
        fun info hinfo hfor => hqueryable ((isFor_iff.mp hfor).2.1 ▸ s.queryable info hinfo)
      refine ⟨0, s, if_neg hqueryable, fun d => ?_, ?_⟩
      · refine (List.filter_eq_self.mpr fun info hinfo => ?_).symm
        simp [hother info (List.mem_of_mem_filter hinfo)]
      · rw [if_neg fun ⟨info, hinfo, hfor⟩ => hother info hinfo hfor]
        refine (List.filter_eq_self.mpr fun question hquestion => ?_).symm
        have hasked := s.asked question hquestion
        have hne : question.dnsType ≠ dnsType := fun htype => hqueryable (htype ▸ hasked)
        simp [MdnsQuestion.isFor, hne]

/-! ### Two types of one name -/

/-- A client asks for both kinds of addresses of a host. -/
def twoTypes : Option MdnsQueries := do
  let s ← empty.startQuery MdnsQuerier.exampleHost .kA .kIN 0
  s.startQuery MdnsQuerier.exampleHost .kAAAA .kIN 0

/-- `StopQuery` for one of the two never returns. -/
theorem not_stops_twoTypes :
    ∃ s, twoTypes = some s ∧ ∀ n, s.stopQuery MdnsQuerier.exampleHost .kA .kIN 0 n = none := by
  have hsome : twoTypes.any fun s => ¬ s.OnlyKey MdnsQuerier.exampleHost .kA .kIN := by
    decide +kernel
  cases htwo : twoTypes with
  | none => rw [htwo] at hsome; cases hsome
  | some s =>
    rw [htwo] at hsome
    exact ⟨s, rfl, stopQuery_eq_none (by decide) (by simpa using hsome)⟩

theorem nextRegistration_of_stopQuery {s' : MdnsQueries} {n : ℕ}
    (h : s.stopQuery name dnsType dnsClass callback n = some s') :
    s'.nextRegistration = s.nextRegistration := by
  unfold stopQuery at h
  split_ifs at h
  · obtain ⟨l, -, rfl⟩ := Option.map_eq_some_iff.mp h
    unfold stopFinish
    simp only
    split_ifs <;> rfl
  · cases h
    rfl

end MdnsQueries

/-! ### The callbacks of a querier -/

namespace MdnsQuerier

open Checked MdnsQueries

variable {q : MdnsQuerier} {s s' : MdnsQueries} {name : DomainName} {dnsType : DnsType}
  {dnsClass : DnsClass} {callback : ℕ}

/-- The callbacks of each name are those of the maps, in their order. -/
structure Agrees (q : MdnsQuerier) (s : MdnsQueries) : Prop where
  callbacks : ∀ d : DomainName, (q.callbacks.filter fun info => info.name.key = d.key) =
    s.callbacksOf d
  nextRegistration : q.nextRegistration = s.nextRegistration

theorem Agrees.mem_iff (h : q.Agrees s) {info : CallbackInfo} :
    info ∈ q.callbacks ↔ info ∈ s.callbacks := by
  simpa [callbacksOf] using congrArg (info ∈ ·) (h.callbacks info.name)

/-- `StopQuery` of a querier is the loop over its callbacks: it returns if the loop does, with the
same callbacks. -/
theorem Agrees.stopQuery (h : q.Agrees s) (name : DomainName) (dnsType : DnsType)
    (dnsClass : DnsClass) (callback : ℕ) :
    Outcome
      (fun q' => ∃ n s', s.stopQuery name dnsType dnsClass callback n = some s' ∧ q'.Agrees s')
      (fun _ => ∀ n, s.stopQuery name dnsType dnsClass callback n = none)
      (q.stopQuery name dnsType dnsClass callback) := by
  unfold MdnsQuerier.stopQuery
  split_ifs with hqueryable
  · refine Outcome.require_bind (fun hkey => stopQuery_eq_none hqueryable ?_) fun hkey => ?_
    · simpa [OnlyKey, h.mem_iff] using hkey
    have honly : s.OnlyKey name dnsType dnsClass := by simpa [OnlyKey, h.mem_iff] using hkey
    obtain ⟨n, s', hstop, hstops⟩ := exists_stops callback hqueryable honly
    refine ⟨n, s', hstop, fun d => ?_,
      h.nextRegistration.trans (nextRegistration_of_stopQuery hstop).symm⟩
    rw [hstops.callbacks, ← h.callbacks, List.filter_filter, List.filter_filter]
    refine List.filter_congr fun info hinfo => ?_
    have hfor : info.isFor name dnsType dnsClass ↔ info.name.key = name.key :=
      isFor_iff.trans (and_iff_left_of_imp (honly info (h.mem_iff.mp hinfo)))
    simp [hfor, Bool.and_comm, Bool.or_comm]
  · exact ⟨0, s, if_neg hqueryable, h⟩

theorem Agrees.addCallback (h : q.Agrees s) (respond : Clients) (hcallbacks : s'.callbacks =
      s.callbacks ++ [⟨s.nextRegistration, name, callback, dnsType, dnsClass⟩])
    (hnext : s'.nextRegistration = s.nextRegistration + 1) :
    (q.addCallback respond name dnsType dnsClass callback).1.Agrees s' := by
  rw [MdnsQuerier.addCallback, calls_callAll, h.nextRegistration]
  refine ⟨fun d => ?_, hnext.symm⟩
  have hd := h.callbacks d
  unfold callbacksOf at hd ⊢
  rw [hcallbacks, List.filter_append, List.filter_append, hd]

/-- `StartQuery` of a querier registers what the maps register, and then applies the changes that
the callback asks for. -/
theorem Agrees.startQuery (h : q.Agrees s) (respond : Clients) (limit : ℕ)
    (hs : s.startQuery name dnsType dnsClass callback = some s') :
    ∃ q' pending, q'.Agrees s' ∧ q.startQuery respond limit name dnsType dnsClass callback =
      applyPendingChanges respond limit pending q' := by
  have happly : ∀ q, applyPendingChanges respond limit [] q = .ok q := by
    cases limit <;> simp [applyPendingChanges]
  have hknown : ∀ p, q.callbacks.any p = s.callbacks.any p := fun p => by
    rw [Bool.eq_iff_iff, List.any_eq_true, List.any_eq_true]
    simp only [h.mem_iff]
  rw [MdnsQuerier.startQuery, startQueryWith, hknown]
  simp only [MdnsQueries.startQuery] at hs
  split_ifs at hs with hqueryable hany htracked hname
  all_goals cases hs; rw [require_of hqueryable, ok_bind]
  · exact ⟨q, [], h, (if_pos hany).trans (happly q).symm⟩
  · exact ⟨_, _, h.addCallback respond rfl rfl, if_neg hany⟩
  · exact ⟨_, _, h.addCallback respond rfl rfl, if_neg hany⟩

end MdnsQuerier

end StreamerPlus.Discovery
