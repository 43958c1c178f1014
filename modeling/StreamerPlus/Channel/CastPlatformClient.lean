import StreamerPlus.Lib.OneShot
import StreamerPlus.Lib.Run
import StreamerPlus.Util.Json

/-!
# `CastPlatformClient`

The sender asks receivers whether they have an application (`cast/sender/cast_platform_client.cc`).
A callback that is passed to `RequestAppAvailability` is pending until the response comes, five
seconds pass, or the receiver is removed or the client destroyed; `CancelRequest` gives it up. The
requests of all receivers are one list here, in the order in which they were made; each has the id
of its receiver, and no two have the same request id.

`HandleResponse` takes a request off the list whatever the response says, but invokes the callback
only if the response has a text for the application. The callback is then never invoked: the alarm
is destroyed together with the request.

Callbacks do not call the client. The messages that are sent are left out.

## Main results

* `sound_run`: in every run each callback is pending or settled once, nothing is pending for longer
  than five seconds, and a response settles only requests of the receiver whose socket it came from.
* `completes_step`: what a response has to be for its callback to be invoked.
* `completes_iff`: along a run every callback is invoked as it should iff every response is that.
-/

namespace StreamerPlus

open OneShot TransitionSystem

/-- `AppAvailabilityResult`. -/
inductive AppAvailabilityResult
  | available | unavailable | unknown
  deriving DecidableEq, Repr

/-- `AvailabilityRequest`, with the receiver it is for and the time at which its alarm goes off. -/
structure AvailabilityRequest where
  receiverId : String
  requestId : ℤ
  appId : String
  deadline : ℤ
  deriving DecidableEq, Repr

/-- What a callback was invoked by. For a response, whether the receiver of the request is
registered with the socket that the response came from. -/
inductive InvokedBy
  | unknownReceiver
  | response (fromReceiver : Bool)
  | timeout
  | removeReceiver
  | destruction
  deriving DecidableEq, Repr

/-- What became of a request that is no longer pending. -/
inductive RequestOutcome
  | invoked (result : AppAvailabilityResult) (cause : InvokedBy)
  | cancelled
  | dropped
  deriving DecidableEq, Repr

/-- A `CastMessage`. The payload is missing when it is no JSON. -/
structure PlatformMessage where
  isString : Bool
  nameSpace : String
  sourceId : String
  payload : Option Json

/-- The request id and the content of a message that is taken for a response. -/
def PlatformMessage.response? (m : PlatformMessage) : Option (ℤ × Json) := do
  if m.isString && m.nameSpace = "urn:x-cast:com.google.cast.receiver" &&
      m.sourceId = "receiver-0" then
    let dict ← m.payload
    if dict.isObject then
      let requestId ← (dict.field "requestId").asInt?
      return (requestId, dict)
    else none
  else none

/-- `CastPlatformClient`. The map from receivers to sockets is in the order of its keys. -/
structure CastPlatformClient where
  now : ℤ := 0
  nextRequestId : ℤ := 0
  socketIdByReceiverId : List (String × ℤ) := []
  requests : Ledger AvailabilityRequest RequestOutcome := {}
  isAlive : Bool := true
  deriving DecidableEq, Repr

namespace CastPlatformClient

/-- `kRequestTimeout`, in microseconds. -/
def kRequestTimeout : ℤ := 5000000

variable (s : CastPlatformClient)

/-- `RequestAppAvailability(receiver_id, app_id, callback)`. -/
def requestAppAvailability (receiverId appId : String) : CastPlatformClient :=
  match s.socketIdByReceiverId.lookup receiverId with
  | none => { s with requests := s.requests.refuse (.invoked .unknown .unknownReceiver) }
  | some _ =>
    { s with
      nextRequestId := s.nextRequestId + 1
      requests := s.requests.issue
        { receiverId, requestId := s.nextRequestId, appId, deadline := s.now + kRequestTimeout } }

/-- `map[receiver_id] = socket_id`. -/
def assign (receiverId : String) (socketId : ℤ) : List (String × ℤ) → List (String × ℤ)
  | [] => [(receiverId, socketId)]
  | (key, value) :: rest =>
    if receiverId = key then (key, socketId) :: rest
    else if receiverId < key then (receiverId, socketId) :: (key, value) :: rest
    else (key, value) :: assign receiverId socketId rest

/-- `AddOrUpdateReceiver(receiver, socket_id)`. -/
def addOrUpdateReceiver (receiverId : String) (socketId : ℤ) : CastPlatformClient :=
  { s with socketIdByReceiverId := assign receiverId socketId s.socketIdByReceiverId }

/-- `RemoveReceiver(receiver)`. -/
def removeReceiver (s : CastPlatformClient) (receiverId : String) : CastPlatformClient :=
  { s with
    requests := s.requests.settleAll (·.receiverId = receiverId)
      fun _ => .invoked .unknown .removeReceiver
    socketIdByReceiverId := s.socketIdByReceiverId.filter (·.1 ≠ receiverId) }

/-- `CancelRequest(request_id)`. -/
def cancelRequest (requestId : ℤ) : CastPlatformClient :=
  { s with requests := s.requests.settleFirst (·.requestId = requestId) fun _ => .cancelled }

/-- The text that a response has for an application, if it has one. -/
def availabilityOf (message : Json) (appId : String) : Option String :=
  ((message.field "availability").field appId).tryParseString

/-- What `HandleResponse` does with the callback of the request that it finds. -/
def responseOutcome (message : Json) (fromReceiver : Bool) (r : AvailabilityRequest) :
    RequestOutcome :=
  match availabilityOf message r.appId with
  | some "APP_AVAILABLE" => .invoked .available (.response fromReceiver)
  | some "APP_UNAVAILABLE" => .invoked .unavailable (.response fromReceiver)
  | some _ => .invoked .unknown (.response fromReceiver)
  | none => .dropped

/-- The request that `HandleResponse` looks for. -/
def isRequest (receiverId : String) (requestId : ℤ) (r : AvailabilityRequest) : Bool :=
  r.receiverId = receiverId && r.requestId = requestId

/-- `HandleResponse(receiver_id, request_id, message)`, for a response from a socket. -/
def handleResponse (socketId : ℤ) (receiverId : String) (requestId : ℤ)
    (message : Json) : CastPlatformClient :=
  { s with
    requests := s.requests.settleFirst (isRequest receiverId requestId) fun r =>
      responseOutcome message (decide ((r.receiverId, socketId) ∈ s.socketIdByReceiverId)) r }

/-- `OnMessage(router, socket, message)`. The receiver is the first one with that socket. -/
def onMessage (socketId : ℤ) (message : PlatformMessage) : CastPlatformClient :=
  match message.response?, s.socketIdByReceiverId.find? (·.2 = socketId) with
  | some (requestId, dict), some (receiverId, _) =>
    s.handleResponse socketId receiverId requestId dict
  | _, _ => s

/-- Time passes. The alarms that are due run `CancelAppAvailabilityRequest` for their requests. -/
def advance (elapsed : ℕ) : CastPlatformClient :=
  { s with
    now := s.now + elapsed
    requests := s.requests.settleAll (·.deadline ≤ s.now + elapsed)
      fun _ => .invoked .unknown .timeout }

/-- `~CastPlatformClient()`. -/
def destroy : CastPlatformClient :=
  { s with
    isAlive := false
    requests := s.requests.settleAll (fun _ => true) fun _ => .invoked .unknown .destruction }

/-- What happens to a client. `nextRequestId` is that another client takes a request id. -/
inductive Event
  | requestAppAvailability (receiverId appId : String)
  | addOrUpdateReceiver (receiverId : String) (socketId : ℤ)
  | removeReceiver (receiverId : String)
  | cancelRequest (requestId : ℤ)
  | onMessage (socketId : ℤ) (message : PlatformMessage)
  | advance (elapsed : ℕ)
  | nextRequestId
  | destroy

/-- One event. Nothing happens to a client that was destroyed. -/
def step (event : Event) : Option CastPlatformClient :=
  if s.isAlive then
    match event with
    | .requestAppAvailability receiverId appId => some (s.requestAppAvailability receiverId appId)
    | .addOrUpdateReceiver receiverId socketId => some (s.addOrUpdateReceiver receiverId socketId)
    | .removeReceiver receiverId => some (s.removeReceiver receiverId)
    | .cancelRequest requestId => some (s.cancelRequest requestId)
    | .onMessage socketId message => some (s.onMessage socketId message)
    | .advance elapsed => some (s.advance elapsed)
    | .nextRequestId => some { s with nextRequestId := s.nextRequestId + 1 }
    | .destroy => some s.destroy
  else none

variable (events : List Event)

/-- A run of a new client. -/
def run : Option CastPlatformClient := events.foldlM step {}

theorem run_concat (event : Event) :
    run (events ++ [event]) = (run events).bind (step · event) := by
  simp [run, List.foldlM_append, Option.bind_eq_bind]

/-! ### What holds in every run -/

variable {s t : CastPlatformClient}

/-- Every callback is pending or settled, once; what is pending is of a client that exists, and for
five seconds at most; and a response is from the receiver. -/
structure Sound (s : CastPlatformClient) : Prop where
  balanced : s.requests.Balanced
  inTime : ∀ x ∈ s.requests.pending,
    s.isAlive = true ∧ s.now < x.2.deadline ∧ x.2.deadline ≤ s.now + kRequestTimeout
  fromReceiver : ∀ x ∈ s.requests.settled, ∀ result fromReceiver,
    x.2 = .invoked result (.response fromReceiver) → fromReceiver = true

/-- A step that settles requests, none of them by a response of another receiver, and that keeps the
clock. -/
theorem Sound.of_settles (h : s.Sound) (hbalanced : t.requests.Balanced)
    (hpending : ∀ x ∈ t.requests.pending, x ∈ s.requests.pending) (halive : t.isAlive = s.isAlive)
    (hnow : t.now = s.now)
    (hsettled : ∀ x ∈ t.requests.settled, x ∈ s.requests.settled ∨
      ∀ result, x.2 ≠ .invoked result (.response false)) : t.Sound where
  balanced := hbalanced
  inTime x hx := by
    rw [halive, hnow]
    exact h.inTime x (hpending x hx)
  fromReceiver x hx result fromReceiver heq := by
    rcases hsettled x hx with hx | hne
    · exact h.fromReceiver x hx result fromReceiver heq
    · cases fromReceiver with
      | true => rfl
      | false => exact absurd heq (hne result)

/-- A response that is recorded as from another receiver than the request's is none. -/
theorem responseOutcome_ne (message : Json) (r : AvailabilityRequest)
    (result : AppAvailabilityResult) :
    responseOutcome message true r ≠ .invoked result (.response false) := by
  unfold responseOutcome
  split <;> simp

theorem Sound.handleResponse (h : s.Sound) {socketId : ℤ} {receiverId : String} {other : ℤ}
    (hfind : s.socketIdByReceiverId.find? (·.2 = socketId) = some (receiverId, other))
    (requestId : ℤ) (dict : Json) :
    (s.handleResponse socketId receiverId requestId dict).Sound := by
  refine h.of_settles h.balanced.settleFirst (fun x hx => Ledger.mem_of_mem_settleFirst hx) rfl rfl
    fun x hx => (Ledger.mem_settled_settleFirst hx).imp_right ?_
  rintro ⟨r, hr, hx⟩ result
  -- the request is one of the receiver that the socket was looked up for
  obtain rfl : other = socketId := by simpa using List.find?_some hfind
  obtain ⟨hreceiver, -⟩ : r.receiverId = receiverId ∧ r.requestId = requestId := by
    simpa [isRequest] using hr
  have hmem : (r.receiverId, other) ∈ s.socketIdByReceiverId :=
    hreceiver ▸ List.mem_of_find?_eq_some hfind
  rw [hx, decide_eq_true hmem]
  exact responseOutcome_ne dict r result

theorem Sound.step (h : s.Sound) {event : Event} (hstep : s.step event = some t) : t.Sound := by
  unfold CastPlatformClient.step at hstep
  split_ifs at hstep with halive
  cases event with
  | requestAppAvailability receiverId appId =>
    cases hstep
    unfold requestAppAvailability
    split
    · exact h.of_settles (h.balanced.refuse _) (fun x hx => hx) rfl rfl (List.forall_mem_append.mpr
        ⟨fun x => .inl, List.forall_mem_singleton.mpr (.inr fun result => by simp)⟩)
    · exact ⟨h.balanced.issue _, List.forall_mem_append.mpr ⟨h.inTime, List.forall_mem_singleton.mpr
        ⟨halive, Int.lt_add_of_pos_right _ (by decide), Int.le_refl _⟩⟩, h.fromReceiver⟩
  | addOrUpdateReceiver receiverId socketId =>
    cases hstep
    exact { h with }
  | removeReceiver receiverId =>
    cases hstep
    refine h.of_settles h.balanced.settleAll
      (fun x hx => (Ledger.mem_pending_settleAll.mp hx).1) rfl rfl fun x hx => ?_
    exact (Ledger.mem_settled_settleAll hx).imp_right fun ⟨_, hx⟩ result => by rw [hx]; simp
  | cancelRequest requestId =>
    cases hstep
    refine h.of_settles h.balanced.settleFirst (fun x hx => Ledger.mem_of_mem_settleFirst hx) rfl
      rfl fun x hx => ?_
    exact (Ledger.mem_settled_settleFirst hx).imp_right fun ⟨_, _, hx⟩ result => by rw [hx]; simp
  | onMessage socketId message =>
    cases hstep
    unfold onMessage
    split
    · rename_i hfind
      exact h.handleResponse hfind _ _
    · exact h
  | advance elapsed =>
    cases hstep
    refine ⟨h.balanced.settleAll, fun x hx => ?_, fun x hx result fromReceiver heq => ?_⟩
    · obtain ⟨hmem, hlater⟩ := Ledger.mem_pending_settleAll.mp hx
      have hbefore := h.inTime x hmem
      have hdue : ¬x.2.deadline ≤ s.now + elapsed := by simpa using hlater
      refine ⟨halive, Int.not_le.mp hdue, ?_⟩
      simp only [advance]
      omega
    · rcases Ledger.mem_settled_settleAll hx with hx | ⟨r, hx⟩
      · exact h.fromReceiver x hx result fromReceiver heq
      · rw [hx] at heq
        cases heq
  | nextRequestId =>
    cases hstep
    exact { h with }
  | destroy =>
    cases hstep
    refine ⟨h.balanced.settleAll, fun x hx => ?_, fun x hx result fromReceiver heq => ?_⟩
    · exact absurd (Ledger.mem_pending_settleAll.mp hx).2 (by simp)
    · rcases Ledger.mem_settled_settleAll hx with hx | ⟨r, hx⟩
      · exact h.fromReceiver x hx result fromReceiver heq
      · rw [hx] at heq
        cases heq

/-- **In every run** each callback is pending or settled once, in time, and by its receiver. -/
theorem sound_run {events : List Event} (h : run events = some s) : s.Sound := by
  induction events using List.reverseRecOn generalizing s with
  | nil =>
    cases h
    exact ⟨Ledger.balanced_empty, by simp, by simp⟩
  | append_singleton events event ih =>
    rw [run_concat, Option.bind_eq_some_iff] at h
    obtain ⟨r, hr, hstep⟩ := h
    exact (ih hr).step hstep

/-! ### Callbacks that are invoked -/

/-- Every callback was invoked once, was cancelled, or is pending, for five seconds at most; none
left the list uninvoked, and a response that invoked it was from its receiver. -/
structure Completes (s : CastPlatformClient) : Prop where
  sound : s.Sound
  notDropped : ∀ x ∈ s.requests.settled, x.2 ≠ .dropped

/-- What an event has to meet: a response to a pending request of the receiver has a text for the
application that the request asks about. -/
def Meets (s : CastPlatformClient) : Event → Prop
  | .onMessage socketId message =>
    ∀ requestId dict receiverId other x, message.response? = some (requestId, dict) →
      s.socketIdByReceiverId.find? (·.2 = socketId) = some (receiverId, other) →
      s.requests.pending.find? (fun x => isRequest receiverId requestId x.2) = some x →
      (availabilityOf dict x.2.appId).isSome = true
  | _ => True

theorem responseOutcome_eq_dropped {message : Json} {fromReceiver : Bool}
    {r : AvailabilityRequest} :
    responseOutcome message fromReceiver r = .dropped ↔
      (availabilityOf message r.appId).isSome = false := by
  unfold responseOutcome
  split <;> simp_all

/-- Nothing is dropped by the other events. -/
theorem notDropped_of_settles (h : s.Completes) (hsound : t.Sound)
    (hsettled : ∀ x ∈ t.requests.settled, x ∈ s.requests.settled ∨ x.2 ≠ .dropped) :
    t.Completes :=
  ⟨hsound, fun x hx => (hsettled x hx).elim (h.notDropped x) id⟩

/-- A response invokes the callback of the request it finds iff it has a text for it. -/
theorem completes_handleResponse (h : s.Completes) {socketId requestId : ℤ} {receiverId : String}
    {dict : Json} (hsound : (s.handleResponse socketId receiverId requestId dict).Sound) :
    (s.handleResponse socketId receiverId requestId dict).Completes ↔
      ∀ x, s.requests.pending.find? (fun x => isRequest receiverId requestId x.2) = some x →
        (availabilityOf dict x.2.appId).isSome = true := by
  constructor
  · intro hcompletes x hfind
    by_contra hnone
    refine hcompletes.notDropped (x.1, .dropped) ?_ rfl
    obtain ⟨i, r⟩ := x
    simp only [handleResponse, Ledger.settleFirst, hfind]
    refine List.mem_append_right _ (List.mem_singleton.mpr ?_)
    rw [responseOutcome_eq_dropped.mpr (Bool.eq_false_iff.mpr hnone)]
  · intro hsome
    refine notDropped_of_settles h hsound fun x hx => ?_
    simp only [handleResponse, Ledger.settleFirst] at hx
    split at hx
    · exact .inl hx
    · rename_i i r hfind
      rcases List.mem_append.mp hx with hx | hx
      · exact .inl hx
      · rw [List.mem_singleton.mp hx]
        refine .inr fun hdropped => ?_
        have hnone := responseOutcome_eq_dropped.mp hdropped
        rw [hsome (i, r) hfind] at hnone
        cases hnone

/-- **One event.** After an event every callback is as it should be iff the event meets what it has
to. -/
theorem completes_step (h : s.Completes) {event : Event} (hstep : s.step event = some t) :
    t.Completes ↔ s.Meets event := by
  have hsound := h.sound.step hstep
  unfold CastPlatformClient.step at hstep
  split_ifs at hstep
  cases event with
  | requestAppAvailability receiverId appId =>
    cases hstep
    refine iff_of_true (notDropped_of_settles h hsound fun x hx => ?_) trivial
    unfold requestAppAvailability at hx
    split at hx
    · rcases List.mem_append.mp hx with hx | hx
      · exact .inl hx
      · rw [List.mem_singleton.mp hx]
        exact .inr (by simp)
    · exact .inl hx
  | addOrUpdateReceiver receiverId socketId =>
    cases hstep
    exact iff_of_true ⟨hsound, h.notDropped⟩ trivial
  | removeReceiver receiverId | advance elapsed | destroy =>
    cases hstep
    refine iff_of_true (notDropped_of_settles h hsound fun x hx => ?_) trivial
    exact (Ledger.mem_settled_settleAll hx).imp_right fun ⟨_, hx⟩ => by rw [hx]; simp
  | cancelRequest requestId =>
    cases hstep
    refine iff_of_true (notDropped_of_settles h hsound fun x hx => ?_) trivial
    exact (Ledger.mem_settled_settleFirst hx).imp_right fun ⟨_, _, hx⟩ => by rw [hx]; simp
  | onMessage socketId message =>
    cases hstep
    unfold Meets
    cases hresponse : message.response? with
    | none =>
      refine iff_of_true ⟨hsound, ?_⟩ (by simp [hresponse])
      simpa [onMessage, hresponse] using h.notDropped
    | some response =>
      obtain ⟨requestId, dict⟩ := response
      cases hfind : s.socketIdByReceiverId.find? (·.2 = socketId) with
      | none =>
        refine iff_of_true ⟨hsound, ?_⟩ (by simp [hfind])
        simpa [onMessage, hresponse, hfind] using h.notDropped
      | some entry =>
        obtain ⟨receiverId, other⟩ := entry
        have heq : s.onMessage socketId message =
            s.handleResponse socketId receiverId requestId dict := by
          simp [onMessage, hresponse, hfind]
        rw [heq] at hsound ⊢
        rw [completes_handleResponse h hsound]
        constructor
        · intro hsome _ _ _ _ x hresponse' hfind'
          obtain ⟨rfl, rfl⟩ : requestId = _ ∧ dict = _ := by simpa [hresponse] using hresponse'
          obtain ⟨rfl, -⟩ : receiverId = _ ∧ other = _ := by simpa [hfind] using hfind'
          exact hsome x
        · intro hsome x
          exact hsome requestId dict receiverId other x hresponse hfind
  | nextRequestId =>
    cases hstep
    exact iff_of_true ⟨hsound, h.notDropped⟩ trivial

/-- **Along a run every callback is as it should be, after every event, iff every response meets
what it has to.** -/
theorem completes_iff :
    (∀ before s, before <+: events → run before = some s → s.Completes) ↔
      ∀ before event s t, before ++ [event] <+: events → run before = some s →
        s.step event = some t → s.Meets event := by
  have hsound := sound_run (show run [] = some _ from rfl)
  exact forall_prefix_iff events (fun _ => id) ⟨hsound, by simp⟩ fun _ _ _ _ _ hs hstep =>
    iff_iff_implies_and_implies.mp (completes_step hs hstep)

/-- A receiver answers a request without the field `availability`. -/
def emptyResponse : List Event :=
  [.addOrUpdateReceiver "tv" 7, .requestAppAvailability "tv" "0F5096E8",
    .onMessage 7 ⟨true, "urn:x-cast:com.google.cast.receiver", "receiver-0",
      some (.object [("requestId", .number 0)])⟩,
    .advance 6000000, .destroy]

/-- The request is gone, and its callback is never invoked: not by the response, nor by the alarm,
nor by the destructor. -/
theorem not_completes_emptyResponse :
    ∃ s, run emptyResponse = some s ∧ ¬s.Completes ∧ s.requests.pending = [] ∧
      s.requests.settled = [(0, .dropped)] ∧ s.isAlive = false := by
  refine ⟨⟨6000000, 1, [("tv", 7)], ⟨1, [], [(0, .dropped)]⟩, false⟩, by decide +kernel, ?_, rfl,
    rfl, rfl⟩
  intro h
  exact h.notDropped (0, .dropped) List.mem_cons_self rfl

end CastPlatformClient

end StreamerPlus
