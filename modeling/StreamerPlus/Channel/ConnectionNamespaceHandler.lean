import StreamerPlus.Channel.VirtualConnectionRouter
import StreamerPlus.Lib.OneShot
import StreamerPlus.Lib.Run
import StreamerPlus.Util.Json

/-!
# `ConnectionNamespaceHandler`

The handler opens virtual connections to remote peers and answers for them
(`connection_namespace_handler.cc`). A request is pending from `OpenRemoteConnection` until the peer
answers it with CONNECTED or CLOSE, or `CloseRemoteConnection` gives it up; its callback is then
invoked, and the request is gone. The connections and the sockets are those of the router, which
other components use as well.

Two things go wrong. The router does not tell the handler of a socket that is closed or fails, so
what is pending on it stays pending; and a CONNECTED response is reported as a success even when
`AddConnection` of the router has lost the connection.

Left out are the messages that are sent, whose errors the handler ignores, and the fields of a
CONNECT request that only go into the associated data.

## Main results

* `balanced_run`: no callback is invoked twice, in any run.
* `answered_step`: what a step has to meet for its callbacks to be right.
* `answered_iff`: along a run all requests are answered as they should iff every step meets that.
-/

namespace StreamerPlus

open OneShot TransitionSystem

local instance neZero256Text : NeZero 256 := ⟨by decide⟩

/-- `kBroadcastId`, the text `*`. -/
def kBroadcastId : StdString := [42]

/-- A message of the connection namespace. The payload is missing when it is not a text, or no
JSON. -/
structure ConnectionMessage where
  sourceId : StdString
  destinationId : StdString
  payload : Option Json

/-- What a message asks for. -/
inductive ConnectionRequest
  | connect (value : Json)
  | close
  | connected

/-- The request of a message: broadcasts, and what is not of a known type, are ignored. -/
def ConnectionMessage.request (m : ConnectionMessage) : Option ConnectionRequest :=
  if m.destinationId = kBroadcastId ∨ m.sourceId = kBroadcastId then none
  else do
    let value ← m.payload
    match ← (value.field "type").tryParseString with
    | "CONNECT" => some (.connect value)
    | "CLOSE" => some .close
    | "CONNECTED" => some .connected
    | _ => none

/-- The connection that a message of a socket is about. -/
def ConnectionMessage.conn (m : ConnectionMessage) (socketId : ℤ) : VirtualConnection :=
  ⟨m.destinationId, m.sourceId, socketId⟩

/-- What a callback was invoked with, and whether the router had the connection then. -/
structure RemoteConnectionResult where
  result : Bool
  hasData : Bool
  deriving DecidableEq, Repr

/-- The policy, and the associated data of the connections that the handler adds. -/
structure ConnectionPolicy (δ : Type) where
  isConnectionAllowed : VirtualConnection → Bool
  connectData : Json → δ
  connectedData : δ

/-- `ConnectionNamespaceHandler` with its router. `requests.pending` is `pending_remote_requests_`;
`closed` are the sockets that were closed or have failed. -/
structure ConnectionNamespaceHandler (δ : Type) where
  router : VirtualConnectionRouter δ := .initial
  sockets : List ℤ := []
  closed : List ℤ := []
  requests : Ledger VirtualConnection RemoteConnectionResult := {}

namespace ConnectionNamespaceHandler

variable {δ : Type} (policy : ConnectionPolicy δ)

variable (s : ConnectionNamespaceHandler δ)

/-- `OpenRemoteConnection(conn, result_callback)`. The program stops if the connection exists. -/
def openRemoteConnection (conn : VirtualConnection) : Option (ConnectionNamespaceHandler δ) :=
  if (s.router.getConnectionData conn).isSome then none
  else some { s with requests := s.requests.issue conn }

/-- `RemoveConnection(conn, reason)`. -/
def removeConnection (s : ConnectionNamespaceHandler δ) (conn : VirtualConnection) :
    ConnectionNamespaceHandler δ :=
  let router := if (s.router.getConnectionData conn).isSome then (s.router.removeConnection conn).1
    else s.router
  { s with
    router
    requests := s.requests.settleFirst (· = conn) fun _ =>
      { result := false, hasData := (router.getConnectionData conn).isSome } }

/-- `HandleConnect(socket, message, parsed_message)`. -/
def handleConnect (conn : VirtualConnection) (value : Json) : ConnectionNamespaceHandler δ :=
  if !policy.isConnectionAllowed conn then s
  else if (value.field "connType").asInt?.any fun type => type < 0 || 2 < type then s
  else { s with router := s.router.addConnection conn (policy.connectData value) }

/-- `HandleConnectedResponse(socket, message, parsed_message)`. -/
def handleConnectedResponse (conn : VirtualConnection) : ConnectionNamespaceHandler δ :=
  if s.requests.finds (· = conn) then
    let router := s.router.addConnection conn policy.connectedData
    { s with
      router
      requests := s.requests.settleFirst (· = conn) fun _ =>
        { result := true, hasData := (router.getConnectionData conn).isSome } }
  else s

/-- `OnMessage(router, socket, message)`. -/
def onMessage (socketId : ℤ) (message : ConnectionMessage) : ConnectionNamespaceHandler δ :=
  match message.request with
  | none => s
  | some (.connect value) => s.handleConnect policy (message.conn socketId) value
  | some .close => s.removeConnection (message.conn socketId)
  | some .connected => s.handleConnectedResponse policy (message.conn socketId)

/-- `CloseSocket(id)` and `OnError(socket, error)` of the router, which differ in what they tell the
owner of the socket. -/
def dropSocket (id : ℤ) : ConnectionNamespaceHandler δ :=
  if id ∈ s.sockets then
    { s with
      router := s.router.removeConnectionsBySocketId id
      sockets := s.sockets.erase id
      closed := id :: s.closed }
  else s

/-- What happens to the handler and the router. -/
inductive Event (δ : Type)
  | openRemoteConnection (conn : VirtualConnection)
  | closeRemoteConnection (conn : VirtualConnection)
  | onMessage (socketId : ℤ) (message : ConnectionMessage)
  | takeSocket (id : ℤ)
  | closeSocket (id : ℤ)
  | onError (id : ℤ)
  | table (op : VirtualConnectionRouter.TableOp δ)

/-- One event. The other users of the router change its table. -/
def step (s : ConnectionNamespaceHandler δ) : Event δ → Option (ConnectionNamespaceHandler δ)
  | .openRemoteConnection conn => s.openRemoteConnection conn
  | .closeRemoteConnection conn => some (s.removeConnection conn)
  | .onMessage socketId message => some (s.onMessage policy socketId message)
  | .takeSocket id => some { s with sockets := id :: s.sockets }
  | .closeSocket id => some (s.dropSocket id)
  | .onError id => some (s.dropSocket id)
  | .table op => some { s with router := s.router.step op }

/-- A run from the start; it ends where the program stops. -/
def run (events : List (Event δ)) : Option (ConnectionNamespaceHandler δ) :=
  events.foldlM (step policy) {}

theorem run_concat (events : List (Event δ)) (event : Event δ) :
    run policy (events ++ [event]) = (run policy events).bind (step policy · event) := by
  simp [run, List.foldlM_append, Option.bind_eq_bind]

/-! ### At most one result -/

variable {policy} {s t : ConnectionNamespaceHandler δ}

theorem handleConnect_requests (conn : VirtualConnection) (value : Json) :
    (s.handleConnect policy conn value).requests = s.requests ∧
      (s.handleConnect policy conn value).closed = s.closed := by
  unfold handleConnect
  split_ifs <;> exact ⟨rfl, rfl⟩

/-- What an event does to the requests: a new one, a result for one, or nothing. -/
theorem balanced_step (h : s.requests.Balanced) {event : Event δ}
    (hstep : s.step policy event = some t) : t.requests.Balanced := by
  cases event with
  | openRemoteConnection conn =>
    simp only [step, openRemoteConnection] at hstep
    split_ifs at hstep
    cases hstep
    exact h.issue conn
  | closeRemoteConnection conn =>
    cases hstep
    exact h.settleFirst
  | onMessage socketId message =>
    cases hstep
    unfold onMessage
    split
    · exact h
    · rwa [(handleConnect_requests _ _).1]
    · exact h.settleFirst
    · unfold handleConnectedResponse
      split_ifs
      · exact h.settleFirst
      · exact h
  | takeSocket id =>
    cases hstep
    exact h
  | closeSocket id | onError id =>
    cases hstep
    unfold dropSocket
    split_ifs <;> exact h
  | table op =>
    cases hstep
    exact h

theorem balanced_run {events : List (Event δ)} (h : run policy events = some s) :
    s.requests.Balanced := by
  induction events using List.reverseRecOn generalizing s with
  | nil =>
    cases h
    exact Ledger.balanced_empty
  | append_singleton events event ih =>
    rw [run_concat, Option.bind_eq_some_iff] at h
    obtain ⟨r, hr, hstep⟩ := h
    exact balanced_step (ih hr) hstep

/-! ### The right result -/

/-- No callback was invoked twice, none was told of a connection that was not there, and no request
waits for a socket that is gone. -/
structure Answered (s : ConnectionNamespaceHandler δ) : Prop where
  once : (s.requests.settled.map Prod.fst).Nodup
  connected : ∀ x ∈ s.requests.settled, x.2.result = true → x.2.hasData = true
  notClosed : ∀ x ∈ s.requests.pending, x.2.socketId ∉ s.closed

/-- What an event has to meet. A request is for a socket that is not gone; a CONNECTED response
comes when the socket has no connection of a greater local id, unless the connection exists; and
nothing is pending on a socket that is dropped. -/
def Meets (s : ConnectionNamespaceHandler δ) : Event δ → Prop
  | .openRemoteConnection conn => conn.socketId ∉ s.closed
  | .onMessage socketId message =>
    message.request = some .connected → s.requests.finds (· = message.conn socketId) = true →
      s.router.getConnectionData (message.conn socketId) = none →
      ∀ c : VirtualConnection, c.socketId = socketId → message.destinationId < c.localId →
        s.router.getConnectionData c = none
  | .closeSocket id | .onError id =>
    id ∈ s.sockets → ∀ x ∈ s.requests.pending, x.2.socketId ≠ id
  | .closeRemoteConnection _ | .takeSocket _ | .table _ => True

/-- An event that adds no result but failures, no request and no closed socket changes nothing. -/
theorem Answered.of_failures (h : s.Answered) (hbalanced : t.requests.Balanced)
    (hsettled : ∀ x ∈ t.requests.settled, x ∈ s.requests.settled ∨ x.2.result = false)
    (hpending : ∀ x ∈ t.requests.pending, x ∈ s.requests.pending) (hclosed : t.closed = s.closed) :
    t.Answered where
  once := hbalanced.nodup_settled
  connected x hx htrue := by
    rcases hsettled x hx with hx | hfalse
    · exact h.connected x hx htrue
    · rw [hfalse] at htrue
      cases htrue
  notClosed x hx := by
    rw [hclosed]
    exact h.notClosed x (hpending x hx)

theorem Answered.removeConnection (h : s.Answered) (hbalanced : s.requests.Balanced)
    (conn : VirtualConnection) : (s.removeConnection conn).Answered := by
  refine h.of_failures hbalanced.settleFirst (fun x hx => ?_)
    (fun x hx => Ledger.mem_of_mem_settleFirst hx) rfl
  exact (Ledger.mem_settled_settleFirst hx).imp_right fun ⟨_, _, hr⟩ => by rw [hr]

/-- The router has the connection after `AddConnection` iff it had it or nothing was in the way. -/
theorem isSome_getConnectionData_addConnection (router : VirtualConnectionRouter δ)
    (conn : VirtualConnection) (data : δ) :
    ((router.addConnection conn data).getConnectionData conn).isSome = true ↔
      (router.getConnectionData conn = none → ∀ c : VirtualConnection,
        c.socketId = conn.socketId → conn.localId < c.localId →
          router.getConnectionData c = none) := by
  rw [VirtualConnectionRouter.getConnectionData_addConnection,
    ← VirtualConnectionRouter.endsAtEnd_iff]
  cases hdata : router.getConnectionData conn with
  | some d => simp
  | none => by_cases hend : router.endsAtEnd conn <;> simp [hend]

/-- A CONNECTED response is answered rightly iff the connection is then there. -/
theorem answered_handleConnectedResponse (h : s.Answered) (hbalanced : s.requests.Balanced)
    (conn : VirtualConnection) :
    (s.handleConnectedResponse policy conn).Answered ↔
      (s.requests.finds (· = conn) = true → s.router.getConnectionData conn = none →
        ∀ c : VirtualConnection, c.socketId = conn.socketId → conn.localId < c.localId →
          s.router.getConnectionData c = none) := by
  unfold handleConnectedResponse
  split_ifs with hfinds
  · simp only [hfinds, forall_const]
    rw [← isSome_getConnectionData_addConnection s.router conn policy.connectedData]
    obtain ⟨before, i, r, after, hl, -, heq⟩ := Ledger.exists_settleFirst hfinds fun _ =>
      RemoteConnectionResult.mk true
        ((s.router.addConnection conn policy.connectedData).getConnectionData conn).isSome
    constructor
    · intro hanswered
      refine hanswered.connected (i, ⟨true, _⟩) ?_ rfl
      rw [heq]
      exact List.mem_append_right _ (List.mem_singleton.mpr rfl)
    · intro hdata
      refine ⟨(hbalanced.settleFirst).nodup_settled, fun x hx htrue => ?_, fun x hx => ?_⟩
      · rcases Ledger.mem_settled_settleFirst hx with hx | ⟨r, -, hr⟩
        · exact h.connected x hx htrue
        · rw [hr]
          exact hdata
      · exact h.notClosed x (Ledger.mem_of_mem_settleFirst hx)
  · exact ⟨fun _ hfalse => absurd hfalse hfinds, fun _ => h⟩

/-- Nothing is left behind on a dropped socket iff nothing was pending on it. -/
theorem answered_dropSocket (h : s.Answered) (id : ℤ) :
    (s.dropSocket id).Answered ↔
      (id ∈ s.sockets → ∀ x ∈ s.requests.pending, x.2.socketId ≠ id) := by
  unfold dropSocket
  split_ifs with hid
  · simp only [hid, forall_const]
    constructor
    · intro hanswered x hx heq
      exact hanswered.notClosed x hx (heq ▸ List.mem_cons_self)
    · intro hnone
      refine ⟨h.once, h.connected, fun x hx hmem => ?_⟩
      rcases List.mem_cons.mp hmem with heq | hmem
      · exact hnone x hx heq
      · exact h.notClosed x hx hmem
  · exact ⟨fun _ hmem => absurd hmem hid, fun _ => h⟩

/-- **One event.** After an event all requests are answered rightly, as before, iff the event meets
what it has to. -/
theorem answered_step (h : s.Answered) (hbalanced : s.requests.Balanced) {event : Event δ}
    (hstep : s.step policy event = some t) : t.Answered ↔ s.Meets event := by
  cases event with
  | openRemoteConnection conn =>
    have hbalanced' := balanced_step hbalanced hstep
    simp only [step, openRemoteConnection] at hstep
    split_ifs at hstep
    cases hstep
    constructor
    · intro hanswered
      exact hanswered.notClosed (s.requests.issued, conn) (by simp [Ledger.issue])
    · intro hclosed
      exact ⟨hbalanced'.nodup_settled, h.connected, List.forall_mem_append.mpr
        ⟨h.notClosed, List.forall_mem_singleton.mpr hclosed⟩⟩
  | closeRemoteConnection conn =>
    cases hstep
    exact iff_of_true (h.removeConnection hbalanced conn) trivial
  | onMessage socketId message =>
    cases hstep
    unfold onMessage Meets
    cases hrequest : message.request with
    | none => exact iff_of_true h (by simp [hrequest])
    | some request =>
      cases request with
      | connect value =>
        obtain ⟨hrequests, hclosed⟩ := handleConnect_requests (s := s)
          (message.conn socketId) value
        refine iff_of_true (h.of_failures ?_ ?_ ?_ hclosed) (by simp [hrequest])
        · rwa [hrequests]
        · exact fun x hx => .inl (hrequests ▸ hx)
        · exact fun x hx => hrequests ▸ hx
      | close => exact iff_of_true (h.removeConnection hbalanced _) (by simp [hrequest])
      | connected =>
        refine (answered_handleConnectedResponse h hbalanced _).trans ?_
        simp [hrequest, ConnectionMessage.conn]
  | takeSocket id =>
    cases hstep
    exact iff_of_true { h with } trivial
  | closeSocket id | onError id =>
    cases hstep
    exact answered_dropSocket h id
  | table op =>
    cases hstep
    exact iff_of_true { h with } trivial

/-- **Along a run all requests are answered as they should, after every event, iff every event meets
what it has to.** -/
theorem answered_iff (policy : ConnectionPolicy δ) (events : List (Event δ)) :
    (∀ before s, before <+: events → run policy before = some s → s.Answered) ↔
      ∀ before event s t, before ++ [event] <+: events → run policy before = some s →
        s.step policy event = some t → s.Meets event :=
  forall_prefix_iff events (fun _ => id) ⟨List.nodup_nil, by simp, by simp⟩
    fun _ _ _ _ hrun hs hstep =>
      iff_iff_implies_and_implies.mp (answered_step hs (balanced_run hrun) hstep)

/-- A policy that allows everything. -/
def openPolicy : ConnectionPolicy Unit where
  isConnectionAllowed _ := true
  connectData _ := ()
  connectedData := ()

/-- The socket of a request is closed while it is pending. -/
def closedWhilePending : List (Event Unit) :=
  [.takeSocket 1, .openRemoteConnection ⟨[97], [112], 1⟩, .closeSocket 1]

/-- The peer answers a request on a socket that has a connection of a greater local id. -/
def connectedBelow : List (Event Unit) :=
  [.takeSocket 1, .table (.add ⟨[98], [112], 1⟩ ()), .openRemoteConnection ⟨[97], [112], 1⟩,
    .onMessage 1 ⟨[112], [97], some (.object [("type", .string "CONNECTED")])⟩]

/-- The request stays pending on the closed socket; and the other callback is told of a success that
the router knows nothing of. -/
theorem not_answered_closed_connectedBelow :
    (∃ s, run openPolicy closedWhilePending = some s ∧ ¬ s.Answered ∧
      s.requests.settled = [] ∧ s.closed = [1]) ∧
      ∃ s, run openPolicy connectedBelow = some s ∧ ¬ s.Answered ∧
        s.requests.settled = [(0, ⟨true, false⟩)] := by
  constructor
  · refine ⟨_, rfl, fun h => ?_, rfl, rfl⟩
    exact h.notClosed (0, ⟨[97], [112], 1⟩) List.mem_cons_self List.mem_cons_self
  · refine ⟨_, rfl, fun h => ?_, by decide⟩
    exact absurd (h.connected (0, ⟨true, false⟩) (by decide) rfl) (by decide)

end ConnectionNamespaceHandler

end StreamerPlus
