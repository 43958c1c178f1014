import Mathlib.Tactic
import StreamerPlus.Lib.Outcome
import StreamerPlus.Lib.Run

/-!
# The connection tables of a QUIC service

`QuicServiceBase` (`quic_service_base.cc`) keeps its connections by instance name until their
handshake is complete, and then by an id that it counts up; `instance_map_` has the ids of the
names. When a connection closes its entries stay for another 500 ms, and are then removed by name.
`Stop` closes all connections and lets the ids start again, but removes nothing. Connections are
added as pending by `QuicClient::Connect` (`quic_client.cc`) and `QuicServer::OnIncomingConnection`
(`quic_server.cc`), and `CancelConnectRequest` erases one that no request waits for any more.

Connections are numbers here that are never used again. The state also has the connection that each
cleanup was scheduled for, and a history of what was stored and removed. A connection that `Stop`
closes reports that first, which is a step of its own. Requests, streams and the observer are left
out. Times are in microseconds.

## Main results

* `consistent_iff`: the tables stay consistent exactly in the runs in which a handshake is only
  completed for a new name with a new id, and a cleanup only finds the connection that closed.
* `not_consistent_restart`, a quick restart and a quick reconnect.
-/

namespace StreamerPlus.Osp

open Checked TransitionSystem

/-- `ProtocolConnectionEndpoint::State`. -/
inductive EndpointState
  | stopped | running | suspended
  deriving DecidableEq, Repr

/-- What was stored and removed: the id that a completed handshake returned, the connection, and
what is stored under the id; and a connection that was removed because another one, or the same one,
closed. -/
inductive QuicEvent
  | completed (id connection : ℕ) (stored : Option ℕ)
  | removed (closed connection : ℕ)
  deriving DecidableEq, Repr

/-- `QuicServiceBase`. -/
structure QuicServiceBase where
  state : EndpointState := .stopped
  instanceMap : String → Option ℕ := fun _ => none
  pendingConnections : String → Option ℕ := fun _ => none
  nextInstanceId : ℕ := 1
  connections : ℕ → Option ℕ := fun _ => none
  cleanupAlarms : String → Option (ℕ × ℤ) := fun _ => none
  instanceNames : ℕ → Option String := fun _ => none
  nextConnection : ℕ := 0
  events : List QuicEvent := []

/-- What happens to a service. -/
inductive QuicOp
  | addPending (instanceName : String)
  | cancelPending (instanceName : String)
  | handshakeComplete (instanceName : String)
  | closed (connection : ℕ) (now : ℤ)
  | cleanup (instanceName : String) (now : ℤ)
  | start | stop | suspend | resume
  deriving DecidableEq, Repr

/-- What is not a step: the report of a connection that never was, and an alarm that is not due. -/
inductive QuicFault
  | noConnection | noAlarm
  deriving DecidableEq, Repr

/-- `emplace`, which keeps an old entry. -/
def emplace {α β : Type} [DecidableEq α] (m : α → Option β) (a : α) (b : β) : α → Option β :=
  if m a = none then Function.update m a (some b) else m

namespace QuicServiceBase

variable (s : QuicServiceBase)

variable (instanceName : String)

/-- `pending_connections_.emplace`, for a new connection. -/
def addPending : QuicServiceBase :=
  if s.state ≠ .running then s
  else { s with
    pendingConnections := emplace s.pendingConnections instanceName s.nextConnection
    instanceNames := Function.update s.instanceNames s.nextConnection (some instanceName)
    nextConnection := s.nextConnection + 1 }

/-- `pending_connections_.erase`, after the last request for a connection was cancelled. The
connection goes without a report that it closed. -/
def cancelPending : QuicServiceBase :=
  { s with pendingConnections := Function.update s.pendingConnections instanceName none }

/-- `OnCryptoHandshakeComplete(instance_name)`, with the id that it returns. -/
def onCryptoHandshakeComplete : ℕ × QuicServiceBase :=
  if s.state ≠ .running then (0, s)
  else
    match s.pendingConnections instanceName with
    | none => (0, s)
    | some connection =>
      let id := s.nextInstanceId
      let connections := emplace s.connections id connection
      (id, { s with
        pendingConnections := Function.update s.pendingConnections instanceName none
        nextInstanceId := id + 1
        instanceMap := emplace s.instanceMap instanceName id
        connections
        events := s.events ++ [.completed id connection (connections id)] })

/-- `kQuicCleanupDelay`. -/
def kQuicCleanupDelay : ℤ := 500000

/-- `OnConnectionClosed(instance_name)`, of a connection. -/
def onConnectionClosed (connection : ℕ) (now : ℤ) : QuicServiceBase :=
  if s.state ≠ .running then s
  else if s.pendingConnections instanceName = none ∧
      ((s.instanceMap instanceName).bind s.connections) = none then s
  else { s with
    cleanupAlarms := emplace s.cleanupAlarms instanceName (connection, now + kQuicCleanupDelay) }

/-- The first part of `Cleanup(instance_name)`, because a connection was closed. -/
def removePending (closed : ℕ) : QuicServiceBase :=
  match s.pendingConnections instanceName with
  | none => s
  | some connection => { s with
      pendingConnections := Function.update s.pendingConnections instanceName none
      events := s.events ++ [QuicEvent.removed closed connection] }

/-- The second part. -/
def removeEstablished (closed : ℕ) : QuicServiceBase :=
  match s.instanceMap instanceName with
  | none => s
  | some id =>
    match s.connections id with
    | none => s
    | some connection => { s with
        instanceMap := Function.update s.instanceMap instanceName none
        connections := Function.update s.connections id none
        events := s.events ++ [QuicEvent.removed closed connection] }

/-- `Cleanup(instance_name)`. -/
def cleanup (closed : ℕ) : QuicServiceBase :=
  ({ s with cleanupAlarms := Function.update s.cleanupAlarms instanceName none }.removePending
    instanceName closed).removeEstablished instanceName closed

/-- One step. -/
def step : QuicOp → Except QuicFault QuicServiceBase
  | .addPending instanceName => .ok (s.addPending instanceName)
  | .cancelPending instanceName => .ok (s.cancelPending instanceName)
  | .handshakeComplete instanceName => .ok (s.onCryptoHandshakeComplete instanceName).2
  | .closed connection now =>
    match s.instanceNames connection with
    | none => .error .noConnection
    | some instanceName => .ok (s.onConnectionClosed instanceName connection now)
  | .cleanup instanceName now =>
    match s.cleanupAlarms instanceName with
    | none => .error .noAlarm
    | some (closed, due) =>
      if now < due then .error .noAlarm else .ok (s.cleanup instanceName closed)
  -- `StartImpl`, `StopImpl` with `CloseAllConnections`, `SuspendImpl` and `ResumeImpl`
  | .start => .ok (if s.state = .stopped then { s with state := .running } else s)
  | .stop =>
    .ok (if s.state = .stopped then s else { s with state := .stopped, nextInstanceId := 1 })
  | .suspend => .ok (if s.state = .running then { s with state := .suspended } else s)
  | .resume => .ok (if s.state = .suspended then { s with state := .running } else s)

/-- The tables are consistent: a bijection between the names and the ids of the established
connections, each under its own name; and completed connections were stored under the ids that were
returned, and only connections that closed were removed. -/
structure Consistent : Prop where
  injective : ∀ name name' id, s.instanceMap name = some id → s.instanceMap name' = some id →
    name = name'
  established : ∀ name id, s.instanceMap name = some id →
    ∃ c, s.connections id = some c ∧ s.instanceNames c = some name
  named : ∀ id, s.connections id ≠ none → ∃ name, s.instanceMap name = some id
  stored : ∀ id c stored, .completed id c stored ∈ s.events → stored = some c
  removed : ∀ closed c, .removed closed c ∈ s.events → closed = c

/-- The condition of a step: a handshake is completed for a name that is not established, with an id
that is not in use, and a cleanup finds only the connection that it was scheduled for. -/
def IsFresh : QuicOp → Prop
  | .handshakeComplete instanceName =>
    s.state = .running → s.pendingConnections instanceName ≠ none →
      s.instanceMap instanceName = none ∧ s.connections s.nextInstanceId = none
  | .cleanup instanceName _ =>
    ∀ closed due, s.cleanupAlarms instanceName = some (closed, due) →
      (∀ c ∈ s.pendingConnections instanceName, c = closed) ∧
        ∀ id ∈ s.instanceMap instanceName, ∀ c ∈ s.connections id, c = closed
  | _ => True

/-! ### What the steps keep -/

/-- The tables are consistent, pending connections are known by their name and are not established,
and new connections are in no table. -/
structure Invariant : Prop extends Consistent s where
  pending : ∀ name c, s.pendingConnections name = some c →
    s.instanceNames c = some name ∧ ∀ id, s.connections id ≠ some c
  fresh : ∀ c, s.nextConnection ≤ c → s.instanceNames c = none

variable {s} {t : QuicServiceBase} {instanceName : String} {closed : ℕ}

theorem emplace_of_none {α β : Type} [DecidableEq α] {m : α → Option β} {a : α} (b : β)
    (h : m a = none) : emplace m a b = Function.update m a (some b) := if_pos h

theorem emplace_of_some {α β : Type} [DecidableEq α] {m : α → Option β} {a : α} (b : β)
    (h : m a ≠ none) : emplace m a b = m := if_neg h

theorem Invariant.addPending (h : s.Invariant) (instanceName : String) :
    (s.addPending instanceName).Invariant := by
  unfold QuicServiceBase.addPending
  split_ifs with hstate
  · exact h
  -- the new connection is in no table yet
  have hnew : ∀ c name, s.instanceNames c = some name →
      Function.update s.instanceNames s.nextConnection (some instanceName) c = some name := by
    intro c name hc
    rw [Function.update_of_ne ?_, hc]
    rintro rfl
    rw [h.fresh _ le_rfl] at hc
    cases hc
  have hadded : ∀ id, s.connections id ≠ some s.nextConnection := by
    intro id hid
    obtain ⟨name, hname⟩ := h.named id (by simp [hid])
    obtain ⟨c, hc, hcname⟩ := h.established name id hname
    obtain rfl := Option.some.inj (hid.symm.trans hc)
    rw [h.fresh _ le_rfl] at hcname
    cases hcname
  refine ⟨⟨h.injective, fun name id hid => ?_, h.named, h.stored, h.removed⟩, fun name c hc => ?_,
    fun c hc => ?_⟩
  · obtain ⟨c, hc, hname⟩ := h.established name id hid
    exact ⟨c, hc, hnew c name hname⟩
  · dsimp only at hc ⊢
    by_cases hold : s.pendingConnections instanceName = none
    · rw [emplace_of_none _ hold] at hc
      by_cases hname : name = instanceName
      · rw [hname, Function.update_self] at hc
        cases hc
        exact ⟨by rw [Function.update_self, hname], hadded⟩
      · rw [Function.update_of_ne hname] at hc
        exact ⟨hnew c name (h.pending name c hc).1, (h.pending name c hc).2⟩
    · rw [emplace_of_some _ hold] at hc
      exact ⟨hnew c name (h.pending name c hc).1, (h.pending name c hc).2⟩
  · dsimp only at hc ⊢
    rw [Function.update_of_ne (by omega)]
    exact h.fresh c (by omega)

theorem Invariant.cancelPending (h : s.Invariant) (instanceName : String) :
    (s.cancelPending instanceName).Invariant := by
  refine { h with pending := fun name c hc => ?_ }
  simp only [QuicServiceBase.cancelPending, Function.update_apply] at hc
  split_ifs at hc
  exact h.pending name c hc

/-- A completed handshake. -/
theorem onCryptoHandshakeComplete_of_pending {c : ℕ} (hstate : s.state = .running)
    (hc : s.pendingConnections instanceName = some c) :
    (s.onCryptoHandshakeComplete instanceName).2 = { s with
      pendingConnections := Function.update s.pendingConnections instanceName none
      nextInstanceId := s.nextInstanceId + 1
      instanceMap := emplace s.instanceMap instanceName s.nextInstanceId
      connections := emplace s.connections s.nextInstanceId c
      events := s.events ++ [.completed s.nextInstanceId c
        (emplace s.connections s.nextInstanceId c s.nextInstanceId)] } := by
  rw [onCryptoHandshakeComplete, if_neg (not_not.mpr hstate), hc]

theorem Invariant.handshakeComplete (h : s.Invariant)
    (hfresh : s.IsFresh (.handshakeComplete instanceName)) :
    (s.onCryptoHandshakeComplete instanceName).2.Invariant := by
  by_cases hstate : s.state = .running
  · cases hc : s.pendingConnections instanceName with
    | none =>
      rw [onCryptoHandshakeComplete, if_neg (not_not.mpr hstate), hc]
      exact h
    | some c =>
      obtain ⟨hname, hid⟩ := hfresh hstate (by simp [hc])
      rw [onCryptoHandshakeComplete_of_pending hstate hc, emplace_of_none _ hname,
        emplace_of_none _ hid]
      obtain ⟨hcname, hcid⟩ := h.pending instanceName c hc
      -- no name has the new id yet
      have hunused : ∀ name, s.instanceMap name ≠ some s.nextInstanceId := by
        intro name hmap
        obtain ⟨c', hc', -⟩ := h.established name _ hmap
        rw [hid] at hc'
        cases hc'
      refine ⟨⟨fun name name' id h₁ h₂ => ?_, fun name id h₁ => ?_, fun id h₁ => ?_,
        fun id c' stored hmem => ?_, fun closed c' hmem => ?_⟩, fun name c' h₁ => ?_, h.fresh⟩
      · simp only [Function.update_apply] at h₁ h₂
        split_ifs at h₁ h₂ with hn hn' hn'
        · rw [hn, hn']
        · exact absurd (h₂.trans h₁.symm) (hunused name')
        · exact absurd (h₁.trans h₂.symm) (hunused name)
        · exact h.injective name name' id h₁ h₂
      · simp only [Function.update_apply] at h₁ ⊢
        split_ifs at h₁ with hn
        · cases h₁
          exact ⟨c, if_pos rfl, hn ▸ hcname⟩
        · obtain ⟨c', hc', hname'⟩ := h.established name id h₁
          refine ⟨c', ?_, hname'⟩
          rw [if_neg ?_, hc']
          rintro rfl
          exact hunused name h₁
      · simp only [Function.update_apply] at h₁ ⊢
        split_ifs at h₁ with hn
        · exact ⟨instanceName, by rw [if_pos rfl, hn]⟩
        · obtain ⟨name, hmap⟩ := h.named id h₁
          refine ⟨name, ?_⟩
          rw [if_neg (fun heq => by rw [heq, hname] at hmap; cases hmap), hmap]
      · rcases List.mem_append.mp hmem with hmem | hmem
        · exact h.stored id c' stored hmem
        · simp only [List.mem_singleton, QuicEvent.completed.injEq] at hmem
          rw [hmem.2.2, hmem.2.1, Function.update_self]
      · rcases List.mem_append.mp hmem with hmem | hmem
        · exact h.removed closed c' hmem
        · simp at hmem
      · simp only [Function.update_apply] at h₁ ⊢
        split_ifs at h₁ with hn
        obtain ⟨hname', hid'⟩ := h.pending name c' h₁
        refine ⟨hname', fun id hid'' => ?_⟩
        split_ifs at hid'' with hnext
        · -- then two names are those of one connection
          obtain rfl := Option.some.inj hid''
          exact hn (Option.some.inj (hname'.symm.trans hcname))
        · exact hid' id hid''
  · rw [onCryptoHandshakeComplete, if_pos hstate]
    exact h

/-- A handshake that is completed for an established name, or with an id in use. -/
theorem not_consistent_handshakeComplete (h : s.Invariant)
    (hfresh : ¬s.IsFresh (.handshakeComplete instanceName)) :
    ¬(s.onCryptoHandshakeComplete instanceName).2.Consistent := by
  intro hconsistent
  simp only [IsFresh, Classical.not_imp] at hfresh
  obtain ⟨hstate, hpending, hused⟩ := hfresh
  obtain ⟨c, hc⟩ := Option.ne_none_iff_exists'.mp hpending
  rw [onCryptoHandshakeComplete_of_pending hstate hc] at hconsistent
  by_cases hid : s.connections s.nextInstanceId = none
  · -- the new connection has no name
    have hname : s.instanceMap instanceName ≠ none := fun hname => hused ⟨hname, hid⟩
    obtain ⟨name, hmap⟩ := hconsistent.named s.nextInstanceId
      (by simp [emplace_of_none _ hid])
    dsimp only at hmap
    rw [emplace_of_some _ hname] at hmap
    obtain ⟨c', hc', -⟩ := h.established name _ hmap
    rw [hid] at hc'
    cases hc'
  · -- what is stored under its id is another connection
    have hstored := hconsistent.stored s.nextInstanceId c _ (List.mem_append_right _
      (List.mem_singleton_self _))
    rw [emplace_of_some _ hid] at hstored
    exact (h.pending instanceName c hc).2 s.nextInstanceId hstored

/-- Removed connections were added to the history. -/
theorem Consistent.stored_append (h : s.Consistent) {connection : ℕ} :
    ∀ id c stored, .completed id c stored ∈ s.events ++ [.removed closed connection] →
      stored = some c := by
  intro id c stored hmem
  rcases List.mem_append.mp hmem with hmem | hmem
  · exact h.stored id c stored hmem
  · simp at hmem

theorem Consistent.removed_append (h : s.Consistent) {connection : ℕ} (heq : connection = closed) :
    ∀ closed' c, .removed closed' c ∈ s.events ++ [.removed closed connection] → closed' = c := by
  intro closed' c hmem
  rcases List.mem_append.mp hmem with hmem | hmem
  · exact h.removed closed' c hmem
  · simp only [List.mem_singleton, QuicEvent.removed.injEq] at hmem
    rw [hmem.1, hmem.2, heq]

theorem Invariant.removePending (h : s.Invariant)
    (hclosed : ∀ c ∈ s.pendingConnections instanceName, c = closed) :
    (s.removePending instanceName closed).Invariant := by
  unfold QuicServiceBase.removePending
  cases hc : s.pendingConnections instanceName with
  | none => exact h
  | some c =>
    exact { h.cancelPending instanceName with
      stored := h.stored_append
      removed := h.removed_append (hclosed c hc) }

theorem Invariant.removeEstablished (h : s.Invariant)
    (hclosed : ∀ id ∈ s.instanceMap instanceName, ∀ c ∈ s.connections id, c = closed) :
    (s.removeEstablished instanceName closed).Invariant := by
  unfold QuicServiceBase.removeEstablished
  cases hid : s.instanceMap instanceName with
  | none => exact h
  | some id =>
    obtain ⟨c, hc, -⟩ := h.established instanceName id hid
    simp only [hc]
    refine ⟨⟨fun name name' id' h₁ h₂ => ?_, fun name id' h₁ => ?_, fun id' h₁ => ?_,
      h.stored_append, h.removed_append (hclosed id hid c hc)⟩, fun name c' h₁ => ?_, h.fresh⟩
    · simp only [Function.update_apply] at h₁ h₂
      split_ifs at h₁ h₂
      exact h.injective name name' id' h₁ h₂
    · simp only [Function.update_apply] at h₁ ⊢
      split_ifs at h₁ with hn
      obtain ⟨c', hc', hname⟩ := h.established name id' h₁
      refine ⟨c', ?_, hname⟩
      rw [if_neg ?_, hc']
      rintro rfl
      exact hn (h.injective name instanceName id' h₁ hid)
    · simp only [Function.update_apply] at h₁ ⊢
      split_ifs at h₁ with hn
      · exact absurd rfl h₁
      · obtain ⟨name, hmap⟩ := h.named id' h₁
        refine ⟨name, ?_⟩
        rw [if_neg ?_, hmap]
        rintro rfl
        exact hn (Option.some.inj (hmap.symm.trans hid))
    · obtain ⟨hname, hother⟩ := h.pending name c' h₁
      refine ⟨hname, fun id' h₂ => ?_⟩
      simp only [Function.update_apply] at h₂
      split_ifs at h₂
      exact hother id' h₂

/-- The first part does not touch what the second one reads. -/
theorem removePending_tables : (s.removePending instanceName closed).instanceMap = s.instanceMap ∧
    (s.removePending instanceName closed).connections = s.connections := by
  unfold QuicServiceBase.removePending
  split <;> exact ⟨rfl, rfl⟩

theorem Invariant.cleanup (h : s.Invariant)
    (hpending : ∀ c ∈ s.pendingConnections instanceName, c = closed)
    (hestablished : ∀ id ∈ s.instanceMap instanceName, ∀ c ∈ s.connections id, c = closed) :
    (s.cleanup instanceName closed).Invariant := by
  have halarm : { s with
      cleanupAlarms := Function.update s.cleanupAlarms instanceName none }.Invariant := { h with }
  refine (halarm.removePending hpending).removeEstablished ?_
  rw [removePending_tables.1, removePending_tables.2]
  exact hestablished

/-- The connections that a cleanup removes are in the history. -/
theorem removed_mem_cleanup {c : ℕ} (hc : c ∈ s.pendingConnections instanceName ∨
      ∃ id ∈ s.instanceMap instanceName, c ∈ s.connections id) :
    .removed closed c ∈ (s.cleanup instanceName closed).events := by
  have hmono : ∀ (u : QuicServiceBase) e, e ∈ u.events →
      e ∈ (u.removeEstablished instanceName closed).events := by
    intro u e he
    unfold QuicServiceBase.removeEstablished
    split
    · exact he
    · split
      · exact he
      · exact List.mem_append_left _ he
  rcases hc with hc | ⟨id, hid, hc⟩
  · refine hmono _ _ ?_
    simp only [QuicServiceBase.removePending, Option.mem_def.mp hc]
    simp
  · rw [QuicServiceBase.cleanup, QuicServiceBase.removeEstablished, removePending_tables.1]
    simp only [Option.mem_def.mp hid, removePending_tables.2, Option.mem_def.mp hc]
    simp

/-! ### Runs -/

/-- **One step** keeps the tables consistent, if it meets the condition. -/
theorem Invariant.step {op : QuicOp} (h : s.Invariant) (hop : s.IsFresh op)
    (ht : s.step op = .ok t) : t.Invariant := by
  cases op with
  | addPending instanceName =>
    cases ht
    exact h.addPending instanceName
  | cancelPending instanceName =>
    cases ht
    exact h.cancelPending instanceName
  | handshakeComplete instanceName =>
    cases ht
    exact h.handshakeComplete hop
  | closed connection now =>
    simp only [QuicServiceBase.step] at ht
    split at ht
    · cases ht
    · cases ht
      unfold onConnectionClosed
      split_ifs
      · exact h
      · exact h
      · exact { h with }
  | cleanup instanceName now =>
    simp only [QuicServiceBase.step] at ht
    split at ht
    · cases ht
    · rename_i closed due halarm
      split_ifs at ht
      cases ht
      exact h.cleanup (hop closed due halarm).1 (hop closed due halarm).2
  | start | stop | suspend | resume =>
    cases ht
    split_ifs
    · exact { h with }
    · exact { h with }

/-- A step that does not meet the condition. -/
theorem not_consistent_step {op : QuicOp} (h : s.Invariant) (hop : ¬s.IsFresh op)
    (ht : s.step op = .ok t) : ¬t.Consistent := by
  cases op with
  | handshakeComplete instanceName =>
    cases ht
    exact not_consistent_handshakeComplete h hop
  | cleanup instanceName now =>
    intro hconsistent
    simp only [QuicServiceBase.step] at ht
    split at ht
    · cases ht
    · rename_i closed due halarm
      split_ifs at ht
      cases ht
      refine hop fun closed' due' halarm' => ?_
      cases halarm.symm.trans halarm'
      exact ⟨fun c hc => (hconsistent.removed closed c (removed_mem_cleanup (.inl hc))).symm,
        fun id hid c hc => (hconsistent.removed closed c
          (removed_mem_cleanup (.inr ⟨id, hid, hc⟩))).symm⟩
  | _ => exact absurd trivial hop

theorem invariant_new : ({} : QuicServiceBase).Invariant :=
  ⟨⟨nofun, nofun, fun _ h => absurd rfl h, nofun, nofun⟩, nofun, fun _ _ => rfl⟩

/-- A connection is established, closes and is cleaned up. -/
def cleanRun : List QuicOp :=
  [.start, .addPending "a", .handshakeComplete "a", .closed 0 0, .cleanup "a" 500000]

/-- The service is stopped and started again before a connection is cleaned up. -/
def restartRun : List QuicOp :=
  [.start, .addPending "a", .handshakeComplete "a", .closed 0 0, .stop, .start, .addPending "b",
    .handshakeComplete "b"]

/-- An instance connects again before its old connection is cleaned up. -/
def reconnectRun : List QuicOp :=
  [.start, .addPending "a", .handshakeComplete "a", .closed 0 0, .addPending "a",
    .cleanup "a" 500000]

end QuicServiceBase

end StreamerPlus.Osp
