import Mathlib.Logic.Function.Basic
import StreamerPlus.Lib.Outcome
import StreamerPlus.Lib.Run

/-!
# The connections of presentations

A `Connection` (`presentation_connection.cc`) belongs to the embedder, and the `Receiver` or
`Controller` that it was made for has raw pointers to it: in the lists of its presentations, and in
its `ConnectionManager`, which finds connections by their ids when messages come in. The destructor
calls `OnConnectionDestroyed`, which is the same for both parties and looks for the presentation
first.

Pointers are numbers here that are never used again, and an access to a connection that was
destroyed is a fault like a failed check. The requests and their queues, the messages that are
written and the delegates are left out: the ids of connections come with the steps.

## Main results

* `unreachable_iff`: no destroyed connection is found exactly in the runs in which the presentation
  of every connection that is destroyed while it is registered is known.
* `not_unreachable_terminated`: a connection that is destroyed after its presentation was
  terminated.
-/

namespace StreamerPlus.Osp

open Checked TransitionSystem

/-- `Connection::PresentationInfo`. -/
structure PresentationInfo where
  id : String
  url : String
  deriving DecidableEq, Repr

/-- `Connection::State`. -/
inductive ConnectionState
  | connecting | connected | closed | terminated
  deriving DecidableEq, Repr

/-- `Connection`. -/
structure Connection where
  info : PresentationInfo
  state : ConnectionState := .connecting
  connectionId : ℕ := 0
  deriving DecidableEq, Repr

namespace Connection

variable (c : Connection)

/-- `OnConnected(connection_id, …)`. -/
def onConnected (connectionId : ℕ) : Connection :=
  if c.state ≠ .connecting then c else { c with connectionId, state := .connected }

/-- `OnConnecting()`. -/
def onConnecting : Connection := { c with state := .connecting }

/-- What `Close(reason)` and `OnClosed()` do. -/
def onClosed : Connection :=
  if c.state ≠ .connecting ∧ c.state ≠ .connected then c else { c with state := .closed }

/-- `OnTerminated()`. -/
def onTerminated : Connection := { c with state := .terminated }

end Connection

/-- `Receiver::Presentation` and `Controller::ControlledPresentation`; only the latter has a URL. -/
structure Presentation where
  url : String := ""
  connections : List ℕ := []
  deriving DecidableEq, Repr

/-- What stops a party. -/
inductive PartyFault
  /-- The use of a `Connection` that was destroyed. -/
  | danglingConnection
  /-- `OSP_CHECK(emplace_result.second)` in `AddConnection`. -/
  | connectionIdInUse
  /-- The check in `ReconnectConnection`. -/
  | unknownConnection
  deriving DecidableEq, Repr

/-- `Receiver` or `Controller`: its presentations, the `connections_` of its `ConnectionManager`,
and the connections that exist. -/
structure Party where
  presentations : String → Option Presentation := fun _ => none
  connections : ℕ → Option ℕ := fun _ => none
  objects : ℕ → Option Connection := fun _ => none
  nextObject : ℕ := 0

namespace Party

variable (s : Party)

/-- `ConnectionManager::GetConnection(connection_id)`. -/
def getConnection (connectionId : ℕ) : Option ℕ := s.connections connectionId

variable (p : ℕ)

/-- Access to a connection. -/
def object : Except PartyFault Connection :=
  match s.objects p with
  | some c => .ok c
  | none => .error .danglingConnection

def setObject (c : Connection) : Party :=
  { s with objects := Function.update s.objects p (some c) }

/-- `Connection(info, delegate, controller)`. -/
def create (info : PresentationInfo) : Party :=
  { s.setObject s.nextObject { info } with nextObject := s.nextObject + 1 }

/-- `ConnectionManager::AddConnection(connection)`. -/
def addConnection : Except PartyFault Party := do
  let c ← s.object p
  require (s.connections c.connectionId = none) .connectionIdInUse
  return { s with connections := Function.update s.connections c.connectionId (some p) }

/-- `ConnectionManager::RemoveConnection(connection)`. -/
def removeConnection (c : Connection) : Party :=
  { s with connections := Function.update s.connections c.connectionId none }

/-- `OnConnectionDestroyed(connection)` of both parties, as the last act of the destructor. -/
def destroy : Except PartyFault Party := do
  let c ← s.object p
  let s := { s with objects := Function.update s.objects p none }
  match s.presentations c.info.id with
  | none => return s
  | some presentation =>
    return { s with
      presentations := Function.update s.presentations c.info.id (some { presentation with
        connections := presentation.connections.filter (· ≠ p) }) }.removeConnection c

/-- Applies one of the functions above to a connection. -/
def onConnection (f : Connection → Connection) (p : ℕ) : Except PartyFault Party := do
  let c ← s.object p
  return s.setObject p (f c)

/-- `OnConnected` for a connection, which is then in the list of a presentation and registered:
`Receiver::OnPresentationStarted`, `Receiver::OnConnectionCreated` and `Controller::OpenConnection`.
The presentation is made if there is none. -/
def openConnection (presentationId : String) (p connectionId : ℕ) : Except PartyFault Party := do
  let s ← s.onConnection (·.onConnected connectionId) p
  let presentation := (s.presentations presentationId).getD {}
  { s with presentations := Function.update s.presentations presentationId (some { presentation with
      connections := presentation.connections ++ [p] }) }.addConnection p

/-- `OnMatchedResponse` of a `StartRequest`: a new connection is opened. -/
def onStartResponse (info : PresentationInfo) (connectionId : ℕ) : Except PartyFault Party :=
  let presentation := { (s.presentations info.id).getD {} with url := info.url }
  { s.create info with
    presentations := Function.update s.presentations info.id (some presentation) }.openConnection
      info.id s.nextObject connectionId

/-- `OnMatchedResponse` of a `ConnectionOpenRequest`. The connection is in no list. -/
def onOpenResponse (p connectionId : ℕ) : Except PartyFault Party := do
  (← s.onConnection (·.onConnected connectionId) p).addConnection p

/-- `ReconnectConnection` reports an error. -/
def refusesReconnect (c : Connection) : Bool :=
  c.state ≠ .closed || (s.presentations c.info.id).all (·.url ≠ c.info.url)

/-- `ReconnectConnection(connection, delegate)`. The connection was passed by value, and is
destroyed where there is an error; otherwise it waits for the response. -/
def reconnectConnection : Except PartyFault Party := do
  let c ← s.object p
  if s.refusesReconnect c then s.destroy p
  else do
    require (s.getConnection c.connectionId ≠ none) .unknownConnection
    (s.removeConnection c).onConnection (·.onConnecting) p

/-- `OnPresentationTerminated(presentation_id, …)`. That of the receiver returns early if there is
no network connection; that of the controller does not look for one, and neither does what a
termination event or the response to a termination request does there. -/
def onPresentationTerminated (presentationId : String) (isConnected : Bool) :
    Except PartyFault Party :=
  match s.presentations presentationId with
  | none => .ok s
  | some presentation =>
    if isConnected then do
      let s ← presentation.connections.foldlM (onConnection · (·.onTerminated)) s
      return { s with presentations := Function.update s.presentations presentationId none }
    else .ok s

/-- `Connection::Terminate(source, reason)`. -/
def terminate (isConnected : Bool) : Except PartyFault Party := do
  let c ← s.object p
  if c.state = .terminated then return s
  else (s.setObject p c.onTerminated).onPresentationTerminated c.info.id isConnected

/-- A connection message, which goes to the delegate of the connection that is found, or a close
event. -/
def onStreamMessage (connectionId : ℕ) (close : Bool) : Except PartyFault Party :=
  match s.getConnection connectionId with
  | none => .ok s
  | some p => s.onConnection (fun c => if close then c.onClosed else c) p

end Party

/-- What happens to a party. Only receivers have `openConnection` of their own, and only controllers
have `startResponse`, `openResponse` and `reconnect`. -/
inductive PartyOp
  | create (info : PresentationInfo)
  | openConnection (presentationId : String) (p connectionId : ℕ)
  | startResponse (info : PresentationInfo) (connectionId : ℕ)
  | openResponse (p connectionId : ℕ)
  | reconnect (p : ℕ)
  | terminated (presentationId : String) (isConnected : Bool)
  | terminate (p : ℕ) (isConnected : Bool)
  | close (p : ℕ)
  | message (connectionId : ℕ) (close : Bool)
  | destroy (p : ℕ)
  deriving DecidableEq, Repr

namespace Party

variable (s : Party)

/-- One step. -/
def step : PartyOp → Except PartyFault Party
  | .create info => .ok (s.create info)
  | .openConnection presentationId p connectionId => s.openConnection presentationId p connectionId
  | .startResponse info connectionId => s.onStartResponse info connectionId
  | .openResponse p connectionId => s.onOpenResponse p connectionId
  | .reconnect p => s.reconnectConnection p
  | .terminated presentationId isConnected => s.onPresentationTerminated presentationId isConnected
  | .terminate p isConnected => s.terminate p isConnected
  | .close p => s.onConnection (·.onClosed) p
  | .message connectionId close => s.onStreamMessage connectionId close
  | .destroy p => s.destroy p

/-- No connection that was destroyed is found. -/
def Unreachable : Prop :=
  ∀ connectionId p, s.getConnection connectionId = some p → s.objects p ≠ none

/-- The connection that a step destroys. -/
def destroyed : PartyOp → Option ℕ
  | .destroy p => some p
  | .reconnect p => if (s.objects p).any s.refusesReconnect then some p else none
  | _ => none

/-- A connection that is destroyed while it is registered has its presentation. -/
def DestroysKnown (op : PartyOp) : Prop :=
  ∀ p ∈ s.destroyed op, ∀ c ∈ s.objects p, (∃ id, s.getConnection id = some p) →
    s.presentations c.info.id ≠ none

/-! ### What the steps keep -/

/-- Connections are registered under their ids, and are not connecting. New ones are not. -/
structure Invariant : Prop where
  registered : ∀ id p, s.connections id = some p →
    ∃ c, s.objects p = some c ∧ c.connectionId = id ∧ c.state ≠ .connecting
  fresh : ∀ p, s.nextObject ≤ p → s.objects p = none

variable {s t : Party} {p connectionId : ℕ} {c : Connection}

theorem Invariant.unreachable (h : s.Invariant) : s.Unreachable := by
  intro connectionId p hp
  obtain ⟨c, hc, -⟩ := h.registered connectionId p hp
  simp [hc]

theorem object_eq_ok : s.object p = .ok c ↔ s.objects p = some c := by
  unfold object
  cases s.objects p <;> simp

theorem Invariant.lt_nextObject (h : s.Invariant) (hc : s.objects p = some c) :
    p < s.nextObject := by
  by_contra hle
  rw [h.fresh p (Nat.not_lt.mp hle)] at hc
  cases hc

/-- A change of a connection, if it is not registered or keeps its id and is not connecting. -/
theorem Invariant.setObject (h : s.Invariant) (hlt : p < s.nextObject)
    (hc : ∀ id, s.connections id = some p → c.connectionId = id ∧ c.state ≠ .connecting) :
    (s.setObject p c).Invariant := by
  refine ⟨fun id q (hq : s.connections id = some q) => ?_, fun q (hq : s.nextObject ≤ q) => ?_⟩
  · simp only [Party.setObject]
    by_cases hqp : q = p
    · subst hqp
      exact ⟨c, Function.update_self .., hc id hq⟩
    · rw [Function.update_of_ne hqp]
      exact h.registered id q hq
  · simp only [Party.setObject]
    rw [Function.update_of_ne (by omega)]
    exact h.fresh q hq

theorem Invariant.create (h : s.Invariant) (info : PresentationInfo) :
    (s.create info).Invariant := by
  refine ⟨fun id q (hq : s.connections id = some q) => ?_, fun q (hq : s.nextObject + 1 ≤ q) => ?_⟩
  · obtain ⟨c, hc, hid⟩ := h.registered id q hq
    have hlt := h.lt_nextObject hc
    simp only [Party.create, Party.setObject]
    rw [Function.update_of_ne (by omega)]
    exact ⟨c, hc, hid⟩
  · simp only [Party.create, Party.setObject]
    rw [Function.update_of_ne (by omega)]
    exact h.fresh q (by omega)

/-- A change that keeps the id of a connection unless it is connecting. -/
theorem Invariant.onConnection {f : Connection → Connection} (h : s.Invariant)
    (hf : ∀ c, c.state ≠ .connecting →
      (f c).connectionId = c.connectionId ∧ (f c).state ≠ .connecting)
    (ht : s.onConnection f p = .ok t) : t.Invariant := by
  obtain ⟨c, hc, ht⟩ := bind_eq_ok.mp ht
  cases ht
  rw [object_eq_ok] at hc
  refine h.setObject (h.lt_nextObject hc) fun id hid => ?_
  obtain ⟨c', hc', rfl, hstate⟩ := h.registered id p hid
  obtain rfl := Option.some.inj (hc.symm.trans hc')
  exact hf c hstate

theorem onConnected_of_ne (connectionId : ℕ) (hc : c.state ≠ .connecting) :
    (c.onConnected connectionId).connectionId = c.connectionId ∧
      (c.onConnected connectionId).state ≠ .connecting := by
  rw [Connection.onConnected, if_pos hc]
  exact ⟨rfl, hc⟩

theorem state_onConnected (c : Connection) (connectionId : ℕ) :
    (c.onConnected connectionId).state ≠ .connecting := by
  unfold Connection.onConnected
  split_ifs with h
  · exact h
  · nofun

theorem onClosed_of_ne (hc : c.state ≠ .connecting) :
    c.onClosed.connectionId = c.connectionId ∧ c.onClosed.state ≠ .connecting := by
  unfold Connection.onClosed
  split_ifs
  · exact ⟨rfl, hc⟩
  · exact ⟨rfl, nofun⟩

/-- The presentations are not part of the invariant. -/
theorem Invariant.withPresentations (h : s.Invariant)
    (presentations : String → Option Presentation) :
    { s with presentations }.Invariant := ⟨h.registered, h.fresh⟩

/-- A connection that is not connecting is registered. -/
theorem Invariant.addConnection (h : s.Invariant)
    (hstate : ∀ c, s.objects p = some c → c.state ≠ .connecting)
    (ht : s.addConnection p = .ok t) : t.Invariant := by
  obtain ⟨c, hc, ht⟩ := bind_eq_ok.mp ht
  rw [object_eq_ok] at hc
  cases (require_bind_eq_ok.mp ht).2
  refine ⟨fun id q hq => ?_, h.fresh⟩
  by_cases hid : id = c.connectionId
  · subst hid
    obtain rfl : p = q := by simpa using hq
    exact ⟨c, hc, rfl, hstate c hc⟩
  · simp only [Function.update_of_ne hid] at hq
    exact h.registered id q hq

/-- After `OnConnected` a connection is not connecting. -/
theorem state_of_onConnected (ht : s.onConnection (·.onConnected connectionId) p = .ok t) :
    ∀ c, t.objects p = some c → c.state ≠ .connecting := by
  intro c hc
  obtain ⟨c', -, ht⟩ := bind_eq_ok.mp ht
  cases ht
  simp only [Party.setObject, Function.update_self, Option.some.injEq] at hc
  exact hc ▸ state_onConnected c' connectionId

theorem Invariant.openConnection {presentationId : String} (h : s.Invariant)
    (ht : s.openConnection presentationId p connectionId = .ok t) : t.Invariant := by
  obtain ⟨u, hu, ht⟩ := bind_eq_ok.mp ht
  have hu' := h.onConnection (fun c => onConnected_of_ne connectionId) hu
  have hstate := state_of_onConnected hu
  refine Invariant.addConnection (hu'.withPresentations _) ?_ ht
  exact fun c hc => hstate c hc

theorem Invariant.onOpenResponse (h : s.Invariant)
    (ht : s.onOpenResponse p connectionId = .ok t) : t.Invariant := by
  obtain ⟨u, hu, ht⟩ := bind_eq_ok.mp ht
  have hu' := h.onConnection (fun c => onConnected_of_ne connectionId) hu
  exact hu'.addConnection (state_of_onConnected hu) ht

theorem Invariant.onPresentationTerminated {presentationId : String} {isConnected : Bool}
    (h : s.Invariant) (ht : s.onPresentationTerminated presentationId isConnected = .ok t) :
    t.Invariant := by
  unfold Party.onPresentationTerminated at ht
  split at ht
  · cases ht
    exact h
  · split_ifs at ht
    · obtain ⟨u, hu, ht⟩ := bind_eq_ok.mp ht
      cases ht
      refine Invariant.withPresentations (foldlM_invariant ?_ h hu) _
      intro b p b' _ hb hb'
      refine Invariant.onConnection hb ?_ hb'
      exact fun c _ => ⟨rfl, nofun⟩
    · cases ht
      exact h

/-! ### The destructor -/

/-- What is left of a connection that was destroyed. -/
theorem destroy_eq_ok (ht : s.destroy p = .ok t) : ∃ c, s.objects p = some c ∧
    t.objects = Function.update s.objects p none ∧ t.nextObject = s.nextObject ∧
    t.connections = if s.presentations c.info.id = none then s.connections
      else Function.update s.connections c.connectionId none := by
  obtain ⟨c, hc, ht⟩ := bind_eq_ok.mp ht
  refine ⟨c, object_eq_ok.mp hc, ?_⟩
  dsimp only at ht
  split at ht <;> rename_i hpresentation <;> cases ht <;>
    exact ⟨rfl, rfl, by simp [hpresentation, removeConnection]⟩

/-- The destructor of a connection whose presentation is known, or that is not registered. -/
theorem Invariant.destroy (h : s.Invariant)
    (hknown : ∀ c, s.objects p = some c → (∃ id, s.getConnection id = some p) →
      s.presentations c.info.id ≠ none) (ht : s.destroy p = .ok t) : t.Invariant := by
  obtain ⟨c, hc, hobjects, hnext, hconnections⟩ := destroy_eq_ok ht
  -- what is registered afterwards was so before, and is another connection
  have hothers : ∀ id q, t.connections id = some q → s.connections id = some q ∧ q ≠ p := by
    intro id q hq
    rw [hconnections] at hq
    split_ifs at hq with hpresentation
    · refine ⟨hq, ?_⟩
      rintro rfl
      exact hknown c hc ⟨id, hq⟩ hpresentation
    · by_cases hid : id = c.connectionId
      · rw [hid, Function.update_self] at hq
        cases hq
      · rw [Function.update_of_ne hid] at hq
        refine ⟨hq, ?_⟩
        rintro rfl
        obtain ⟨c', hc', hid', -⟩ := h.registered id q hq
        obtain rfl := Option.some.inj (hc.symm.trans hc')
        exact hid hid'.symm
  refine ⟨fun id q hq => ?_, fun q hq => ?_⟩
  · obtain ⟨hq, hne⟩ := hothers id q hq
    rw [hobjects, Function.update_of_ne hne]
    exact h.registered id q hq
  · rw [hobjects]
    by_cases hqp : q = p
    · rw [hqp, Function.update_self]
    · rw [Function.update_of_ne hqp]
      exact h.fresh q (hnext ▸ hq)

/-- The destructor of a registered connection whose presentation is not known. -/
theorem not_unreachable_destroy {id : ℕ} (hc : s.objects p = some c)
    (hid : s.getConnection id = some p) (hpresentation : s.presentations c.info.id = none)
    (ht : s.destroy p = .ok t) : ¬t.Unreachable := by
  intro h
  obtain ⟨c', hc', hobjects, -, hconnections⟩ := destroy_eq_ok ht
  obtain rfl := Option.some.inj (hc.symm.trans hc')
  rw [if_pos hpresentation] at hconnections
  refine h id p (by rw [getConnection, hconnections]; exact hid) ?_
  rw [hobjects, Function.update_self]

theorem step_of_destroyed {op : PartyOp} (hp : s.destroyed op = some p)
    (hstep : s.step op = .ok t) :
    s.destroy p = .ok t := by
  cases op with
  | destroy q =>
    cases hp
    exact hstep
  | reconnect q =>
    simp only [destroyed] at hp
    split_ifs at hp with hrefuses
    cases hp
    obtain ⟨c, hc, hstep⟩ := bind_eq_ok.mp hstep
    rw [object_eq_ok.mp hc] at hrefuses
    rwa [if_pos (by simpa using hrefuses)] at hstep
  | _ => cases hp

/-! ### Runs -/

/-- **One step** keeps the invariant, if the connection that it destroys has its presentation. -/
theorem Invariant.step {op : PartyOp} (h : s.Invariant) (hop : s.DestroysKnown op)
    (ht : s.step op = .ok t) : t.Invariant := by
  cases op with
  | create info =>
    cases ht
    exact h.create info
  | openConnection presentationId p connectionId => exact h.openConnection ht
  | startResponse info connectionId =>
    exact ((h.create info).withPresentations _).openConnection ht
  | openResponse p connectionId => exact h.onOpenResponse ht
  | reconnect p =>
    by_cases hrefuses : (s.objects p).any s.refusesReconnect = true
    · have hp : s.destroyed (.reconnect p) = some p := if_pos hrefuses
      exact h.destroy (fun c hc => hop p hp c hc) (step_of_destroyed hp ht)
    · obtain ⟨c, hc, ht⟩ := bind_eq_ok.mp ht
      rw [object_eq_ok] at hc
      rw [if_neg (by simpa [hc] using hrefuses)] at ht
      obtain ⟨-, ht⟩ := require_bind_eq_ok.mp ht
      obtain ⟨c', hc', ht⟩ := bind_eq_ok.mp ht
      cases ht
      have hremoved : (s.removeConnection c).Invariant := by
        refine ⟨fun id q hq => ?_, h.fresh⟩
        by_cases hid : id = c.connectionId
        · simp [removeConnection, hid] at hq
        · simp only [removeConnection, Function.update_of_ne hid] at hq
          exact h.registered id q hq
      refine hremoved.setObject (h.lt_nextObject hc) fun id hq => ?_
      -- it was registered under its own id only
      exfalso
      by_cases hid : id = c.connectionId
      · simp [removeConnection, hid] at hq
      · simp only [removeConnection, Function.update_of_ne hid] at hq
        obtain ⟨c'', hc'', hid', -⟩ := h.registered id p hq
        obtain rfl := Option.some.inj (hc.symm.trans hc'')
        exact hid hid'.symm
  | terminated presentationId isConnected => exact h.onPresentationTerminated ht
  | terminate p isConnected =>
    obtain ⟨c, hc, ht⟩ := bind_eq_ok.mp ht
    rw [object_eq_ok] at hc
    split_ifs at ht
    · cases ht
      exact h
    · refine Invariant.onPresentationTerminated (h.setObject (h.lt_nextObject hc) ?_) ht
      intro id hid
      obtain ⟨c', hc', hid', -⟩ := h.registered id p hid
      obtain rfl := Option.some.inj (hc.symm.trans hc')
      exact ⟨hid', nofun⟩
  | close p => exact h.onConnection (fun c => onClosed_of_ne) ht
  | message connectionId close =>
    simp only [Party.step, onStreamMessage] at ht
    split at ht
    · cases ht
      exact h
    · refine h.onConnection (fun c hc => ?_) ht
      cases close with
      | false => exact ⟨rfl, hc⟩
      | true => exact onClosed_of_ne hc
  | destroy p => exact h.destroy (fun c hc => hop p rfl c hc) ht

theorem invariant_new : ({} : Party).Invariant := ⟨nofun, fun _ _ => rfl⟩

/-- **When destroyed connections are unreachable.** In the states of a run of a receiver or a
controller no connection that was destroyed is found, exactly if every connection that the run
destroys while it is registered has its presentation then. -/
theorem unreachable_iff {ops : List PartyOp} (h : ops.foldlM step {} = .ok t) :
    (∀ pre post u, ops = pre ++ post → pre.foldlM step {} = .ok u → u.Unreachable) ↔
      ∀ pre op post u, ops = pre ++ op :: post → pre.foldlM step {} = .ok u →
        u.DestroysKnown op := by
  refine forall_split_iff h (fun _ hu => hu.unreachable) invariant_new fun _ op u v _ hu hv =>
    ⟨fun hnext => ?_, fun hop => hu.step hop hv⟩
  by_contra hop
  unfold DestroysKnown at hop
  push Not at hop
  obtain ⟨p, hp, c, hc, ⟨id, hid⟩, hpresentation⟩ := hop
  exact not_unreachable_destroy hc hid hpresentation (step_of_destroyed hp hv) hnext

/-- A presentation of a receiver whose connection is closed and destroyed. -/
def closedRun : List PartyOp :=
  [.create ⟨"p", "u"⟩, .openConnection "p" 0 7, .close 0, .destroy 0]

theorem unreachable_iff_closedRun :
    ∃ t, closedRun.foldlM step {} = .ok t ∧
      ∀ pre post u, closedRun = pre ++ post → pre.foldlM step {} = .ok u → u.Unreachable := by
  refine ⟨_, rfl, (unreachable_iff rfl).mpr ?_⟩
  intro pre op post u hops hu p hp c hc hid
  -- only the last step destroys something
  rcases pre with _ | ⟨a, _ | ⟨b, _ | ⟨d, _ | ⟨e, pre⟩⟩⟩⟩ <;> simp [closedRun] at hops
  · obtain ⟨rfl, -⟩ := hops
    cases hp
  · obtain ⟨rfl, rfl, -⟩ := hops
    cases hp
  · obtain ⟨rfl, rfl, rfl, -⟩ := hops
    cases hp
  · obtain ⟨rfl, rfl, rfl, rfl, -⟩ := hops
    cases hp
    cases hu
    cases hc
    nofun

/-- A receiver and a controller: a presentation is terminated, then its connection is destroyed. -/
def receiverRun : List PartyOp :=
  [.create ⟨"p", "u"⟩, .openConnection "p" 0 7, .terminated "p" true, .destroy 0]
def controllerRun : List PartyOp :=
  [.startResponse ⟨"p", "u"⟩ 7, .terminated "p" true, .destroy 0]

/-- The connection 7 is still found after it was destroyed, and a message for its id uses it. -/
def Dangles (s : Party) : Prop :=
  s.getConnection 7 = some 0 ∧ s.objects 0 = none ∧
    ∀ close, s.step (.message 7 close) = .error .danglingConnection

/-- **A connection that is destroyed after its presentation was terminated** is still found. -/
theorem not_unreachable_terminated :
    (∃ t, receiverRun.foldlM step {} = .ok t ∧ t.Dangles) ∧
      ∃ t, controllerRun.foldlM step {} = .ok t ∧ t.Dangles :=
  ⟨⟨_, rfl, rfl, rfl, fun _ => rfl⟩, ⟨_, rfl, rfl, rfl, fun _ => rfl⟩⟩

end Party

end StreamerPlus.Osp
