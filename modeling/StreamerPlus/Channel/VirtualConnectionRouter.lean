import Mathlib.Data.List.DropRight
import Mathlib.Data.List.Lex
import StreamerPlus.Lib.Multimap

/-!
# `VirtualConnectionRouter`

The router keeps its virtual connections in a map from the socket to a multimap from the local id
to the peer id and the associated data (`virtual_connection_router.cc`). Read as a set of triples,
the table should hold a triple from its first `AddConnection` to its next removal. `AddConnection`
compares the iterator of an unsuccessful search with the end of the multimap, not with the end of
the searched range, so an add is lost when the socket has a connection of a greater local id.
-/

namespace StreamerPlus

/-- `std::string`, which is compared byte by byte. -/
abbrev StdString := List (Fin 256)

/-- `VirtualConnection`. -/
@[ext] structure VirtualConnection where
  localId : StdString
  peerId : StdString
  socketId : ℤ
  deriving DecidableEq

/-- `VCTail`, with the `AssociatedData` that the router only hands back. -/
structure VCTail (δ : Type) where
  peerId : StdString
  data : δ

/-- `VirtualConnectionRouter`. A socket without an entry in `connections_` is one with an empty
multimap: the code erases the entry of a socket with its last connection. The keys of `endpoints_`
stand in their order. -/
structure VirtualConnectionRouter (δ : Type) where
  connections : ℤ → Multimap StdString (VCTail δ)
  endpoints : List StdString
  hasConnectionHandler : Bool

namespace VirtualConnectionRouter

variable {δ : Type}

/-- A router as it is constructed. -/
def initial : VirtualConnectionRouter δ where
  connections _ := ∅
  endpoints := []
  hasConnectionHandler := false

variable (r : VirtualConnectionRouter δ) (vc c : VirtualConnection)

/-! ### The table -/

/-- `local_entries` of a connection. -/
def localEntries : List (StdString × VCTail δ) :=
  (r.connections vc.socketId).equalRange vc.localId

/-- The comparison of the peer ids that every search makes. -/
def samePeer (e : StdString × VCTail δ) : Bool := e.2.peerId = vc.peerId

/-- `local_entries.second == socket_map.end()`. -/
def endsAtEnd : Bool := ((r.connections vc.socketId).after vc.localId).isEmpty

/-- `local_entries.first == socket_map.end()`. -/
def startsAtEnd : Bool := (r.localEntries vc).isEmpty && r.endsAtEnd vc

variable (socketId : ℤ)

/-- Replaces the multimap of one socket. -/
def setSocketMap (m : Multimap StdString (VCTail δ)) : VirtualConnectionRouter δ :=
  { r with connections := Function.update r.connections socketId m }

/-- `AddConnection(virtual_connection, associated_data)`. -/
def addConnection (data : δ) : VirtualConnectionRouter δ :=
  let socketMap := r.connections vc.socketId
  match (r.localEntries vc).find? (samePeer vc) with
  | some _ => r
  | none =>
    -- the search returns `local_entries.second`, and the code asks whether that is the map's end
    if r.endsAtEnd vc then
      r.setSocketMap vc.socketId (socketMap.emplace vc.localId ⟨vc.peerId, data⟩)
    else r

/-- `RemoveConnection(virtual_connection, reason)`. -/
def removeConnection : VirtualConnectionRouter δ × Bool :=
  let socketMap := r.connections vc.socketId
  if r.startsAtEnd vc then (r, false)
  else if (r.localEntries vc).any (samePeer vc) then
    (r.setSocketMap vc.socketId (socketMap.eraseFirst vc.localId (·.peerId = vc.peerId)), true)
  else (r, false)

variable (localId : StdString)

/-- `RemoveConnectionsByLocalId(local_id)`. -/
def removeConnectionsByLocalId : VirtualConnectionRouter δ :=
  { r with
    connections := fun socketId =>
      if r.startsAtEnd ⟨localId, [], socketId⟩ then r.connections socketId
      else (r.connections socketId).eraseRange localId }

/-- `RemoveConnectionsBySocketId(socket_id)`. -/
def removeConnectionsBySocketId : VirtualConnectionRouter δ :=
  r.setSocketMap socketId ∅

/-- `GetConnectionData(virtual_connection)`. -/
def getConnectionData : Option δ :=
  if r.startsAtEnd vc then none
  else ((r.localEntries vc).find? (samePeer vc)).map (·.2.data)

/-! ### What the operations do to a range -/

variable {r vc c}

theorem localEntries_eq_nil (h : r.startsAtEnd vc) : r.localEntries vc = [] := by
  simp only [startsAtEnd, Bool.and_eq_true, List.isEmpty_iff] at h
  exact h.1

/-- The test for the end of the map only saves a search in an empty range. -/
theorem getConnectionData_eq :
    r.getConnectionData c = ((r.localEntries c).find? (samePeer c)).map (·.2.data) := by
  unfold getConnectionData
  split_ifs with h
  · rw [localEntries_eq_nil h, List.find?_nil, Option.map_none]
  · rfl

theorem getConnectionData_eq_none :
    r.getConnectionData c = none ↔ (r.localEntries c).find? (samePeer c) = none := by
  rw [getConnectionData_eq, Option.map_eq_none_iff]

/-- Two connections that are searched in the same range. -/
def SameRange (c vc : VirtualConnection) : Prop :=
  c.socketId = vc.socketId ∧ c.localId = vc.localId

instance (c vc : VirtualConnection) : Decidable (SameRange c vc) :=
  inferInstanceAs (Decidable (_ ∧ _))

theorem eq_iff_sameRange : c = vc ↔ SameRange c vc ∧ c.peerId = vc.peerId := by
  rw [VirtualConnection.ext_iff, SameRange]
  tauto

theorem localEntries_eq_of_sameRange (h : SameRange c vc) :
    r.localEntries c = r.localEntries vc := by
  rw [localEntries, localEntries, h.1, h.2]

theorem localEntries_setSocketMap (s : ℤ) (m : Multimap StdString (VCTail δ)) :
    (r.setSocketMap s m).localEntries c =
      if c.socketId = s then m.equalRange c.localId else r.localEntries c := by
  simp only [setSocketMap, localEntries, Function.update_apply]
  split_ifs <;> rfl

theorem localEntries_replaceRange (mid : List (StdString × VCTail δ)) (hmid) :
    (r.setSocketMap vc.socketId
        ((r.connections vc.socketId).replaceRange vc.localId mid hmid)).localEntries c =
      if SameRange c vc then mid else r.localEntries c := by
  rw [localEntries_setSocketMap, Multimap.equalRange_replaceRange]
  by_cases hs : c.socketId = vc.socketId
  · by_cases hl : c.localId = vc.localId
    · simp [SameRange, hs, hl]
    · simp [SameRange, hs, hl, localEntries]
  · simp [SameRange, hs]

theorem localEntries_addConnection (data : δ) :
    (r.addConnection vc data).localEntries c =
      if r.getConnectionData vc = none ∧ r.endsAtEnd vc ∧ SameRange c vc then
        r.localEntries vc ++ [(vc.localId, ⟨vc.peerId, data⟩)]
      else r.localEntries c := by
  simp only [getConnectionData_eq_none, addConnection]
  split
  · next h => simp [h]
  · next h =>
    by_cases hend : r.endsAtEnd vc
    · simp only [h, hend, if_true, true_and]
      exact localEntries_replaceRange _ _
    · simp [hend]

/-- The flag that `RemoveConnection` returns says whether the connection was in the table. -/
theorem removeConnection_eq :
    r.removeConnection vc =
      if (r.getConnectionData vc).isSome then
        (r.setSocketMap vc.socketId
          ((r.connections vc.socketId).eraseFirst vc.localId (·.peerId = vc.peerId)), true)
      else (r, false) := by
  have hfound : (r.getConnectionData vc).isSome = (r.localEntries vc).any (samePeer vc) := by
    rw [getConnectionData_eq, Option.isSome_map, Bool.eq_iff_iff, List.find?_isSome,
      List.any_eq_true]
  rw [hfound, removeConnection]
  split_ifs with hstart hany hany
  · simp [localEntries_eq_nil hstart] at hany
  all_goals rfl

theorem localEntries_removeConnection :
    (r.removeConnection vc).1.localEntries c =
      if SameRange c vc then (r.localEntries vc).eraseP (samePeer vc) else r.localEntries c := by
  rw [removeConnection_eq]
  split_ifs with hsome hrange hrange
  · exact (localEntries_replaceRange _ _).trans (if_pos hrange)
  · exact (localEntries_replaceRange _ _).trans (if_neg hrange)
  -- nothing is found, and the erasure of nothing leaves the range as it is
  · have hnone : ∀ e ∈ r.localEntries vc, ¬ samePeer vc e := by
      simpa [getConnectionData_eq] using hsome
    rw [List.eraseP_of_forall_not hnone, localEntries_eq_of_sameRange hrange]
  · rfl

theorem localEntries_removeConnectionsByLocalId :
    (r.removeConnectionsByLocalId localId).localEntries c =
      if c.localId = localId then [] else r.localEntries c := by
  simp only [removeConnectionsByLocalId, localEntries]
  split_ifs with hstart hl hl
  · subst hl
    exact localEntries_eq_nil hstart
  · rfl
  · rw [Multimap.eraseRange, Multimap.equalRange_replaceRange, if_pos hl]
  · rw [Multimap.eraseRange, Multimap.equalRange_replaceRange, if_neg hl]

theorem localEntries_removeConnectionsBySocketId :
    (r.removeConnectionsBySocketId socketId).localEntries c =
      if c.socketId = socketId then [] else r.localEntries c := by
  rw [removeConnectionsBySocketId, localEntries_setSocketMap]
  rfl

/-! ### At most one entry per triple -/

/-- No range has two entries of one peer. -/
def Distinct (r : VirtualConnectionRouter δ) : Prop :=
  ∀ c, (r.localEntries c).Pairwise fun a b => a.2.peerId ≠ b.2.peerId

theorem distinct_initial : Distinct (initial : VirtualConnectionRouter δ) := fun _ =>
  List.Pairwise.nil

theorem Distinct.addConnection (h : r.Distinct) (vc : VirtualConnection) (data : δ) :
    (r.addConnection vc data).Distinct := by
  intro c
  rw [localEntries_addConnection]
  split_ifs with hnew
  · have habsent := List.find?_eq_none.mp (getConnectionData_eq_none.mp hnew.1)
    refine List.pairwise_append.mpr ⟨h vc, List.pairwise_singleton _ _, fun a ha b hb => ?_⟩
    rw [List.mem_singleton.mp hb]
    simpa [samePeer] using habsent a ha
  · exact h c

theorem Distinct.removeConnection (h : r.Distinct) (vc : VirtualConnection) :
    (r.removeConnection vc).1.Distinct := by
  intro c
  rw [localEntries_removeConnection]
  split_ifs
  · exact (h vc).sublist (List.eraseP_sublist)
  · exact h c

theorem Distinct.removeConnectionsByLocalId (h : r.Distinct) (localId : StdString) :
    (r.removeConnectionsByLocalId localId).Distinct := by
  intro c
  rw [localEntries_removeConnectionsByLocalId]
  split_ifs
  exacts [List.Pairwise.nil, h c]

theorem Distinct.removeConnectionsBySocketId (h : r.Distinct) (socketId : ℤ) :
    (r.removeConnectionsBySocketId socketId).Distinct := by
  intro c
  rw [localEntries_removeConnectionsBySocketId]
  split_ifs
  exacts [List.Pairwise.nil, h c]

/-- The entries of the table that stand for the triple `c`. -/
def entriesOf (r : VirtualConnectionRouter δ) (c : VirtualConnection) :
    List (StdString × VCTail δ) :=
  (r.connections c.socketId).entries.filter fun e => e.1 = c.localId ∧ e.2.peerId = c.peerId

theorem entriesOf_eq : r.entriesOf c = (r.localEntries c).filter (samePeer c) := by
  simp only [entriesOf, localEntries, Multimap.equalRange, List.filter_filter, samePeer]
  refine List.filter_congr fun e _ => Bool.eq_iff_iff.mpr ?_
  simp [and_comm]

theorem Distinct.length_entriesOf_le (h : r.Distinct) (c : VirtualConnection) :
    (r.entriesOf c).length ≤ 1 := by
  rw [entriesOf_eq]
  have hpair := (h c).filter (samePeer c)
  have hpeer : ∀ e ∈ (r.localEntries c).filter (samePeer c), e.2.peerId = c.peerId := fun e he => by
    simpa [samePeer] using (List.mem_filter.mp he).2
  match hl : (r.localEntries c).filter (samePeer c) with
  | [] => simp
  | [_] => simp
  | a :: b :: l =>
    rw [hl] at hpair hpeer
    refine absurd ?_ ((List.pairwise_cons.mp hpair).1 b (by simp))
    rw [hpeer a (by simp), hpeer b (by simp)]

/-! ### The answers after an operation -/

theorem getConnectionData_addConnection (data : δ) :
    (r.addConnection vc data).getConnectionData c =
      if c = vc ∧ r.getConnectionData vc = none ∧ r.endsAtEnd vc then some data
      else r.getConnectionData c := by
  rw [getConnectionData_eq, localEntries_addConnection]
  by_cases hnew : r.getConnectionData vc = none ∧ r.endsAtEnd vc ∧ SameRange c vc
  · rw [if_pos hnew, List.find?_append]
    by_cases hp : c.peerId = vc.peerId
    · have hc : c = vc := eq_iff_sameRange.mpr ⟨hnew.2.2, hp⟩
      subst hc
      rw [getConnectionData_eq_none.mp hnew.1, if_pos ⟨rfl, hnew.1, hnew.2.1⟩]
      simp [samePeer]
    -- the new entry is one of another peer, which the search of `c` passes over
    · rw [if_neg fun h => hp (by rw [h.1]), ← localEntries_eq_of_sameRange hnew.2.2,
        getConnectionData_eq]
      simp [samePeer, Ne.symm hp]
  · rw [if_neg hnew, if_neg fun h => hnew ⟨h.2.1, h.2.2, (eq_iff_sameRange.mp h.1).1⟩,
      getConnectionData_eq]

theorem find?_eraseP_self {α : Type*} {p : α → Bool} {l : List α}
    (h : l.Pairwise fun a b => ¬ (p a ∧ p b)) : (l.eraseP p).find? p = none := by
  induction l with
  | nil => rfl
  | cons a l ih =>
    rw [List.pairwise_cons] at h
    by_cases ha : p a
    · rw [List.eraseP_cons_of_pos ha, List.find?_eq_none]
      exact fun b hb hpb => h.1 b hb ⟨ha, hpb⟩
    · rw [List.eraseP_cons_of_neg ha, List.find?_cons_of_neg ha]
      exact ih h.2

theorem find?_eraseP_of_disjoint {α : Type*} {p q : α → Bool} (h : ∀ a, p a → ¬ q a)
    (l : List α) : (l.eraseP p).find? q = l.find? q := by
  induction l with
  | nil => rfl
  | cons a l ih =>
    by_cases ha : p a
    · rw [List.eraseP_cons_of_pos ha, List.find?_cons_of_neg (h a ha)]
    · rw [List.eraseP_cons_of_neg ha, List.find?_cons, List.find?_cons, ih]

theorem getConnectionData_removeConnection (h : r.Distinct) :
    (r.removeConnection vc).1.getConnectionData c =
      if c = vc then none else r.getConnectionData c := by
  rw [getConnectionData_eq, localEntries_removeConnection, getConnectionData_eq]
  by_cases hrange : SameRange c vc
  · rw [if_pos hrange, localEntries_eq_of_sameRange hrange]
    by_cases hp : c.peerId = vc.peerId
    · have hc : c = vc := eq_iff_sameRange.mpr ⟨hrange, hp⟩
      subst hc
      rw [if_pos rfl, find?_eraseP_self, Option.map_none]
      exact (h c).imp fun hne hboth => hne (by simp_all [samePeer])
    · rw [if_neg fun hc => hp (by rw [hc]), find?_eraseP_of_disjoint]
      exact fun a ha hc => hp (by simp_all [samePeer])
  · rw [if_neg hrange, if_neg fun hc => hrange (eq_iff_sameRange.mp hc).1]

theorem getConnectionData_removeConnectionsByLocalId :
    (r.removeConnectionsByLocalId localId).getConnectionData c =
      if c.localId = localId then none else r.getConnectionData c := by
  rw [getConnectionData_eq, getConnectionData_eq, localEntries_removeConnectionsByLocalId]
  split_ifs <;> rfl

theorem getConnectionData_removeConnectionsBySocketId :
    (r.removeConnectionsBySocketId socketId).getConnectionData c =
      if c.socketId = socketId then none else r.getConnectionData c := by
  rw [getConnectionData_eq, getConnectionData_eq, localEntries_removeConnectionsBySocketId]
  split_ifs <;> rfl

/-- A range ends at the end of its map exactly when the table has no triple of the same socket and
a greater local id. -/
theorem endsAtEnd_iff :
    r.endsAtEnd vc ↔
      ∀ c, c.socketId = vc.socketId → vc.localId < c.localId → r.getConnectionData c = none := by
  rw [endsAtEnd, List.isEmpty_iff, Multimap.after_eq_nil_iff]
  constructor
  · intro h c hs hlt
    rw [getConnectionData_eq, localEntries, hs, h c.localId hlt, List.find?_nil, Option.map_none]
  · intro h l hlt
    refine List.eq_nil_iff_forall_not_mem.mpr fun e he => ?_
    have hnone := h ⟨l, e.2.peerId, vc.socketId⟩ rfl hlt
    rw [getConnectionData_eq_none, List.find?_eq_none] at hnone
    exact hnone e he (by simp [samePeer])

/-! ### The set of triples -/

/-- The operations on the table. -/
inductive TableOp (δ : Type)
  | add (vc : VirtualConnection) (data : δ)
  | remove (vc : VirtualConnection)
  | removeByLocalId (localId : StdString)
  | removeBySocketId (socketId : ℤ)

/-- The data that an operation adds for the triple `c`. -/
def TableOp.adds (c : VirtualConnection) : TableOp δ → Option δ
  | add vc data => if vc = c then some data else none
  | _ => none

/-- Whether an operation removes the triple `c`. -/
def TableOp.removes (c : VirtualConnection) : TableOp δ → Bool
  | add _ _ => false
  | remove vc => vc = c
  | removeByLocalId localId => c.localId = localId
  | removeBySocketId socketId => c.socketId = socketId

variable (ops : List (TableOp δ))

/-- What the table is for: a triple is present when it was added since its last removal, with the
data of the first such add. -/
def added (c : VirtualConnection) : Option δ :=
  (ops.rtakeWhile fun op => !op.removes c).findSome? (TableOp.adds c)

theorem added_concat (op : TableOp δ) :
    added (ops ++ [op]) c = if op.removes c then none else (added ops c).or (op.adds c) := by
  rw [added, List.rtakeWhile_concat]
  cases h : op.removes c with
  | true => simp
  | false => simp [added, List.findSome?_append]

/-- One operation of the router. -/
def step (r : VirtualConnectionRouter δ) : TableOp δ → VirtualConnectionRouter δ
  | .add vc data => r.addConnection vc data
  | .remove vc => (r.removeConnection vc).1
  | .removeByLocalId localId => r.removeConnectionsByLocalId localId
  | .removeBySocketId socketId => r.removeConnectionsBySocketId socketId

/-- The router after a sequence of operations. -/
def run : VirtualConnectionRouter δ := ops.foldl step initial

theorem run_concat (op : TableOp δ) : run (ops ++ [op]) = (run ops).step op := by
  rw [run, List.foldl_concat, run]

theorem Distinct.step (h : r.Distinct) (op : TableOp δ) : (r.step op).Distinct := by
  cases op with
  | add vc data => exact h.addConnection vc data
  | remove vc => exact h.removeConnection vc
  | removeByLocalId localId => exact h.removeConnectionsByLocalId localId
  | removeBySocketId socketId => exact h.removeConnectionsBySocketId socketId

theorem distinct_run : (run ops).Distinct := by
  induction ops using List.reverseRecOn with
  | nil => exact distinct_initial
  | append_singleton ops op ih => exact run_concat ops op ▸ ih.step op

/-- An operation that neither adds nor removes a triple leaves the answer for it. -/
theorem getConnectionData_step_of_other (h : r.Distinct) {op : TableOp δ}
    (hremoves : op.removes c = false) (hadds : op.adds c = none) :
    (r.step op).getConnectionData c = r.getConnectionData c := by
  cases op with
  | add vc data =>
    have hne : c ≠ vc := fun heq => by simp [TableOp.adds, heq] at hadds
    exact (getConnectionData_addConnection data).trans (if_neg fun hc => hne hc.1)
  | remove vc =>
    have hne : c ≠ vc := fun heq => by simp [TableOp.removes, heq] at hremoves
    exact (getConnectionData_removeConnection h).trans (if_neg hne)
  | removeByLocalId localId =>
    exact (getConnectionData_removeConnectionsByLocalId localId).trans
      (if_neg (by simpa [TableOp.removes] using hremoves))
  | removeBySocketId socketId =>
    exact (getConnectionData_removeConnectionsBySocketId socketId).trans
      (if_neg (by simpa [TableOp.removes] using hremoves))

/-- An operation that removes a triple leaves no answer for it. -/
theorem getConnectionData_step_of_removes (h : r.Distinct) {op : TableOp δ}
    (hremoves : op.removes c) : (r.step op).getConnectionData c = none := by
  cases op with
  | add vc data => simp [TableOp.removes] at hremoves
  | remove vc =>
    exact (getConnectionData_removeConnection h).trans
      (if_pos (by simpa [TableOp.removes, eq_comm] using hremoves))
  | removeByLocalId localId =>
    exact (getConnectionData_removeConnectionsByLocalId localId).trans
      (if_pos (by simpa [TableOp.removes] using hremoves))
  | removeBySocketId socketId =>
    exact (getConnectionData_removeConnectionsBySocketId socketId).trans
      (if_pos (by simpa [TableOp.removes] using hremoves))

/-- **One step.** From a table that agrees with the set of triples, a step agrees again exactly
when it does not add an absent triple below a present one of its socket. -/
theorem getConnectionData_step (h : r.Distinct) {op : TableOp δ}
    (happend : ∀ vc data, op = .add vc data → r.getConnectionData vc = none → r.endsAtEnd vc) :
    (r.step op).getConnectionData c =
      if op.removes c then none else (r.getConnectionData c).or (op.adds c) := by
  split_ifs with hremoves
  · exact getConnectionData_step_of_removes h hremoves
  · rw [Bool.not_eq_true] at hremoves
    cases hadds : op.adds c with
    | none => rw [Option.or_none, getConnectionData_step_of_other h hremoves hadds]
    | some data =>
      cases op with
      | add vc data' =>
        obtain ⟨rfl, rfl⟩ : vc = c ∧ data' = data := by simpa [TableOp.adds] using hadds
        refine (getConnectionData_addConnection data').trans ?_
        cases hget : r.getConnectionData vc with
        | none => simp [happend vc data' rfl hget]
        | some x => simp
      | remove | removeByLocalId | removeBySocketId => simp [TableOp.adds] at hadds

/-- The table refines the set of triples along a sequence of operations. -/
structure RefinesTriples : Prop where
  /-- after every operation the answers are those of the set, the data that of the first add -/
  data : ∀ before, before <+: ops → ∀ c, (run before).getConnectionData c = added before c
  /-- after every operation a triple has at most one entry -/
  unique : ∀ before, before <+: ops → ∀ c, ((run before).entriesOf c).length ≤ 1
  /-- no operation changes the answer for a triple that it neither adds nor removes -/
  frame : ∀ before op, before ++ [op] <+: ops → ∀ c, op.removes c = false → op.adds c = none →
    (run (before ++ [op])).getConnectionData c = (run before).getConnectionData c

/-- A triple is added only when the set has no triple of its socket with a greater local id. -/
def AddsInOrder : Prop :=
  ∀ before vc data, before ++ [.add vc data] <+: ops → added before vc = none →
    ∀ c, c.socketId = vc.socketId → vc.localId < c.localId → added before c = none

theorem AddsInOrder.mono {before ops : List (TableOp δ)} (h : AddsInOrder ops)
    (hle : before <+: ops) : AddsInOrder before :=
  fun p vc data hp => h p vc data (hp.trans hle)

theorem getConnectionData_run {ops : List (TableOp δ)} (h : AddsInOrder ops) :
    ∀ c, (run ops).getConnectionData c = added ops c := by
  induction ops using List.reverseRecOn with
  | nil => intro c; rfl
  | append_singleton ops op ih =>
    intro c
    have hops := ih (h.mono (List.prefix_append ops [op]))
    rw [run_concat, added_concat, getConnectionData_step (distinct_run ops), hops]
    rintro vc data rfl hnone
    rw [endsAtEnd_iff]
    intro c' hs hlt
    rw [hops] at hnone ⊢
    exact h ops vc data List.prefix_rfl hnone c' hs hlt

/-- **The table refines the set of triples exactly along the sequences of operations that add
every triple above those its socket has.** -/
theorem refinesTriples_iff_addsInOrder : RefinesTriples ops ↔ AddsInOrder ops := by
  constructor
  · intro h before vc data hle hnone c hs hlt
    -- were there a triple above, the add would be lost and the answer for `vc` stay empty
    have hbefore := h.data before ((List.prefix_append _ _).trans hle)
    have hvc : ((run before).addConnection vc data).getConnectionData vc = some data := by
      simpa [run_concat, added_concat, hnone, TableOp.removes, TableOp.adds, step]
        using h.data _ hle vc
    rw [getConnectionData_addConnection, hbefore, hnone] at hvc
    rw [← hbefore]
    by_cases hend : (run before).endsAtEnd vc
    · exact endsAtEnd_iff.mp hend c hs hlt
    · simp [hend] at hvc
  · intro h
    refine ⟨fun before hle => getConnectionData_run (h.mono hle),
      fun before _ => (distinct_run before).length_entriesOf_le, fun before op _ c hr ha => ?_⟩
    rw [run_concat]
    exact getConnectionData_step_of_other (distinct_run before) hr ha

/-- Two connections of one socket, the greater local id first: the second add is lost. -/
def lostAdd : List (TableOp ℕ) :=
  [.add ⟨[98], [112], 1⟩ 0, .add ⟨[97], [112], 1⟩ 1]

theorem not_refinesTriples_lostAdd : ¬ RefinesTriples lostAdd := by
  intro h
  have hdata := h.data lostAdd List.prefix_rfl ⟨[97], [112], 1⟩
  exact absurd hdata (by decide)

end VirtualConnectionRouter

end StreamerPlus
