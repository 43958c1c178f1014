import StreamerPlus.Discovery.DnsDataGraphRun

/-!
# The edges of the DNS-SD graph mirror its records

The children of a node are to be the targets of its PTR and SRV records, with multiplicity. They
are as long as an SRV record is updated and expired with the target it was created with: an update
replaces the record but leaves the edge, and an expiry removes the edge of the target it names, not
of the record it erases.
-/

namespace StreamerPlus.Discovery

open Checked DnsDataGraph

namespace MdnsRecord

variable {r s : MdnsRecord} {records records' : List MdnsRecord} {event : RecordChangedEvent}

/-- The domain that a record points to, if it is a PTR or SRV record and the domain is not
empty. -/
def target? (r : MdnsRecord) : Option DomainKey :=
  match r.childName with
  | .ok name => if name.empty then none else some name.key
  | .error _ => none

/-- The record of a node that a change with `r` is about. -/
def storedIn (r : MdnsRecord) (records : List MdnsRecord) : Option MdnsRecord :=
  (r.findIn records).bind fun i => records[i]?

theorem target?_of_empty {name : DomainName} (h : r.childName = .ok name) (he : name.empty) :
    r.target? = none := by
  simp only [target?, h, he, if_true]

theorem target?_of_not_empty {name : DomainName} (h : r.childName = .ok name)
    (he : ¬ name.empty) : r.target? = some name.key := by
  simp only [target?, h, he, if_false, Bool.false_eq_true]

theorem eq_badVariantAccess_of_childName {e : Fault} (h : r.childName = .error e) :
    e = .badVariantAccess := by
  unfold childName at h
  split_ifs at h <;> split at h <;> simp_all

/-- A record that a change is about has the type of the change's record. -/
theorem dnsType_of_storedIn (h : r.storedIn records = some s) :
    s ∈ records ∧ s.dnsType = r.dnsType := by
  obtain ⟨i, hi, hs⟩ := Option.bind_eq_some_iff.mp h
  refine ⟨List.mem_of_getElem? hs, ?_⟩
  unfold findIn at hi
  split_ifs at hi
  · obtain ⟨hlt, hp, -⟩ := List.findIdx?_eq_some_iff_getElem.mp hi
    obtain ⟨-, rfl⟩ := List.getElem?_eq_some_iff.mp hs
    simp only [isReannouncementOf, Bool.and_eq_true, decide_eq_true_eq] at hp
    exact hp.1.1.1.1.symm
  · obtain ⟨hlt, hp, -⟩ := List.findIdx?_eq_some_iff_getElem.mp hi
    obtain ⟨-, rfl⟩ := List.getElem?_eq_some_iff.mp hs
    simpa using hp

theorem lt_length_of_findIn {i : ℕ} (h : r.findIn records = some i) : i < records.length := by
  unfold findIn at h
  split_ifs at h <;> exact (List.findIdx?_eq_some_iff_getElem.mp h).1

theorem applyTo_created (h : r.applyTo .created records = .ok records') :
    records' = records ++ [r] := by
  unfold applyTo at h
  cases hi : r.findIn records with
  | none =>
    rw [hi] at h
    exact (Except.ok.inj h).symm
  | some i =>
    rw [hi] at h
    cases h

/-- An update or an expiry is about a stored record. -/
theorem applyTo_stored (h : r.applyTo event records = .ok records') (hevent : event ≠ .created) :
    ∃ i s, r.storedIn records = some s ∧ records[i]? = some s ∧
      (event = .updated → records' = records.set i r) ∧
      (event = .expired → records' = records.eraseIdx i) := by
  unfold applyTo at h
  cases hi : r.findIn records with
  | none =>
    rw [hi] at h
    cases event <;> simp at h hevent
  | some i =>
    have hs := List.getElem?_eq_getElem (lt_length_of_findIn hi)
    refine ⟨i, _, by rw [storedIn, hi, Option.bind_some, hs], hs, ?_, ?_⟩
    · rintro rfl
      rw [hi] at h
      exact (Except.ok.inj h).symm
    · rintro rfl
      rw [hi] at h
      exact (Except.ok.inj h).symm

end MdnsRecord

/-! ### The targets of a list of records -/

/-- The domains that the records of a node point to. -/
def targets (records : List MdnsRecord) : List DomainKey := records.filterMap MdnsRecord.target?

section

variable {r s : MdnsRecord} {records records' : List MdnsRecord} {i : ℕ}

theorem targets_append : targets (records ++ [r]) = targets records ++ r.target?.toList := by
  cases h : r.target? <;> simp [targets, h]

theorem targets_set (hs : records[i]? = some s) (h : s.target? = r.target?) :
    targets (records.set i r) = targets records := by
  have hmap : (records.set i r).map MdnsRecord.target? = records.map MdnsRecord.target? := by
    rw [List.map_set, ← h]
    obtain ⟨hlt, rfl⟩ := List.getElem?_eq_some_iff.mp hs
    refine List.ext_getElem (by simp) fun j _ _ => ?_
    rw [List.getElem_set]
    split_ifs with hij
    · simp [hij]
    · rfl
  have hid : ∀ l, targets l = (l.map MdnsRecord.target?).filterMap id := fun l => by
    rw [List.filterMap_map]
    rfl
  rw [hid, hid, hmap]

theorem targets_eraseIdx (hs : records[i]? = some s) :
    (s.target?.toList ++ targets (records.eraseIdx i)).Perm (targets records) := by
  obtain ⟨hlt, rfl⟩ := List.getElem?_eq_some_iff.mp hs
  have hperm := (List.getElem_cons_eraseIdx_perm hlt).filterMap MdnsRecord.target?
  cases h : records[i].target? with
  | none => simpa [targets, h] using hperm
  | some t => simpa [targets, h] using hperm

end

namespace DnsDataGraph

variable {g g' : DnsDataGraph} {this : DomainKey} {record : MdnsRecord} {event : RecordChangedEvent}

/-! ### The invariant -/

/-- A node whose edges are those of its records, and whose PTR records all have an edge. -/
structure Faithful (n : Node) : Prop where
  children : n.children.Perm (targets n.records)
  ptr : ∀ r ∈ n.records, r.dnsType = .kPTR → r.target?.isSome

/-- All nodes are faithful. -/
def AllFaithful (g : DnsDataGraph) : Prop := ∀ k n, g.heap k = some n → Faithful n

theorem faithful_newNode (name : DomainName) : Faithful (newNode name) :=
  ⟨List.Perm.nil, by simp [newNode]⟩

/-- A record change that the edges follow: a PTR record is created with a target, an SRV record is
updated and expired with the target of the stored one, and a child that is orphaned has children
that its destructor can sweep. -/
structure Follows (g : DnsDataGraph) (record : MdnsRecord) (event : RecordChangedEvent) : Prop where
  ptr : event = .created → record.dnsType = .kPTR → record.target?.isSome
  same : event ≠ .created → ∀ n, g.heap record.name.key = some n →
    ∀ s ∈ record.storedIn n.records, s.target? = record.target?
  sweepable : event = .expired → ∀ t ∈ record.target?, g.Orphans record.name.key t →
    (g.dropEdge record.name.key t).Sweepable t

/-- The steps for which the edges follow the records. -/
def Tame (g : DnsDataGraph) : GraphOp → Prop
  | .startTracking _ => True
  | .stopTracking domain => g.Sweepable domain.key
  | .applyDataRecordChange record event => g.Follows record event

/-- The assertions of `RemoveChild`. -/
def RemoveChildCheck (e : Fault) : Prop :=
  e = .childNotFound ∨ e = .parentNotFound ∨ e = .nodeNotErased

/-- The records of a node after such a change: with the edges changed as the event says, the node
is faithful again. -/
theorem faithful_applyTo {n : Node} {records : List MdnsRecord} (h : Faithful n)
    (hn : g.heap record.name.key = some n) (hfollows : g.Follows record event)
    (happly : record.applyTo event n.records = .ok records) :
    (∀ r ∈ records, r.dnsType = .kPTR → r.target?.isSome) ∧
    (event = .created → (n.children ++ record.target?.toList).Perm (targets records)) ∧
    (event = .updated → n.children.Perm (targets records)) ∧
    (event = .expired → (record.target?.toList ++ targets records).Perm n.children) := by
  obtain ⟨hptr, hsame, -⟩ := hfollows
  by_cases hevent : event = .created
  · subst hevent
    obtain rfl := MdnsRecord.applyTo_created happly
    refine ⟨fun r hr htype => ?_, fun _ => ?_, nofun, nofun⟩
    · rcases List.mem_append.mp hr with hr | hr
      · exact h.ptr r hr htype
      · rw [List.mem_singleton.mp hr] at htype ⊢
        exact hptr rfl htype
    · rw [targets_append]
      exact h.children.append_right _
  · obtain ⟨i, s, hstored, hs, hset, herase⟩ := MdnsRecord.applyTo_stored happly hevent
    have htarget := hsame hevent n hn s hstored
    obtain ⟨hmem, htype⟩ := MdnsRecord.dnsType_of_storedIn hstored
    refine ⟨fun r hr hr' => ?_, fun h => absurd h hevent, fun hupdated => ?_, fun hexpired => ?_⟩
    · cases event with
      | created => exact absurd rfl hevent
      | updated =>
        rw [hset rfl] at hr
        rcases List.mem_or_eq_of_mem_set hr with hr | rfl
        · exact h.ptr r hr hr'
        · rw [← htarget]
          exact h.ptr s hmem (htype.trans hr')
      | expired =>
        rw [herase rfl] at hr
        exact h.ptr r (List.mem_of_mem_eraseIdx hr) hr'
    · rw [hset hupdated, targets_set hs htarget]
      exact h.children
    · rw [herase hexpired, ← htarget]
      exact (targets_eraseIdx hs).trans h.children.symm

theorem AllFaithful.setRecords {n : Node} {records : List MdnsRecord} (h : g.AllFaithful)
    (hrecords : Faithful { n with records := records }) :
    (g.setRecords this n records).AllFaithful := by
  intro k m hm
  by_cases hk : k = this
  · subst hk
    obtain rfl : { n with records := records } = m := by simpa [write] using hm
    exact hrecords
  · exact h k m (by simpa [write, hk] using hm)

theorem Sweepable.congr {k : DomainKey} (h : g.Sweepable k)
    (hchildren : ∀ x, g'.childrenOf x = g.childrenOf x) : g'.Sweepable k := by
  intro x hx
  rw [hchildren]
  exact h x (hx.mono fun y => (hchildren y) ▸ List.Subset.refl _)

/-- A node that has only lost parents is as faithful as before. -/
theorem Faithful.of_shrunk {n n' : Node} (h : Faithful n) (hs : n.Shrunk n') : Faithful n' where
  children := by
    rw [hs.children, hs.records]
    exact h.children
  ptr := by
    rw [hs.records]
    exact h.ptr

/-- A node without edges is added if need be, then an edge of `this` for its new record. -/
theorem AllFaithful.addEdge {n : Node} {name : DomainName} (hg : g.Settled)
    (hn : g.heap this = some n) (h : ∀ k m, k ≠ this → g.heap k = some m → Faithful m)
    (hthis : Faithful { n with children := n.children ++ [name.key] }) :
    ((g.ensure name).addEdge this name.key).AllFaithful := by
  intro k m hm
  obtain ⟨m₀, hm₀, rfl⟩ := Option.map_eq_some_iff.mp hm
  by_cases hk : k = this
  · subst hk
    obtain rfl : n = m₀ := Option.some.inj ((heap_ensure_of_heap hg hn).symm.trans hm₀)
    exact ⟨by simpa [Node.relink] using hthis.children, hthis.ptr⟩
  · have hm₀' : Faithful m₀ := by
      rcases heap_ensure hm₀ with hold | rfl
      · exact h k m₀ hk hold
      · exact faithful_newNode name
    exact ⟨by simpa [Node.relink, hk] using hm₀'.children, hm₀'.ptr⟩

/-- An edge of `this` is removed for the record it has lost. -/
theorem AllFaithful.of_removed {n : Node} {child : DomainKey} (hr : Removed g this child g')
    (hn : g.heap this = some n) (h : ∀ k m, k ≠ this → g.heap k = some m → Faithful m)
    (hthis : Faithful { n with children := n.children.erase child }) : g'.AllFaithful := by
  intro k m hm
  obtain ⟨m₀, hm₀, hs⟩ := hr.shrunk hm
  refine Faithful.of_shrunk ?_ hs
  by_cases hk : k = this
  · subst hk
    obtain rfl : n = m₀ := Option.some.inj (hn.symm.trans hm₀)
    exact ⟨by simpa [Node.relink] using hthis.children, hthis.ptr⟩
  · have hm₀' := h k m₀ hk hm₀
    exact ⟨by simpa [Node.relink, hk] using hm₀'.children, hm₀'.ptr⟩

theorem outcome_applyDataRecordChange_of_follows (hg : g.Settled) (h : g.AllFaithful)
    (hfollows : g.Follows record event) :
    Outcome (fun g' => g'.Settled ∧ g'.AllFaithful) (fun e => record.childName = .error e)
      (g.step (.applyDataRecordChange record event)) := by
  refine outcome_applyDataRecordChange hg ⟨hg.withHandlers, h⟩ (fun e he => ?_)
    fun n name records hn hname happly => ?_
  · exact he
  obtain ⟨hptr, hcreated, hupdated, hexpired⟩ := faithful_applyTo (h _ n hn) hn hfollows happly
  have hg₁ := hg.withHandlers.setRecords hn records
  have hn₁ : (g.withHandlers.setRecords record.name.key n records).heap record.name.key =
      some { n with records := records } := Function.update_self _ _ _
  have hothers : ∀ k m, k ≠ record.name.key →
      (g.withHandlers.setRecords record.name.key n records).heap k = some m → Faithful m :=
    fun k m hk hm => h k m (by simpa [write, hk, withHandlers] using hm)
  split_ifs with hempty
  -- a record without a target changes no edge
  · have htarget := MdnsRecord.target?_of_empty hname hempty
    rw [htarget] at hcreated hexpired
    refine ⟨hg₁, AllFaithful.setRecords (g := g.withHandlers) h ⟨?_, hptr⟩⟩
    cases event with
    | created => simpa using hcreated rfl
    | updated => exact hupdated rfl
    | expired => exact (hexpired rfl).symm
  · have htarget := MdnsRecord.target?_of_not_empty hname hempty
    rw [htarget] at hcreated hexpired
    have hmem : event = .expired → name.key ∈ n.children := fun he =>
      (hexpired he).mem_iff.mp (by simp)
    have hmem₁ : event = .expired → name.key ∈
        (g.withHandlers.setRecords record.name.key n records).childrenOf record.name.key := by
      rw [childrenOf_of_heap hn₁]
      exact hmem
    refine outcome_applyChildChange hg₁ ((hg₁.tracked _).mpr ⟨_, hn₁⟩) (fun he => ?_) (fun he => ?_)
      (fun he hout => ?_) fun he hin => ?_
    · obtain ⟨c, hc⟩ := ((hg₁.ensure name).tracked name.key).mp (mem_nodes_ensure.mpr (Or.inl rfl))
      exact ⟨(hg₁.ensure name).addEdge (heap_ensure_of_heap hg₁ hn₁) hc,
        AllFaithful.addEdge hg₁ hn₁ hothers ⟨hcreated he, hptr⟩⟩
    · exact ⟨hg₁, AllFaithful.setRecords (g := g.withHandlers) h ⟨hupdated he, hptr⟩⟩
    · exact absurd (hg₁.mem_nodes_of_mem (hmem₁ he)) hout
    · refine (outcome_removeChild hg₁ (hmem₁ he)).mono ?_ ?_
      · rintro g' ⟨hg', hremoved⟩
        refine ⟨hg', AllFaithful.of_removed hremoved hn₁ hothers ⟨?_, hptr⟩⟩
        have hperm := ((hexpired he).erase name.key).symm
        simpa using hperm
      · rintro e ⟨-, horphan, hsw⟩
        have horphan' : g.Orphans record.name.key name.key :=
          horphan.congr (parentsOf_setRecords (g := g.withHandlers) hn records).symm
        refine absurd (Sweepable.congr (hfollows.sweepable he name.key htarget horphan')
          fun x => ?_) hsw
        rw [childrenOf_dropEdge, childrenOf_dropEdge,
          childrenOf_setRecords (g := g.withHandlers) hn]
        rfl

/-- **One step.** A tame operation on a settled graph of faithful nodes leaves one, or stops at an
assertion that is not one of `RemoveChild`. -/
theorem outcome_step_of_tame {op : GraphOp} (hg : g.Settled) (h : g.AllFaithful)
    (htame : g.Tame op) :
    Outcome (fun g' => g'.Settled ∧ g'.AllFaithful) (fun e => ¬ RemoveChildCheck e)
      (g.step op) := by
  cases op with
  | startTracking domain =>
    refine Outcome.require_bind (fun _ => by simp [RemoveChildCheck]) fun hk => ?_
    refine ⟨hg.withHandlers.emplace hk, fun k m hm => ?_⟩
    by_cases hne : k = domain.key
    · obtain rfl : newNode domain = m := by simpa [emplace, hne] using hm
      exact faithful_newNode domain
    · exact h k m (by simpa [emplace, hne, withHandlers] using hm)
  | stopTracking domain =>
    refine (outcome_stopTracking hg).mono ?_ ?_
    · rintro g' ⟨hg', hpruned, hout, -⟩
      refine ⟨hg', fun k n' hn' => ?_⟩
      have hk : k ≠ domain.key := fun heq => hout (heq ▸ (hg'.tracked k).mpr ⟨n', hn'⟩)
      obtain ⟨n, hn, hs⟩ := hpruned.shrunk k n' hk hn'
      exact (h k n hn).of_shrunk hs
    · rintro e (⟨rfl, -⟩ | ⟨rfl, -⟩ | ⟨rfl, hsw⟩)
      · simp [RemoveChildCheck]
      · simp [RemoveChildCheck]
      · exact absurd htame hsw
  | applyDataRecordChange record event =>
    refine (outcome_applyDataRecordChange_of_follows hg h htame).mono (fun _ => id) ?_
    intro e he
    rw [MdnsRecord.eq_badVariantAccess_of_childName he]
    simp [RemoveChildCheck]

/-! ### The edges mirror the records -/

/-- The children of every node are the targets of its records, the parents are the reverse
relation, and the nodes that the records lead to are there. -/
structure MirrorsRecords (g : DnsDataGraph) : Prop where
  children : ∀ k n, g.heap k = some n → n.children.Perm (targets n.records)
  parents : ∀ p c, (g.childrenOf p).count c = (g.parentsOf c).count p
  nodes : ∀ k, k ∈ g.nodes ↔ ∃ n, g.heap k = some n
  present : ∀ k n t, g.heap k = some n → t ∈ targets n.records → t ∈ g.nodes
  /-- the lookup of `CalculatePtrRecordEndpoints` finds a node -/
  lookup : ∀ k n r d, g.heap k = some n → r ∈ n.records → r.dnsType = .kPTR → r.rdata = .ptr d →
    d.key ∈ g.nodes

theorem mirrorsRecords_of_faithful (hg : g.Settled) (h : g.AllFaithful) : g.MirrorsRecords := by
  have hpresent : ∀ k n t, g.heap k = some n → t ∈ targets n.records → t ∈ g.nodes := by
    intro k n t hn ht
    have hmem : t ∈ g.childrenOf k := by
      rw [childrenOf_of_heap hn]
      exact (h k n hn).children.mem_iff.mpr ht
    exact hg.mem_nodes_of_mem hmem
  refine ⟨fun k n hn => (h k n hn).children, hg.linked, hg.tracked, hpresent, ?_⟩
  intro k n r d hn hr htype hrdata
  have hname : r.childName = .ok d := by simp [MdnsRecord.childName, htype, hrdata]
  have hsome := (h k n hn).ptr r hr htype
  by_cases hempty : d.empty
  · rw [MdnsRecord.target?_of_empty hname hempty] at hsome
    cases hsome
  · exact hpresent k n d.key hn
      (List.mem_filterMap.mpr ⟨r, hr, MdnsRecord.target?_of_not_empty hname hempty⟩)

/-- **After every sequence of tame operations the edges mirror the records**, and none of them fails
an assertion of `RemoveChild`. -/
theorem edges_mirror_records {ops : List GraphOp} (h : Along step Tame initial ops) :
    (∀ g, run ops = .ok g → g.MirrorsRecords) ∧
      ∀ e, run ops = .error e → ¬ RemoveChildCheck e := by
  have hrun : Outcome (fun g => g.Settled ∧ g.AllFaithful) (fun e => ¬ RemoveChildCheck e)
      (run ops) :=
    Outcome.foldlM_along ⟨settled_initial, fun _ _ hn => by cases hn⟩ h fun _ _ hg htame =>
      outcome_step_of_tame hg.1 hg.2 htame
  refine ⟨fun g hg => ?_, fun e he => hrun.of_error he⟩
  obtain ⟨hsettled, hfaithful⟩ := hrun.of_ok hg
  exact mirrorsRecords_of_faithful hsettled hfaithful

/-! ### An SRV record that changes its target -/

/-- A name of one letter. -/
def exampleName (c : UInt8) : DomainName :=
  ⟨[[c]], by simp [isValidDomainLabel], by simp [wireSize]⟩

/-- A PTR and an SRV record from one name to another. -/
def examplePtr (c d : UInt8) : MdnsRecord :=
  ⟨exampleName c, .kPTR, .kIN, .shared, 120, .ptr (exampleName d), by norm_num, rfl⟩
def exampleSrv (c d : UInt8) : MdnsRecord :=
  ⟨exampleName c, .kSRV, .kIN, .unique, 120, .srv 0 0 80 (exampleName d), by norm_num, rfl⟩

/-- A service `r`, an instance `i` of it at the host `a`. -/
def exampleService : List GraphOp :=
  [.startTracking (exampleName 114),
    .applyDataRecordChange (examplePtr 114 105) .created,
    .applyDataRecordChange (exampleSrv 105 97) .created]

/-- The SRV record is refreshed and expires, and the tracking of the service stops. -/
def endedService : List GraphOp :=
  exampleService ++ [.applyDataRecordChange (exampleSrv 105 97) .updated,
    .applyDataRecordChange (exampleSrv 105 97) .expired, .stopTracking (exampleName 114)]

theorem edges_mirror_records_endedService :
    Along step Tame initial endedService ∧
      ∃ g, run endedService = .ok g ∧ g.nodes = ∅ ∧ g.MirrorsRecords := by
  have htame : Along step Tame initial endedService := by
    refine ⟨trivial, fun _ h => ?_⟩
    cases h
    refine ⟨⟨fun _ _ => by decide, fun he => absurd rfl he, nofun⟩, fun _ h => ?_⟩
    cases h
    refine ⟨⟨fun _ htype => absurd htype (by decide), fun he => absurd rfl he, nofun⟩,
      fun _ h => ?_⟩
    cases h
    refine ⟨⟨nofun, fun _ n hn s hs => ?_, nofun⟩, fun _ h => ?_⟩
    · cases hn
      cases hs
      rfl
    cases h
    refine ⟨⟨nofun, fun _ n hn s hs => ?_, fun _ t ht _ => ?_⟩, fun _ h => ?_⟩
    · cases hn
      cases hs
      rfl
    · cases ht
      exact sweepable_of_children rfl nofun
    cases h
    refine ⟨sweepable_of_children rfl fun y hy => ?_, fun _ _ => trivial⟩
    cases List.mem_singleton.mp hy
    exact sweepable_of_children rfl nofun
  have heval : Outcome (fun g => g.nodes = ∅) (fun _ => False) (run endedService) := by
    decide +kernel
  obtain ⟨g, hg, hnone⟩ := heval.exists_ok
  exact ⟨htame, g, hg, hnone, (edges_mirror_records htame).1 g hg⟩

/-- The instance moves from `a` to itself as a host. -/
def movedService : List GraphOp :=
  exampleService ++ [.applyDataRecordChange (exampleSrv 105 105) .updated]

theorem outcome_run_movedService :
    Outcome
      (fun g => (g.heap [[105]]).map Node.children = some [[[97]]] ∧
        (g.heap [[105]]).map (fun n => targets n.records) = some [[[105]]] ∧
        Outcome (fun _ => False) (· = .childNotFound)
          (g.step (.applyDataRecordChange (exampleSrv 105 105) .expired)))
      (fun _ => False) (run movedService) := by
  decide +kernel

/-- The edge still leads to the old host, and the expiry of the record fails an assertion. -/
theorem not_mirrorsRecords_movedService :
    ∃ g, run movedService = .ok g ∧ ¬ g.MirrorsRecords ∧
      g.step (.applyDataRecordChange (exampleSrv 105 105) .expired) = .error .childNotFound := by
  obtain ⟨g, hg, hchildren, htargets, hexpired⟩ := outcome_run_movedService.exists_ok
  refine ⟨g, hg, fun h => ?_, ?_⟩
  · obtain ⟨n, hn, hn'⟩ := Option.map_eq_some_iff.mp hchildren
    have hperm := h.children _ n hn
    rw [hn, Option.map_some, Option.some_inj] at htargets
    rw [hn', htargets] at hperm
    exact absurd hperm (by decide)
  · obtain ⟨e, he, rfl⟩ := hexpired.exists_error
    exact he

end DnsDataGraph

end StreamerPlus.Discovery
