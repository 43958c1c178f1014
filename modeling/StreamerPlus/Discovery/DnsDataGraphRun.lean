import StreamerPlus.Discovery.DnsDataGraphLinks

/-!
# Runs of the DNS-SD graph

The operations of the graph and sequences of them. Between operations the graph is settled: the
node objects are those in `nodes_`, and both ends of every edge know it. This holds in every run,
whatever the records say. Each operation has a rule that reduces a property of its outcome to the
graphs it can end in.
-/

namespace StreamerPlus.Discovery

open Checked

namespace DnsDataGraph

/-- The operations of the graph that change it. -/
inductive GraphOp
  | startTracking (domain : DomainName)
  | stopTracking (domain : DomainName)
  | applyDataRecordChange (record : MdnsRecord) (event : RecordChangedEvent)

/-- One operation. -/
def step (g : DnsDataGraph) : GraphOp → Except Fault DnsDataGraph
  | .startTracking domain => g.startTracking domain
  | .stopTracking domain => g.stopTracking domain
  | .applyDataRecordChange record event => Prod.fst <$> g.applyDataRecordChange record event

/-- A graph between two operations. -/
structure Settled (g : DnsDataGraph) : Prop where
  linked : g.Linked
  tracked : ∀ k, k ∈ g.nodes ↔ ∃ n, g.heap k = some n

variable {g g' : DnsDataGraph} {this child k x : DomainKey} {n c : Node} {name domain : DomainName}
  {record : MdnsRecord} {event : RecordChangedEvent} {P : DnsDataGraph → Prop} {E : Fault → Prop}

theorem settled_initial : initial.Settled where
  linked _ _ := rfl
  tracked _ := by simp [initial]

theorem Settled.heap_eq_none (h : g.Settled) (hk : k ∉ g.nodes) : g.heap k = none := by
  by_contra hne
  exact hk ((h.tracked k).mpr (Option.ne_none_iff_exists'.mp hne))

theorem Settled.consistent (h : g.Settled) : g.Consistent where
  linked := h.linked
  alive k hk := (h.tracked k).mp hk
  dying k hk p hp := by
    rw [parentsOf, h.heap_eq_none hk] at hp
    cases hp

theorem Settled.mem_nodes_of_mem (h : g.Settled) (hmem : child ∈ g.childrenOf this) :
    child ∈ g.nodes := by
  obtain ⟨c, hc, -⟩ := exists_heap_of_mem_parentsOf (h.linked.mem_iff.mp hmem)
  exact (h.tracked child).mpr ⟨c, hc⟩

theorem Settled.withHandlers (h : g.Settled) : g.withHandlers.Settled := ⟨h.linked, h.tracked⟩

/-! ### New nodes and edges -/

theorem childrenOf_emplace (h : g.heap name.key = none) :
    (g.emplace name).childrenOf x = g.childrenOf x := by
  by_cases hx : x = name.key
  · subst hx
    simp [childrenOf, emplace, newNode, h]
  · simp [childrenOf, emplace, hx]

theorem parentsOf_emplace (h : g.heap name.key = none) :
    (g.emplace name).parentsOf x = g.parentsOf x := by
  by_cases hx : x = name.key
  · subst hx
    simp [parentsOf, emplace, newNode, h]
  · simp [parentsOf, emplace, hx]

theorem Settled.emplace (h : g.Settled) (hk : name.key ∉ g.nodes) : (g.emplace name).Settled where
  linked p c := by
    rw [childrenOf_emplace (h.heap_eq_none hk), parentsOf_emplace (h.heap_eq_none hk)]
    exact h.linked p c
  tracked x := by
    by_cases hx : x = name.key
    · simp [DnsDataGraph.emplace, hx]
    · simp [DnsDataGraph.emplace, hx, h.tracked x]

/-- `nodes_.emplace` of a node unless there is one. -/
def ensure (g : DnsDataGraph) (name : DomainName) : DnsDataGraph :=
  if name.key ∈ g.nodes then g else g.emplace name

theorem Settled.ensure (h : g.Settled) (name : DomainName) : (g.ensure name).Settled := by
  unfold DnsDataGraph.ensure
  split_ifs with hk
  exacts [h, h.emplace hk]

theorem mem_nodes_ensure : x ∈ (g.ensure name).nodes ↔ x = name.key ∨ x ∈ g.nodes := by
  unfold ensure
  split_ifs with hk
  · exact ⟨Or.inr, fun h => h.elim (fun heq => heq ▸ hk) id⟩
  · exact Finset.mem_insert

/-- The nodes that were there are the same. -/
theorem heap_ensure_of_heap (h : g.Settled) (hx : g.heap x = some n) :
    (g.ensure name).heap x = some n := by
  unfold ensure
  split_ifs with hk
  · exact hx
  · have hne : x ≠ name.key := fun heq => hk (heq ▸ (h.tracked x).mpr ⟨n, hx⟩)
    simpa [emplace, hne] using hx

theorem heap_ensure (h : (g.ensure name).heap x = some n) :
    g.heap x = some n ∨ n = newNode name := by
  unfold ensure at h
  split_ifs at h with hk
  · exact Or.inl h
  · by_cases hx : x = name.key
    · right
      simpa [emplace, hx, eq_comm] using h
    · left
      simpa [emplace, hx] using h

/-- The graph with one more edge from `this` to `child`. -/
abbrev addEdge (g : DnsDataGraph) (this child : DomainKey) : DnsDataGraph :=
  g.relink (· ++ [child]) (· ++ [this]) this child

theorem addChild_eq_ok (hn : g.heap this = some n) (hc : g.heap child = some c) :
    g.addChild this child = .ok (g.addEdge this child) := by
  obtain ⟨c', hc', -, hwrite⟩ := write_write (f := (· ++ [child])) (e := (· ++ [this])) hn hc
  simp only [addChild, deref_of_heap hn, ok_bind, hc', hwrite, pure_eq_ok]

theorem Settled.addEdge (h : g.Settled) (hn : g.heap this = some n) (hc : g.heap child = some c) :
    (g.addEdge this child).Settled where
  linked p x := by
    have hpx := h.linked p x
    rw [childrenOf_relink hn, parentsOf_relink hc]
    by_cases hp : p = this <;> by_cases hx : x = child
    · subst hp hx
      rw [childrenOf_of_heap hn, parentsOf_of_heap hc] at hpx
      simp [hpx]
    · subst hp
      rw [childrenOf_of_heap hn] at hpx
      simp [hx, hpx, Ne.symm hx]
    · subst hx
      rw [parentsOf_of_heap hc] at hpx
      simp [hp, hpx, Ne.symm hp]
    · rw [if_neg hp, if_neg hx, hpx]
  tracked x := by
    simpa [relink] using h.tracked x

/-! ### New records -/

/-- The graph with other records at a node. -/
abbrev setRecords (g : DnsDataGraph) (k : DomainKey) (n : Node) (records : List MdnsRecord) :
    DnsDataGraph :=
  g.write k { n with records := records }

theorem childrenOf_setRecords (hn : g.heap k = some n) (records : List MdnsRecord) :
    (g.setRecords k n records).childrenOf x = g.childrenOf x := by
  by_cases hx : x = k
  · subst hx
    simp [childrenOf, write, hn]
  · simp [childrenOf, write, hx]

theorem parentsOf_setRecords (hn : g.heap k = some n) (records : List MdnsRecord) :
    (g.setRecords k n records).parentsOf x = g.parentsOf x := by
  by_cases hx : x = k
  · subst hx
    simp [parentsOf, write, hn]
  · simp [parentsOf, write, hx]

theorem Settled.setRecords (h : g.Settled) (hn : g.heap k = some n) (records : List MdnsRecord) :
    (g.setRecords k n records).Settled where
  linked p c := by
    rw [childrenOf_setRecords hn, parentsOf_setRecords hn]
    exact h.linked p c
  tracked x := by
    by_cases hx : x = k
    · subst hx
      simp [write, h.tracked x, hn]
    · simp [write, hx, h.tracked x]

/-! ### Deletions -/

/-- Every node that `k` reaches can be destroyed. -/
def Sweepable (g : DnsDataGraph) (k : DomainKey) : Prop :=
  ∀ x, g.Reaches k x → sweeps (g.childrenOf x)

theorem sweepable_of_children (h : sweeps (g.childrenOf k))
    (hchildren : ∀ y ∈ g.childrenOf k, g.Sweepable y) : g.Sweepable k := by
  intro x hx
  rcases hx.cases_head with rfl | ⟨y, hy, hyx⟩
  · exact h
  · exact hchildren y hy x hyx

theorem Blames.not_sweepable {e : Fault} (h : g.Blames k e) :
    e = .childNotFound ∧ ¬ g.Sweepable k := by
  obtain ⟨he, x, hreach, -, hsw⟩ := h
  refine ⟨he, fun hall => ?_⟩
  rw [hall x hreach] at hsw
  cases hsw

/-- What is left of a settled graph after `k` and some others are gone is settled. -/
theorem Settled.of_pruned (hg : g.Settled) (h : g'.Consistent) (hp : Pruned k g g')
    (hnone : g'.heap k = none) (hk : k ∉ g'.nodes) : g'.Settled where
  linked := h.linked
  tracked x := by
    refine ⟨h.alive x, fun ⟨n', hn'⟩ => ?_⟩
    have hne : x ≠ k := by
      rintro rfl
      rw [hnone] at hn'
      cases hn'
    obtain ⟨n, hn, -⟩ := hp.shrunk x n' hne hn'
    by_contra hout
    rw [hp.erased x ((hg.tracked x).mpr ⟨n, hn⟩) hne hout] at hn'
    cases hn'

theorem Settled.dropEdge (h : g.Settled) (this child : DomainKey) :
    (g.dropEdge this child).Settled where
  linked := h.linked.dropEdge this child
  tracked x := by
    simpa [relink] using h.tracked x

theorem Settled.of_removed (hg : g.Settled) (h : g'.Consistent) (hr : Removed g this child g') :
    g'.Settled := by
  rcases hr with rfl | ⟨-, hout, hnone, hp⟩
  · exact hg.dropEdge this child
  · exact (hg.dropEdge this child).of_pruned h hp hnone hout

/-- What `RemoveChild` leaves of a node that is still there. -/
theorem Removed.shrunk {n' : Node} (h : Removed g this child g') (hn' : g'.heap x = some n') :
    ∃ n, g.heap x = some n ∧ (n.dropEdge this child x).Shrunk n' := by
  have hdrop : ∃ m, (g.dropEdge this child).heap x = some m ∧ m.Shrunk n' := by
    rcases h with rfl | ⟨-, -, hnone, hp⟩
    · exact ⟨n', hn', .refl n'⟩
    · refine hp.shrunk x n' ?_ hn'
      rintro rfl
      rw [hnone] at hn'
      cases hn'
  obtain ⟨m, hm, hs⟩ := hdrop
  obtain ⟨n, hn, rfl⟩ := Option.map_eq_some_iff.mp hm
  exact ⟨n, hn, hs⟩

theorem outcome_removeChild (h : g.Settled) (hmem : child ∈ g.childrenOf this) :
    Outcome (fun g' => g'.Settled ∧ Removed g this child g')
      (fun e => e = .childNotFound ∧ g.Orphans this child ∧
        ¬ (g.dropEdge this child).Sweepable child)
      (g.removeChild this child) :=
  (outcome_removeChildWith (destroys _) h.consistent hmem (Nat.le_succ _)).mono
    (fun _ hg' => ⟨h.of_removed hg'.1 hg'.2, hg'.2⟩)
    fun _ ⟨_, horphan, he⟩ => ⟨he.not_sweepable.1, horphan, he.not_sweepable.2⟩

theorem removeChild_eq_error (hn : g.heap this = some n) (hmem : child ∉ n.children) :
    g.removeChild this child = .error .childNotFound := by
  rw [removeChild, removeChildWith, unlink_eq_error hn hmem, error_bind]

/-! ### The rules of the operations -/

theorem startTracking_eq_ok :
    g.startTracking domain = .ok g' ↔
      domain.key ∉ g.nodes ∧ g' = g.withHandlers.emplace domain := by
  rw [startTracking, require_bind_eq_ok, pure_eq_ok, Except.ok.injEq, eq_comm (a := g')]

theorem outcome_stopTracking (h : g.Settled) :
    Outcome
      (fun g' => g'.Settled ∧ Pruned domain.key g g' ∧ domain.key ∉ g'.nodes ∧
        g.parentsOf domain.key = [])
      (fun e => e = .notTracked ∧ domain.key ∉ g.nodes ∨
        e = .hasParents ∧ g.parentsOf domain.key ≠ [] ∨
        e = .childNotFound ∧ ¬ g.Sweepable domain.key)
      (g.stopTracking domain) := by
  rw [stopTracking]
  refine Outcome.require_bind (fun hk => Or.inl ⟨rfl, hk⟩) fun hk => ?_
  obtain ⟨n, hn⟩ := (h.tracked domain.key).mp hk
  rw [show g.withHandlers.deref domain.key = .ok n from deref_of_heap hn, ok_bind]
  refine Outcome.require_bind (fun hpar => ?_) fun hpar => ?_
  · exact Or.inr (Or.inl ⟨rfl, parentsOf_of_heap hn ▸ hpar⟩)
  have hpar' : g.parentsOf domain.key = [] := by rw [parentsOf_of_heap hn, hpar]
  have herase := h.withHandlers.consistent.eraseNode (k := domain.key) fun p hp => by
    rw [show g.withHandlers.parentsOf domain.key = [] from hpar'] at hp
    cases hp
  have hcard : (g.nodes.erase domain.key).card < g.nodes.card + 1 :=
    Nat.lt_succ_of_le (Finset.card_le_card (Finset.erase_subset _ _))
  refine (destroys _ _ domain.key n herase (Finset.notMem_erase _ _) hn hcard).mono ?_ ?_
  · rintro g' ⟨hg', hnone, hp⟩
    have hout : domain.key ∉ g'.nodes := fun hin =>
      Finset.notMem_erase _ _ (hp.nodes_subset hin)
    have hp' : Pruned domain.key g g' := ⟨hp.of_eraseNode.nodes_subset, hp.of_eraseNode.shrunk,
      hp.of_eraseNode.erased, hp.of_eraseNode.kept⟩
    exact ⟨h.of_pruned hg' hp' hnone hout, hp', hout, hpar'⟩
  · rintro e hblames
    exact Or.inr (Or.inr hblames.not_sweepable)

theorem outcome_applyChildChange (h : g.Settled) (hthis : this ∈ g.nodes)
    (hcreated : event = .created → P ((g.ensure name).addEdge this name.key))
    (hupdated : event = .updated → P g)
    (hgone : event = .expired → name.key ∉ g.nodes → P g)
    (hexpired : event = .expired → name.key ∈ g.nodes →
      Outcome P E (g.removeChild this name.key)) :
    Outcome P E (g.applyChildChange this name event) := by
  cases event with
  | created =>
    obtain ⟨n, hn⟩ := (h.tracked this).mp hthis
    obtain ⟨c, hc⟩ := ((h.ensure name).tracked name.key).mp (mem_nodes_ensure.mpr (Or.inl rfl))
    have hadd := addChild_eq_ok (heap_ensure_of_heap h hn) hc
    exact (congrArg (Outcome P E) hadd).mpr (hcreated rfl)
  | updated => exact hupdated rfl
  | expired =>
    simp only [applyChildChange]
    split_ifs with hk
    exacts [hexpired rfl hk, hgone rfl hk]

/-- A record change that is applied writes the records of its node, then the edges. -/
theorem outcome_applyDataRecordChange (h : g.Settled) (hsame : P g.withHandlers)
    (hvariant : ∀ e, record.childName = .error e → E e)
    (hedge : ∀ n name records, g.heap record.name.key = some n → record.childName = .ok name →
      record.applyTo event n.records = .ok records →
      Outcome P E (if name.empty then pure (g.withHandlers.setRecords record.name.key n records)
        else (g.withHandlers.setRecords record.name.key n records).applyChildChange
          record.name.key name event)) :
    Outcome P E (g.step (.applyDataRecordChange record event)) := by
  rw [step]
  refine Outcome.map ?_
  rw [applyDataRecordChange]
  dsimp only
  split_ifs with hk
  · obtain ⟨n, hn⟩ := (h.tracked record.name.key).mp hk
    rw [show g.withHandlers.deref record.name.key = .ok n from deref_of_heap hn, ok_bind]
    cases hname : record.childName with
    | error e =>
      exact hvariant e hname
    | ok name =>
      rw [ok_bind]
      cases happly : record.applyTo event n.records with
      | error e => exact hsame
      | ok records =>
        refine Outcome.bind (hedge n name records hn hname happly) ?_
        exact fun _ hg' => hg'
  · exact hsame

/-! ### Sequences of operations -/

/-- The graph after a sequence of operations. -/
def run (ops : List GraphOp) : Except Fault DnsDataGraph := ops.foldlM step initial

end DnsDataGraph

end StreamerPlus.Discovery
