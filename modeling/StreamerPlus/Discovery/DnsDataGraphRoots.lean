import StreamerPlus.Discovery.DnsDataGraphEdges

/-!
# Explicitly tracked domains of the DNS-SD graph

A domain that `StartTracking` was called for is a node without parents. It stays one as long as no
record is created that points to it, since a deletion only takes nodes that an edge leads to. With
such a record, the node has a parent: `StopTracking` then fails an assertion, and the expiry of the
record deletes the domain as an orphan.
-/

namespace StreamerPlus.Discovery

open Checked

namespace DnsDataGraph

variable {g g' : DnsDataGraph} {this child : DomainKey} {domains : Set DomainName} {op : GraphOp}

/-- A settled graph in which the domains are nodes that no edge leads to. -/
structure HasRoots (g : DnsDataGraph) (domains : Set DomainName) : Prop where
  settled : g.Settled
  tracked : ∀ d ∈ domains, d.key ∈ g.nodes
  parents : ∀ d ∈ domains, g.parentsOf d.key = []

namespace GraphOp

/-- The operation stops the tracking of the domain. -/
def Stops (domain : DomainName) : GraphOp → Prop
  | stopTracking d => d.key = domain.key
  | _ => False

/-- The operation creates a record that points to the domain. -/
def PointsTo (domain : DomainName) : GraphOp → Prop
  | applyDataRecordChange record .created => record.target? = some domain.key
  | _ => False

end GraphOp

namespace HasRoots

variable (h : g.HasRoots domains)
include h

theorem withHandlers : g.withHandlers.HasRoots domains :=
  ⟨h.settled.withHandlers, h.tracked, h.parents⟩

theorem setRecords {k : DomainKey} {n : Node} (hn : g.heap k = some n) (records : List MdnsRecord) :
    (g.setRecords k n records).HasRoots domains :=
  ⟨h.settled.setRecords hn records, h.tracked,
    fun d hd => (parentsOf_setRecords hn records).trans (h.parents d hd)⟩

theorem emplace {name : DomainName} (hk : name.key ∉ g.nodes) : (g.emplace name).HasRoots domains :=
  ⟨h.settled.emplace hk, fun d hd => Finset.mem_insert_of_mem (h.tracked d hd),
    fun d hd => (parentsOf_emplace (h.settled.heap_eq_none hk)).trans (h.parents d hd)⟩

theorem ensure (name : DomainName) : (g.ensure name).HasRoots domains := by
  unfold DnsDataGraph.ensure
  split_ifs with hk
  exacts [h, h.emplace hk]

theorem addEdge {n c : Node} (hn : g.heap this = some n)
    (hc : g.heap child = some c) (hne : ∀ d ∈ domains, child ≠ d.key) :
    (g.addEdge this child).HasRoots domains :=
  ⟨h.settled.addEdge hn hc, h.tracked,
    fun d hd => by rw [parentsOf_relink hc, if_neg (hne d hd).symm, h.parents d hd]⟩

/-- A deletion leaves the roots in place. -/
theorem of_pruned {k : DomainKey} (hg' : g'.Settled)
    (hp : Pruned k g g') (hne : ∀ d ∈ domains, d.key ≠ k) : g'.HasRoots domains := by
  have hroot : ∀ d ∈ domains, d.key ∈ g'.nodes ∧ g'.parentsOf d.key = [] := by
    intro d hd
    obtain ⟨n, hn⟩ := (h.settled.tracked d.key).mp (h.tracked d hd)
    have hparents : n.parents = [] := by rw [← parentsOf_of_heap hn, h.parents d hd]
    obtain ⟨hin, n', hn'⟩ := hp.kept d.key n (hne d hd) hn fun _ => hparents
    obtain ⟨m, hm, hs⟩ := hp.shrunk d.key n' (hne d hd) hn'
    obtain rfl : n = m := Option.some.inj (hn.symm.trans hm)
    refine ⟨hin (h.tracked d hd), ?_⟩
    rw [parentsOf_of_heap hn']
    exact List.subset_nil.mp (hparents ▸ hs.parents)
  exact ⟨hg', fun d hd => (hroot d hd).1, fun d hd => (hroot d hd).2⟩

theorem of_removed (hg' : g'.Settled)
    (hmem : child ∈ g.childrenOf this) (hr : Removed g this child g') : g'.HasRoots domains := by
  have hne : ∀ d ∈ domains, d.key ≠ child := by
    rintro d hd rfl
    have hparent := h.settled.linked.mem_iff.mp hmem
    rw [h.parents d hd] at hparent
    cases hparent
  have hdrop : (g.dropEdge this child).HasRoots domains :=
    ⟨h.settled.dropEdge this child, h.tracked,
      fun d hd => by rw [parentsOf_dropEdge, if_neg (hne d hd), h.parents d hd]⟩
  rcases hr with rfl | ⟨-, -, -, hp⟩
  exacts [hdrop, hdrop.of_pruned hg' hp hne]

/-- **One step.** The roots stay roots unless the tracking of one is stopped or a record is created
that points to one. -/
theorem step (hstops : ∀ d ∈ domains, ¬ op.Stops d) (hpoints : ∀ d ∈ domains, ¬ op.PointsTo d) :
    Outcome (fun g' => g'.HasRoots domains) (fun _ => True) (g.step op) := by
  cases op with
  | startTracking d =>
    exact Outcome.require_bind (fun _ => trivial) fun hk => h.withHandlers.emplace hk
  | stopTracking d =>
    refine (outcome_stopTracking h.settled).mono ?_ fun _ _ => trivial
    rintro g' ⟨hg', hp, -⟩
    exact h.of_pruned hg' hp fun d' hd' heq => hstops d' hd' heq.symm
  | applyDataRecordChange record event =>
    refine outcome_applyDataRecordChange h.settled h.withHandlers (fun _ _ => trivial)
      fun n name records hn hname happly => ?_
    have h₁ := h.withHandlers.setRecords hn records
    have hn₁ : (g.withHandlers.setRecords record.name.key n records).heap record.name.key =
        some { n with records := records } := Function.update_self _ _ _
    split_ifs with hempty
    · exact h₁
    refine outcome_applyChildChange h₁.settled ((h₁.settled.tracked _).mpr ⟨_, hn₁⟩)
      (fun he => ?_) (fun _ => h₁) (fun _ _ => h₁) fun _ _ => ?_
    · subst he
      have hne : ∀ d ∈ domains, name.key ≠ d.key := fun d hd heq => hpoints d hd
        ((MdnsRecord.target?_of_not_empty hname hempty).trans (congrArg some heq))
      obtain ⟨c, hc⟩ := ((h₁.settled.ensure name).tracked name.key).mp
        (mem_nodes_ensure.mpr (Or.inl rfl))
      exact (h₁.ensure name).addEdge (heap_ensure_of_heap h₁.settled hn₁) hc hne
    · by_cases hmem : name.key ∈ n.children
      · have hmem₁ : name.key ∈ (g.withHandlers.setRecords record.name.key n records).childrenOf
            record.name.key := by rwa [childrenOf_of_heap hn₁]
        refine (outcome_removeChild h₁.settled hmem₁).mono ?_ fun _ _ => trivial
        rintro g' ⟨hg', hr⟩
        exact h₁.of_removed hg' hmem₁ hr
      · rw [removeChild_eq_error hn₁ hmem]
        trivial

end HasRoots

/-- Every operation keeps the graph settled, whatever the records say. -/
theorem Settled.step (h : g.Settled) : Outcome Settled (fun _ => True) (g.step op) := by
  have hroots : g.HasRoots ∅ := ⟨h, by simp, by simp⟩
  exact (hroots.step (by simp) (by simp)).mono (fun _ hg' => hg'.settled) fun _ _ => trivial

/-- Operations lead to settled graphs only. -/
theorem settled_of_run {ops : List GraphOp} (h : run ops = .ok g) : g.Settled :=
  (Outcome.foldlM (E := fun _ => True) settled_initial fun _ _ _ hg => hg.step).of_ok h

/-- **A domain stays tracked after `StartTracking`** while no record is created that points to it,
and `StopTracking` then succeeds if the destructors it runs can sweep the children they meet. -/
theorem startTracking_stays_tracked {before after : List GraphOp} {domain : DomainName}
    {g : DnsDataGraph} (hafter : ∀ op ∈ after, ¬ op.Stops domain ∧ ¬ op.PointsTo domain)
    (hrun : run (before ++ .startTracking domain :: after) = .ok g) :
    g.isTracked domain ∧ (g.Sweepable domain.key → ∃ g', g.stopTracking domain = .ok g') := by
  rw [run, List.foldlM_append, bind_eq_ok] at hrun
  obtain ⟨g₀, hbefore, hrun⟩ := hrun
  rw [List.foldlM_cons, bind_eq_ok] at hrun
  obtain ⟨g₁, hstart, hrun⟩ := hrun
  have hg₀ : g₀.Settled := settled_of_run hbefore
  obtain ⟨hk, rfl⟩ := startTracking_eq_ok.mp hstart
  have hroot : (g₀.withHandlers.emplace domain).HasRoots {domain} :=
    ⟨hg₀.withHandlers.emplace hk, by simp [emplace], by simp [parentsOf, emplace, newNode]⟩
  have hg : g.HasRoots {domain} :=
    (Outcome.foldlM (P := fun g => g.HasRoots {domain}) hroot fun _ op hop hg =>
      hg.step (by simpa using (hafter op hop).1) (by simpa using (hafter op hop).2)).of_ok hrun
  have htracked : domain.key ∈ g.nodes := hg.tracked domain rfl
  refine ⟨by simpa [isTracked] using htracked, fun hsw => ?_⟩
  have hstop : Outcome (fun _ => True) (fun _ => False) (g.stopTracking domain) := by
    refine (outcome_stopTracking hg.settled).mono (fun _ _ => trivial) fun e he => ?_
    rcases he with ⟨-, hout⟩ | ⟨-, hparents⟩ | ⟨-, hnot⟩
    exacts [hout htracked, hparents (hg.parents domain rfl), hnot hsw]
  obtain ⟨g', hg', -⟩ := hstop.exists_ok
  exact ⟨g', hg'⟩

/-- Two edges of the service `r` to the instances `i` and `j`. -/
def twoInstances : List GraphOp :=
  [.applyDataRecordChange (examplePtr 114 105) .created,
    .applyDataRecordChange (examplePtr 114 106) .created]

/-- The service stays tracked, and its tracking can be stopped with both instances. -/
theorem startTracking_stays_tracked_twoInstances :
    ∃ g g', run ([] ++ .startTracking (exampleName 114) :: twoInstances) = .ok g ∧
      g.isTracked (exampleName 114) ∧ g.stopTracking (exampleName 114) = .ok g' := by
  have heval : Outcome (fun g => sweeps (g.childrenOf [[114]]) ∧ (g.childrenOf [[114]]).length = 2 ∧
        ∀ y ∈ g.childrenOf [[114]], g.childrenOf y = []) (fun _ => False)
      (run ([] ++ .startTracking (exampleName 114) :: twoInstances)) := by
    decide +kernel
  obtain ⟨g, hg, hsweeps, -, hleaves⟩ := heval.exists_ok
  have hafter : ∀ op ∈ twoInstances, ¬ op.Stops (exampleName 114) ∧
      ¬ op.PointsTo (exampleName 114) := by
    rw [twoInstances, List.forall_mem_cons, List.forall_mem_singleton]
    simp only [GraphOp.Stops, GraphOp.PointsTo]
    decide
  obtain ⟨htracked, hstop⟩ := startTracking_stays_tracked hafter hg
  obtain ⟨g', hg'⟩ := hstop (sweepable_of_children hsweeps fun y hy =>
    sweepable_of_children (by rw [hleaves y hy]; rfl) (by simp [hleaves y hy]))
  exact ⟨g, g', hg, htracked, hg'⟩

/-! ### A record that points back -/

/-- The instance `i` of the service `r` has a PTR record that points to the service. -/
def pointsBack : List GraphOp :=
  [.startTracking (exampleName 114), .applyDataRecordChange (examplePtr 114 105) .created,
    .applyDataRecordChange (examplePtr 105 114) .created]

theorem outcome_run_pointsBack :
    Outcome
      (fun g => Outcome (fun _ => False) (· = .hasParents) (g.stopTracking (exampleName 114)) ∧
        Outcome (fun g' => g'.isTracked (exampleName 114) = false) (fun _ => False)
          (g.step (.applyDataRecordChange (examplePtr 105 114) .expired)))
      (fun _ => False) (run pointsBack) := by
  decide +kernel

/-- `StopTracking` fails its assertion, and the expiry of the record deletes the service. -/
theorem not_stays_tracked_pointsBack :
    ∃ g, run pointsBack = .ok g ∧ g.stopTracking (exampleName 114) = .error .hasParents ∧
      ∃ g', g.step (.applyDataRecordChange (examplePtr 105 114) .expired) = .ok g' ∧
        ¬ g'.isTracked (exampleName 114) := by
  obtain ⟨g, hg, hstop, hexpired⟩ := outcome_run_pointsBack.exists_ok
  obtain ⟨e, he, rfl⟩ := hstop.exists_error
  obtain ⟨g', hg', htracked⟩ := hexpired.exists_ok
  exact ⟨g, hg, he, g', hg', by simp [htracked]⟩

/-- **No pointer of the graph dangles.** After any operations, an edge stands as often at either of
its ends, and both of these are tracked. -/
theorem count_edges_of_run {ops : List GraphOp} (h : run ops = .ok g) (parent child : DomainKey) :
    (g.childrenOf parent).count child = (g.parentsOf child).count parent ∧
      (child ∈ g.childrenOf parent → parent ∈ g.nodes ∧ child ∈ g.nodes) := by
  have hg := settled_of_run h
  refine ⟨hg.linked parent child, fun hmem => ⟨?_, hg.mem_nodes_of_mem hmem⟩⟩
  by_contra hout
  rw [childrenOf, hg.heap_eq_none hout] at hmem
  cases hmem

theorem count_edges_pointsBack :
    ∃ g, run pointsBack = .ok g ∧
      (g.childrenOf [[114]]).count [[105]] = (g.parentsOf [[105]]).count [[114]] := by
  obtain ⟨g, hg, -⟩ := outcome_run_pointsBack.exists_ok
  exact ⟨g, hg, (count_edges_of_run hg _ _).1⟩

end DnsDataGraph

end StreamerPlus.Discovery
