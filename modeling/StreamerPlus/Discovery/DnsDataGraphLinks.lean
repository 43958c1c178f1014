import Mathlib
import StreamerPlus.Discovery.DnsDataGraph

/-!
# Edges and deletions of the DNS-SD graph

The two ends of every edge agree: a node is among the children of another as often as the other is
among its parents. The removal of an edge and the deletion of a node keep this, whatever records
the nodes hold, and a deletion leaves alone the nodes that no edge leads to. The only assertion
that a deletion can fail is the search in `RemoveChild`, when the loop of `~Node()` reads behind
the live elements of `children_`; `sweeps` says when it does not.
-/

namespace StreamerPlus.Discovery

open Checked

/-- The node `x` after the ends of an edge from `this` to `child` have been rewritten. -/
def Node.relink (f e : List DomainKey → List DomainKey) (this child x : DomainKey) (n : Node) :
    Node :=
  { n with
    children := if x = this then f n.children else n.children
    parents := if x = child then e n.parents else n.parents }

/-- The node `x` without one edge from `this` to `child`. -/
abbrev Node.dropEdge (this child x : DomainKey) (n : Node) : Node :=
  n.relink (·.erase child) (·.erase this) this child x

/-- A node that may have lost parents. -/
structure Node.Shrunk (n n' : Node) : Prop where
  name : n'.name = n.name
  records : n'.records = n.records
  children : n'.children = n.children
  parents : n'.parents ⊆ n.parents

theorem Node.Shrunk.refl (n : Node) : n.Shrunk n := ⟨rfl, rfl, rfl, List.Subset.refl _⟩

theorem Node.Shrunk.trans {n m l : Node} (h : n.Shrunk m) (h' : m.Shrunk l) : n.Shrunk l :=
  ⟨h'.name.trans h.name, h'.records.trans h.records, h'.children.trans h.children,
    List.Subset.trans h'.parents h.parents⟩

theorem Node.shrunk_dropEdge {this child x : DomainKey} (h : x ≠ this) (n : Node) :
    n.Shrunk (n.dropEdge this child x) := by
  refine ⟨rfl, rfl, if_neg h, ?_⟩
  simp only [Node.relink]
  split_ifs
  exacts [List.erase_subset, List.Subset.refl _]

namespace DnsDataGraph

variable {g g' g'' : DnsDataGraph} {this child k x : DomainKey} {n : Node}

/-! ### The two ends of an edge -/

/-- The children of a node, none if there is no such node. -/
def childrenOf (g : DnsDataGraph) (k : DomainKey) : List DomainKey :=
  (g.heap k).elim [] Node.children

/-- The parents of a node, none if there is no such node. -/
def parentsOf (g : DnsDataGraph) (k : DomainKey) : List DomainKey :=
  (g.heap k).elim [] Node.parents

/-- Both ends of every edge know it, with its multiplicity. -/
def Linked (g : DnsDataGraph) : Prop :=
  ∀ p c, (g.childrenOf p).count c = (g.parentsOf c).count p

theorem childrenOf_of_heap (h : g.heap k = some n) : g.childrenOf k = n.children := by
  rw [childrenOf, h, Option.elim_some]

theorem parentsOf_of_heap (h : g.heap k = some n) : g.parentsOf k = n.parents := by
  rw [parentsOf, h, Option.elim_some]

theorem deref_of_heap (h : g.heap k = some n) : g.deref k = .ok n := by
  rw [deref, h]

theorem Linked.mem_iff (h : g.Linked) : child ∈ g.childrenOf this ↔ this ∈ g.parentsOf child := by
  rw [← List.count_pos_iff, h, List.count_pos_iff]

/-- A node that is among some children or parents is there. -/
theorem exists_heap_of_mem_parentsOf (h : x ∈ g.parentsOf k) :
    ∃ n, g.heap k = some n ∧ x ∈ n.parents := by
  cases hk : g.heap k with
  | none => simp [parentsOf, hk] at h
  | some n => exact ⟨n, rfl, parentsOf_of_heap hk ▸ h⟩

theorem exists_heap_of_mem_childrenOf (h : x ∈ g.childrenOf k) :
    ∃ n, g.heap k = some n ∧ x ∈ n.children := by
  cases hk : g.heap k with
  | none => simp [childrenOf, hk] at h
  | some n => exact ⟨n, rfl, childrenOf_of_heap hk ▸ h⟩

/-! ### The two ends of an edge are written -/

/-- The graph after the ends of an edge have been rewritten. -/
def relink (g : DnsDataGraph) (f e : List DomainKey → List DomainKey) (this child : DomainKey) :
    DnsDataGraph :=
  { g with heap := fun x => (g.heap x).map (Node.relink f e this child x) }

section

variable {f e : List DomainKey → List DomainKey} {c : Node}

theorem heap_relink (h : g.heap x = some n) :
    (g.relink f e this child).heap x = some (n.relink f e this child x) := by
  simp only [relink, h, Option.map_some]

theorem heap_relink_of_ne (hthis : x ≠ this) (hchild : x ≠ child) :
    (g.relink f e this child).heap x = g.heap x := by
  cases h : g.heap x with
  | none => simp only [relink, h, Option.map_none]
  | some n => rw [heap_relink h, Node.relink, if_neg hthis, if_neg hchild]

theorem childrenOf_relink (hthis : g.heap this = some n) :
    (g.relink f e this child).childrenOf x =
      if x = this then f n.children else g.childrenOf x := by
  by_cases hx : x = this
  · subst hx
    rw [childrenOf_of_heap (heap_relink hthis), Node.relink, if_pos rfl, if_pos rfl]
  · cases h : g.heap x <;> simp [childrenOf, relink, h, Node.relink, hx]

theorem parentsOf_relink (hchild : g.heap child = some c) :
    (g.relink f e this child).parentsOf x =
      if x = child then e c.parents else g.parentsOf x := by
  by_cases hx : x = child
  · subst hx
    rw [parentsOf_of_heap (heap_relink hchild), Node.relink, if_pos rfl, if_pos rfl]
  · cases h : g.heap x <;> simp [parentsOf, relink, h, Node.relink, hx]

/-- The two writes of `AddChild` and `RemoveChild`, also for an edge from a node to itself. -/
theorem write_write (hn : g.heap this = some n) (hc : g.heap child = some c) :
    ∃ c', (g.write this { n with children := f n.children }).deref child = .ok c' ∧
      c'.parents = c.parents ∧
      (g.write this { n with children := f n.children }).write child
        { c' with parents := e c'.parents } = g.relink f e this child := by
  have hgraph : ∀ w : DomainKey → Option Node, (∀ x, w x = (g.relink f e this child).heap x) →
      { g with heap := w } = g.relink f e this child := by
    intro w hw
    rw [funext hw]
    rfl
  by_cases heq : child = this
  · subst heq
    obtain rfl : n = c := Option.some.inj (hn.symm.trans hc)
    refine ⟨{ n with children := f n.children }, ?_, rfl, hgraph _ fun x => ?_⟩
    · simp only [deref, write, Function.update_self]
    · by_cases hx : x = child
      · subst hx
        simp [write, heap_relink hn, Node.relink]
      · simp [write, hx, heap_relink_of_ne hx hx]
  · refine ⟨c, ?_, rfl, hgraph _ fun x => ?_⟩
    · simp only [deref, write, Function.update_of_ne heq, hc]
    · by_cases hx : x = child
      · subst hx
        simp [write, heap_relink hc, Node.relink, heq]
      · by_cases hx' : x = this
        · subst hx'
          simp [write, heap_relink hn, Node.relink, hx]
        · simp [write, hx, hx', heap_relink_of_ne hx' hx]

end

/-- The graph without one edge from `this` to `child`. -/
abbrev dropEdge (g : DnsDataGraph) (this child : DomainKey) : DnsDataGraph :=
  g.relink (·.erase child) (·.erase this) this child

theorem heap_dropEdge (this child : DomainKey) (h : g.heap x = some n) :
    (g.dropEdge this child).heap x = some (n.dropEdge this child x) :=
  heap_relink h

theorem childrenOf_dropEdge :
    (g.dropEdge this child).childrenOf x =
      if x = this then (g.childrenOf x).erase child else g.childrenOf x := by
  cases h : g.heap x <;> simp [childrenOf, relink, h, Node.relink]

theorem parentsOf_dropEdge :
    (g.dropEdge this child).parentsOf x =
      if x = child then (g.parentsOf x).erase this else g.parentsOf x := by
  cases h : g.heap x <;> simp [parentsOf, relink, h, Node.relink]

theorem parentsOf_dropEdge_subset : (g.dropEdge this child).parentsOf x ⊆ g.parentsOf x := by
  rw [parentsOf_dropEdge]
  split_ifs
  exacts [List.erase_subset, List.Subset.refl _]

theorem Linked.dropEdge (h : g.Linked) (this child : DomainKey) :
    (g.dropEdge this child).Linked := by
  intro p c
  rw [childrenOf_dropEdge, parentsOf_dropEdge]
  have hpc := h p c
  by_cases hp : p = this <;> by_cases hc : c = child
  · subst hp hc
    rw [if_pos rfl, if_pos rfl, List.count_erase_self, List.count_erase_self, hpc]
  · rw [if_pos hp, if_neg hc, List.count_erase_of_ne hc, hpc]
  · rw [if_neg hp, if_pos hc, List.count_erase_of_ne hp, hpc]
  · rw [if_neg hp, if_neg hc, hpc]

theorem unlink_eq_ok (h : g.Linked) (hmem : child ∈ g.childrenOf this) :
    g.unlink this child = .ok (g.dropEdge this child) := by
  obtain ⟨n, hn, hchild⟩ := exists_heap_of_mem_childrenOf hmem
  obtain ⟨c, hc, hthis⟩ := exists_heap_of_mem_parentsOf (h.mem_iff.mp hmem)
  obtain ⟨c', hc', hparents, hwrite⟩ :=
    write_write (f := (·.erase child)) (e := (·.erase this)) hn hc
  rw [← hparents] at hthis
  simp only [unlink, deref_of_heap hn, ok_bind, require_of hchild, hc', require_of hthis, hwrite,
    pure_eq_ok]

theorem unlink_eq_error (hn : g.heap this = some n) (hmem : child ∉ n.children) :
    g.unlink this child = .error .childNotFound := by
  simp [unlink, deref_of_heap hn, require, hmem]

/-! ### Consistency while nodes are being destroyed -/

/-- What holds between the steps of a deletion. A node that is no longer in `nodes_` is being
destroyed, and only edges of its own lead to it. -/
structure Consistent (g : DnsDataGraph) : Prop where
  linked : g.Linked
  alive : ∀ k ∈ g.nodes, ∃ n, g.heap k = some n
  dying : ∀ k, k ∉ g.nodes → ∀ p ∈ g.parentsOf k, p = k

theorem Consistent.dropEdge (h : g.Consistent) (this child : DomainKey) :
    (g.dropEdge this child).Consistent where
  linked := h.linked.dropEdge this child
  alive k hk := by
    obtain ⟨n, hn⟩ := h.alive k hk
    exact ⟨_, heap_relink hn⟩
  dying k hk p hp := h.dying k hk p (parentsOf_dropEdge_subset hp)

/-- An orphan is taken out of `nodes_` before it is destroyed. -/
theorem Consistent.eraseNode (h : g.Consistent) (horphan : ∀ p ∈ g.parentsOf k, p = k) :
    { g with nodes := g.nodes.erase k }.Consistent where
  linked := h.linked
  alive x hx := h.alive x (Finset.mem_of_mem_erase hx)
  dying x hx p hp := by
    by_cases heq : x = k
    · subst heq
      exact horphan p hp
    · exact h.dying x (fun hmem => hx (Finset.mem_erase.mpr ⟨heq, hmem⟩)) p hp

/-- What a deletion does to all nodes but `k`: they lose parents or go away, and a node stays that
no edge leads to, or that is being destroyed itself. -/
structure Pruned (k : DomainKey) (g g' : DnsDataGraph) : Prop where
  nodes_subset : g'.nodes ⊆ g.nodes
  shrunk : ∀ x n', x ≠ k → g'.heap x = some n' → ∃ n, g.heap x = some n ∧ n.Shrunk n'
  erased : ∀ x ∈ g.nodes, x ≠ k → x ∉ g'.nodes → g'.heap x = none
  kept : ∀ x n, x ≠ k → g.heap x = some n → (x ∈ g.nodes → n.parents = []) →
    (x ∈ g.nodes → x ∈ g'.nodes) ∧ ∃ n', g'.heap x = some n'

theorem Pruned.refl (k : DomainKey) (g : DnsDataGraph) : Pruned k g g where
  nodes_subset := Finset.Subset.refl _
  shrunk _ n' _ h := ⟨n', h, .refl n'⟩
  erased _ hx _ hx' := absurd hx hx'
  kept _ n _ h _ := ⟨id, n, h⟩

theorem Pruned.trans (h : Pruned k g g') (h' : Pruned k g' g'') : Pruned k g g'' where
  nodes_subset := h'.nodes_subset.trans h.nodes_subset
  shrunk x n'' hx hn'' := by
    obtain ⟨n', hn', hs'⟩ := h'.shrunk x n'' hx hn''
    obtain ⟨n, hn, hs⟩ := h.shrunk x n' hx hn'
    exact ⟨n, hn, hs.trans hs'⟩
  erased x hx hk hx' := by
    by_cases hmid : x ∈ g'.nodes
    · exact h'.erased x hmid hk hx'
    · by_contra hne
      obtain ⟨n'', hn''⟩ := Option.ne_none_iff_exists'.mp hne
      obtain ⟨n', hn', _⟩ := h'.shrunk x n'' hk hn''
      rw [h.erased x hx hk hmid] at hn'
      cases hn'
  kept x n hx hn hpar := by
    obtain ⟨hin, n', hn'⟩ := h.kept x n hx hn hpar
    obtain ⟨m, hm, hs⟩ := h.shrunk x n' hx hn'
    obtain rfl : n = m := Option.some.inj (hn.symm.trans hm)
    have hpar' : x ∈ g'.nodes → n'.parents = [] := fun hmem =>
      List.subset_nil.mp (hpar (h.nodes_subset hmem) ▸ hs.parents)
    obtain ⟨hin', hn''⟩ := h'.kept x n' hx hn' hpar'
    exact ⟨fun hmem => hin' (hin hmem), hn''⟩

theorem Pruned.of_eraseNode (h : Pruned k { g with nodes := g.nodes.erase k } g') :
    Pruned k g g' where
  nodes_subset := h.nodes_subset.trans (Finset.erase_subset _ _)
  shrunk := h.shrunk
  erased x hx hk := h.erased x (Finset.mem_erase.mpr ⟨hk, hx⟩) hk
  kept x n hk hn hpar := by
    obtain ⟨hin, hn'⟩ := h.kept x n hk hn fun hmem => hpar (Finset.mem_of_mem_erase hmem)
    exact ⟨fun hmem => hin (Finset.mem_erase.mpr ⟨hk, hmem⟩), hn'⟩

/-- `k` is `this`, or an edge leads to it from a node that `this` reaches. -/
def Reaches (g : DnsDataGraph) : DomainKey → DomainKey → Prop :=
  Relation.ReflTransGen fun a b => b ∈ g.childrenOf a

theorem Reaches.mono (h : g'.Reaches this k) (hsub : ∀ x, g'.childrenOf x ⊆ g.childrenOf x) :
    g.Reaches this k :=
  Relation.ReflTransGen.mono (fun x _ hmem => hsub x hmem) _ _ h

theorem childrenOf_dropEdge_subset : (g.dropEdge this child).childrenOf x ⊆ g.childrenOf x := by
  rw [childrenOf_dropEdge]
  split_ifs
  exacts [List.erase_subset, List.Subset.refl _]

theorem Pruned.childrenOf_subset (h : Pruned k g g') (hx : x ≠ k) :
    g'.childrenOf x ⊆ g.childrenOf x := by
  cases hn' : g'.heap x with
  | none => simp [childrenOf, hn']
  | some n' =>
    obtain ⟨n, hn, hs⟩ := h.shrunk x n' hx hn'
    rw [childrenOf_of_heap hn, childrenOf_of_heap hn', hs.children]
    exact List.Subset.refl _

/-! ### The loop over the children -/

local instance lawfulBEqDomainKey : LawfulBEq DomainKey := inferInstance

/-- Whether the loop of `~Node()` finds every child that it reads, with `remaining` iterations to
go. -/
def sweepsFrom : ℕ → List DomainKey → List DomainKey → Bool
  | 0, _, _ => true
  | remaining + 1, live, stale =>
    match (live ++ stale)[(live ++ stale).length - (remaining + 1)]? with
    | none => false
    | some child =>
      child ∈ live && sweepsFrom remaining (live.erase child) (live.getLast?.toList ++ stale)

/-- Whether a node with these children can be destroyed. -/
def sweeps (children : List DomainKey) : Bool := sweepsFrom children.length children []

/-! ### What a deletion comes to -/

/-- The search in `RemoveChild` failed, and a node that `this` reaches is not swept: one in
`nodes_`, or `this` itself if it is being destroyed. -/
def Blames (g : DnsDataGraph) (this : DomainKey) (e : Fault) : Prop :=
  e = .childNotFound ∧ ∃ k, g.Reaches this k ∧ (k = this ∨ k ∈ g.nodes) ∧
    sweeps (g.childrenOf k) = false

/-- Without one edge from `this`, no other node leads to the child. -/
def Orphans (g : DnsDataGraph) (this child : DomainKey) : Prop :=
  ∀ p ∈ (g.dropEdge this child).parentsOf child, p = child

theorem Orphans.congr (h : g.Orphans this child)
    (hparents : g'.parentsOf child = g.parentsOf child) :
    g'.Orphans this child := by
  rwa [Orphans, parentsOf_dropEdge, hparents, ← parentsOf_dropEdge]

/-- What `RemoveChild` comes to: the edge is gone, and the child too if it is an orphan. -/
def Removed (g : DnsDataGraph) (this child : DomainKey) (g' : DnsDataGraph) : Prop :=
  g' = g.dropEdge this child ∨
    child ∈ g.nodes ∧ child ∉ g'.nodes ∧ g'.heap child = none ∧
      Pruned child (g.dropEdge this child) g'

/-- What a destructor has to do for the steps of a deletion: the nodes it may run for are bounded
by `limit`. -/
def Destroys (limit : ℕ) (destroy : DomainKey → DnsDataGraph → Except Fault DnsDataGraph) : Prop :=
  ∀ g k n, g.Consistent → k ∉ g.nodes → g.heap k = some n → g.nodes.card < limit →
    Outcome (fun g' => g'.Consistent ∧ g'.heap k = none ∧ Pruned k g g')
      (g.Blames k) (destroy k g)

variable {limit : ℕ} {destructor : DomainKey → DnsDataGraph → Except Fault DnsDataGraph}

theorem outcome_removeChildWith (hd : Destroys limit destructor) (h : g.Consistent)
    (hmem : child ∈ g.childrenOf this) (hlimit : g.nodes.card ≤ limit) :
    Outcome (fun g' => g'.Consistent ∧ Removed g this child g')
      (fun e => child ∈ g.nodes ∧ g.Orphans this child ∧ (g.dropEdge this child).Blames child e)
      (g.removeChildWith destructor this child) := by
  obtain ⟨c, hc, hthis⟩ := exists_heap_of_mem_parentsOf (h.linked.mem_iff.mp hmem)
  have hdrop := h.dropEdge this child
  have hc' := heap_dropEdge this child hc
  rw [removeChildWith, unlink_eq_ok h.linked hmem, ok_bind, deref_of_heap hc', ok_bind]
  split_ifs with horphan hin
  · have horphan' : g.Orphans this child := by
      rw [Orphans, parentsOf_of_heap hc']
      simpa using horphan
    have hcard : (g.nodes.erase child).card < limit :=
      (Finset.card_erase_lt_of_mem hin).trans_le hlimit
    refine (hd _ child _ (hdrop.eraseNode horphan') (Finset.notMem_erase _ _) hc' hcard).mono ?_ ?_
    · rintro g' ⟨hg', hnone, hpruned⟩
      refine ⟨hg', Or.inr ⟨hin, fun hmem' => ?_, hnone, ?_⟩⟩
      · exact Finset.notMem_erase _ _ (hpruned.nodes_subset hmem')
      · exact hpruned.of_eraseNode
    · rintro e ⟨he, k, hreach, hk, hsw⟩
      exact ⟨hin, horphan', he, k, hreach, hk.imp_right Finset.mem_of_mem_erase, hsw⟩
  -- a child that is being destroyed has no parents but itself
  · have heq : this = child := h.dying child hin this (h.linked.mem_iff.mp hmem)
    rw [require_of heq.symm, ok_bind]
    exact ⟨hdrop, Or.inl rfl⟩
  · exact ⟨hdrop, Or.inl rfl⟩

theorem pruned_dropEdge (this child : DomainKey) : Pruned this g (g.dropEdge this child) where
  nodes_subset := Finset.Subset.refl _
  shrunk x n' hx hn' := by
    obtain ⟨n, hn, rfl⟩ := Option.map_eq_some_iff.mp hn'
    exact ⟨n, hn, n.shrunk_dropEdge hx⟩
  erased x hx _ hx' := absurd hx hx'
  kept x n _ hn _ := ⟨id, _, heap_relink hn⟩

/-- The removal of an edge of `this` prunes the other nodes. -/
theorem Removed.pruned (h : Removed g this child g') (hlinked : g.Linked)
    (hmem : child ∈ g.childrenOf this) : Pruned this g g' := by
  rcases h with rfl | ⟨hin, hout, hnone, hpruned⟩
  · exact pruned_dropEdge this child
  have hdrop := pruned_dropEdge (g := g) this child
  refine ⟨hpruned.nodes_subset, fun x n' hx hn' => ?_, fun x hx hk hx' => ?_,
    fun x n hx hn hpar => ?_⟩
  · have hne : x ≠ child := by
      rintro rfl
      rw [hnone] at hn'
      cases hn'
    obtain ⟨m, hm, hs⟩ := hpruned.shrunk x n' hne hn'
    obtain ⟨n, hn, hs'⟩ := hdrop.shrunk x m hx hm
    exact ⟨n, hn, hs'.trans hs⟩
  · by_cases hne : x = child
    · rw [hne, hnone]
    · exact hpruned.erased x hx hne hx'
  -- the child itself has `this` for a parent, so it is not one of the nodes that stay
  · have hne : x ≠ child := by
      rintro rfl
      have hparent := hlinked.mem_iff.mp hmem
      rw [parentsOf_of_heap hn, hpar hin] at hparent
      cases hparent
    refine hpruned.kept x _ hne (heap_relink hn) fun hx' => ?_
    simp only [Node.relink, if_neg hne, hpar hx']

/-- While `this` is being destroyed, it stays until its loop is over. -/
theorem Removed.heap_this (h : Removed g this child g') (hthis : this ∉ g.nodes)
    (hn : g.heap this = some n) :
    ∃ n', g'.heap this = some n' ∧ n'.name = n.name ∧ n'.children = n.children.erase child := by
  have hdrop := heap_dropEdge this child hn
  rcases h with rfl | ⟨hin, _, _, hpruned⟩
  · exact ⟨_, hdrop, rfl, if_pos rfl⟩
  · have hne : this ≠ child := fun heq => hthis (heq ▸ hin)
    obtain ⟨_, n', hn'⟩ := hpruned.kept this _ hne hdrop fun hmem => absurd hmem hthis
    obtain ⟨m, hm, hs⟩ := hpruned.shrunk this n' hne hn'
    obtain rfl := Option.some.inj (hdrop.symm.trans hm)
    exact ⟨n', hn', hs.name, hs.children.trans (if_pos rfl)⟩

/-- A node in `nodes_` that `this` reaches and that is not swept. -/
def Unswept (g : DnsDataGraph) (this : DomainKey) : Prop :=
  ∃ k ∈ g.nodes, g.Reaches this k ∧ sweeps (g.childrenOf k) = false

/-- Nodes that are not swept after a pruning were not swept before. -/
theorem Unswept.of_pruned (h : g'.Unswept this) (hp : Pruned this g g') (hthis : this ∉ g.nodes)
    (hsub : g'.childrenOf this ⊆ g.childrenOf this) : g.Unswept this := by
  obtain ⟨k, hk, hreach, hsw⟩ := h
  have hk' := hp.nodes_subset hk
  have hne : k ≠ this := fun heq => hthis (heq ▸ hk')
  have hsub' : ∀ x, g'.childrenOf x ⊆ g.childrenOf x := fun x => by
    by_cases hx : x = this
    · exact hx ▸ hsub
    · exact hp.childrenOf_subset hx
  refine ⟨k, hk', hreach.mono hsub', ?_⟩
  cases hn' : g'.heap k with
  | none =>
    rw [childrenOf, hn'] at hsw
    cases hsw
  | some n' =>
    obtain ⟨n, hn, hs⟩ := hp.shrunk k n' hne hn'
    rwa [childrenOf_of_heap hn, ← hs.children, ← childrenOf_of_heap hn']

/-- What a removal blames is reached from `this`, whose edge it removes. -/
theorem Blames.unswept {e : Fault} (h : (g.dropEdge this child).Blames child e)
    (hin : child ∈ g.nodes) (hthis : this ∉ g.nodes) (hmem : child ∈ g.childrenOf this) :
    g.Unswept this := by
  obtain ⟨-, k, hreach, hk, hsw⟩ := h
  have hk' : k ∈ g.nodes := by
    rcases hk with rfl | hk
    exacts [hin, hk]
  have hne : k ≠ this := fun heq => hthis (heq ▸ hk')
  refine ⟨k, hk', (hreach.mono fun x => childrenOf_dropEdge_subset).head hmem, ?_⟩
  rwa [childrenOf_dropEdge, if_neg hne] at hsw

theorem outcome_sweepWith (hd : Destroys limit destructor) {remaining : ℕ} {stale : List DomainKey}
    (h : g.Consistent) (hthis : this ∉ g.nodes) (hn : g.heap this = some n)
    (hlen : n.children.length = remaining) (hlimit : g.nodes.card ≤ limit) :
    Outcome
      (fun g' => g'.Consistent ∧ Pruned this g g' ∧
        ∃ n', g'.heap this = some n' ∧ n'.name = n.name ∧ n'.children = [])
      (fun e => e = .childNotFound ∧
        (sweepsFrom remaining n.children stale = false ∨ g.Unswept this))
      (sweepWith destructor this remaining stale g) := by
  induction remaining generalizing g n stale with
  | zero =>
    exact ⟨h, .refl this g, n, hn, rfl, List.length_eq_zero_iff.mp hlen⟩
  | succ remaining ih =>
    rw [sweepWith, deref_of_heap hn, ok_bind, sweepsFrom]
    dsimp only
    have hread : (n.children ++ stale).length - (remaining + 1) < (n.children ++ stale).length := by
      simp only [List.length_append]
      omega
    rw [List.getElem?_eq_getElem hread]
    generalize (n.children ++ stale)[(n.children ++ stale).length - (remaining + 1)] = child
    dsimp only
    by_cases hmem : child ∈ n.children
    · have hmem' : child ∈ g.childrenOf this := by rwa [childrenOf_of_heap hn]
      refine Outcome.bind ((outcome_removeChildWith hd h hmem' hlimit).mono (fun _ => id) ?_) ?_
      · rintro e ⟨hin, -, hblames⟩
        exact ⟨hblames.1, Or.inr (hblames.unswept hin hthis hmem')⟩
      · rintro g₁ ⟨hg₁, hremoved⟩
        have hpruned := hremoved.pruned h.linked hmem'
        obtain ⟨n₁, hn₁, hname, hchildren⟩ := hremoved.heap_this hthis hn
        have hlen₁ : n₁.children.length = remaining := by
          rw [hchildren, List.length_erase_of_mem hmem]
          omega
        refine (ih hg₁ (fun hin => hthis (hpruned.nodes_subset hin)) hn₁ hlen₁
          ((Finset.card_le_card hpruned.nodes_subset).trans hlimit)).mono ?_ ?_
        · rintro g' ⟨hg', hpruned', n', hn', hname', hnil⟩
          exact ⟨hg', hpruned.trans hpruned', n', hn', hname'.trans hname, hnil⟩
        · rintro e ⟨he, hsw | hunswept⟩
          · refine ⟨he, Or.inl ?_⟩
            rw [hchildren] at hsw
            simp only [hsw, Bool.and_false]
          · refine ⟨he, Or.inr (hunswept.of_pruned hpruned hthis ?_)⟩
            rw [childrenOf_of_heap hn, childrenOf_of_heap hn₁, hchildren]
            exact List.erase_subset
    · rw [removeChildWith, unlink_eq_error hn hmem, error_bind, error_bind]
      exact ⟨rfl, Or.inl (by simp [hmem])⟩

theorem pruned_free (k : DomainKey) (name : DomainName) : Pruned k g (g.free k name) where
  nodes_subset := Finset.Subset.refl _
  shrunk x n' hx hn' := ⟨n', by simpa [free, hx] using hn', .refl n'⟩
  erased x hx _ hx' := absurd hx hx'
  kept x n hx hn _ := ⟨id, n, by simpa [free, hx] using hn⟩

/-- A node that is being destroyed has no edge left once its children are swept. -/
theorem Consistent.free (h : g.Consistent) (hk : k ∉ g.nodes) (hnil : g.childrenOf k = [])
    (name : DomainName) : (g.free k name).Consistent := by
  have hparents : g.parentsOf k = [] := by
    refine List.eq_nil_iff_forall_not_mem.mpr fun p hp => ?_
    obtain rfl := h.dying k hk p hp
    exact List.not_mem_nil (hnil ▸ h.linked.mem_iff.mpr hp)
  have hchildren' : ∀ x, (g.free k name).childrenOf x = g.childrenOf x := by
    intro x
    by_cases hx : x = k
    · subst hx
      rw [hnil]
      simp [childrenOf, DnsDataGraph.free]
    · simp [childrenOf, DnsDataGraph.free, hx]
  have hparents' : ∀ x, (g.free k name).parentsOf x = g.parentsOf x := by
    intro x
    by_cases hx : x = k
    · subst hx
      rw [hparents]
      simp [parentsOf, DnsDataGraph.free]
    · simp [parentsOf, DnsDataGraph.free, hx]
  refine ⟨fun p c => ?_, fun x hx => ?_, fun x hx p hp => ?_⟩
  · rw [hchildren', hparents', h.linked p c]
  · obtain ⟨n, hn⟩ := h.alive x hx
    have hne : x ≠ k := fun heq => hk (heq ▸ hx)
    exact ⟨n, by simpa [DnsDataGraph.free, hne] using hn⟩
  · exact h.dying x hx p (hparents' x ▸ hp)

/-- **What the destructor of a node comes to**: the node is gone with its edges, and the rest is
consistent; or the loop of a destructor looked for a child that was no longer there. -/
theorem destroys (limit : ℕ) : Destroys limit (destroy limit) := by
  induction limit with
  | zero => exact fun g k n _ _ _ hcard => absurd hcard (Nat.not_lt_zero _)
  | succ limit ih =>
    intro g k n h hk hn hcard
    rw [destroy, deref_of_heap hn, ok_bind]
    refine Outcome.bind ((outcome_sweepWith ih h hk hn rfl (Nat.lt_succ_iff.mp hcard)).mono
      (fun _ => id) ?_) ?_
    · rintro e ⟨he, hsw | ⟨x, hx, hreach, hsw⟩⟩
      · exact ⟨he, k, .refl, Or.inl rfl, childrenOf_of_heap hn ▸ hsw⟩
      · exact ⟨he, x, hreach, Or.inr hx, hsw⟩
    · rintro g₁ ⟨hg₁, hpruned, n₁, hn₁, -, hnil⟩
      have hk₁ : k ∉ g₁.nodes := fun hin => hk (hpruned.nodes_subset hin)
      refine ⟨hg₁.free hk₁ ?_ n.name, Function.update_self _ _ _,
        hpruned.trans (pruned_free k n.name)⟩
      rw [childrenOf_of_heap hn₁, hnil]

end DnsDataGraph

end StreamerPlus.Discovery
