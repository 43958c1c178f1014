import Mathlib.Data.List.Basic
import Mathlib.Data.List.Nodup
import Mathlib.Tactic.Common

/-!
# Adjacency lists of two kinds of nodes

Every node lists its neighbours, which are nodes of the other kind, and is listed by each of them. A
node that goes away is taken off the lists of its neighbours.
-/

/-- The lists of the neighbours. -/
structure Bipartite (α β : Type*) where
  ofLeft : α → List β
  ofRight : β → List α
  mem_ofLeft_iff : ∀ a b, b ∈ ofLeft a ↔ a ∈ ofRight b
  nodup_ofLeft : ∀ a, (ofLeft a).Nodup
  nodup_ofRight : ∀ b, (ofRight b).Nodup

namespace Bipartite

variable {α β : Type*}

/-- No nodes are neighbours. -/
def empty : Bipartite α β := ⟨fun _ => [], fun _ => [], by simp, by simp, by simp⟩

variable (g : Bipartite α β)

/-- The nodes list each other. -/
def Adj (a : α) (b : β) : Prop := b ∈ g.ofLeft a

@[simp] theorem not_adj_empty (a : α) (b : β) : ¬(empty : Bipartite α β).Adj a b :=
  List.not_mem_nil

instance [DecidableEq β] (a : α) (b : β) : Decidable (g.Adj a b) :=
  inferInstanceAs (Decidable (b ∈ g.ofLeft a))

variable [DecidableEq α] [DecidableEq β]

/-- Makes two nodes neighbours, unless they are. -/
def connect (a : α) (b : β) : Bipartite α β :=
  if h : b ∈ g.ofLeft a then g
  else
    { ofLeft := Function.update g.ofLeft a (g.ofLeft a ++ [b])
      ofRight := Function.update g.ofRight b (g.ofRight b ++ [a])
      mem_ofLeft_iff := fun a' b' => by
        have := g.mem_ofLeft_iff a' b'
        grind [Function.update_apply]
      nodup_ofLeft := fun a' => by
        have := g.nodup_ofLeft a'
        grind [Function.update_apply]
      nodup_ofRight := fun b' => by
        have := g.nodup_ofRight b'
        have := g.mem_ofLeft_iff a b
        grind [Function.update_apply] }

/-- Takes a node off the lists of its neighbours. -/
def removeLeft (a : α) : Bipartite α β where
  ofLeft := Function.update g.ofLeft a []
  ofRight b := (g.ofRight b).erase a
  mem_ofLeft_iff a' b := by
    rw [(g.nodup_ofRight b).mem_erase_iff, ← g.mem_ofLeft_iff, Function.update_apply]
    split_ifs with h <;> simp [h]
  nodup_ofLeft a' := by
    rw [Function.update_apply]
    split_ifs
    · exact List.nodup_nil
    · exact g.nodup_ofLeft a'
  nodup_ofRight b := (g.nodup_ofRight b).erase a

@[inherit_doc removeLeft]
def removeRight (b : β) : Bipartite α β where
  ofLeft a := (g.ofLeft a).erase b
  ofRight := Function.update g.ofRight b []
  mem_ofLeft_iff a b' := by
    rw [(g.nodup_ofLeft a).mem_erase_iff, g.mem_ofLeft_iff, Function.update_apply]
    split_ifs with h <;> simp [h]
  nodup_ofLeft a := (g.nodup_ofLeft a).erase b
  nodup_ofRight b' := by
    rw [Function.update_apply]
    split_ifs
    · exact List.nodup_nil
    · exact g.nodup_ofRight b'

variable {g} {a a' : α} {b b' : β}

@[simp] theorem adj_connect : (g.connect a b).Adj a' b' ↔ g.Adj a' b' ∨ a' = a ∧ b' = b := by
  unfold connect Adj
  split_ifs with h
  · refine ⟨.inl, ?_⟩
    rintro (h' | ⟨rfl, rfl⟩)
    · exact h'
    · exact h
  · simp only [Function.update_apply]
    split_ifs with ha <;> simp [ha]

omit [DecidableEq β] in
@[simp] theorem adj_removeLeft : (g.removeLeft a).Adj a' b' ↔ g.Adj a' b' ∧ a' ≠ a := by
  simp only [removeLeft, Adj, Function.update_apply]
  split_ifs with h <;> simp [h]

omit [DecidableEq α] in
@[simp] theorem adj_removeRight : (g.removeRight b).Adj a' b' ↔ g.Adj a' b' ∧ b' ≠ b := by
  rw [Adj, removeRight, (g.nodup_ofLeft a').mem_erase_iff, and_comm]
  rfl

/-! ### Several nodes -/

/-- Connects the two nodes of each pair. -/
def connectAll (g : Bipartite α β) (edges : List (α × β)) : Bipartite α β :=
  edges.foldl (fun g e => g.connect e.1 e.2) g

@[simp] theorem adj_connectAll {edges : List (α × β)} :
    (g.connectAll edges).Adj a b ↔ g.Adj a b ∨ (a, b) ∈ edges := by
  unfold connectAll
  induction edges generalizing g with
  | nil => simp
  | cons e edges ih =>
    rw [List.foldl_cons, ih, adj_connect, List.mem_cons, or_assoc, Prod.ext_iff]

/-- Takes nodes off all lists. -/
def removeLefts (g : Bipartite α β) (l : List α) : Bipartite α β :=
  l.foldl (fun g a => g.removeLeft a) g

@[inherit_doc removeLefts]
def removeRights (g : Bipartite α β) (l : List β) : Bipartite α β :=
  l.foldl (fun g b => g.removeRight b) g

omit [DecidableEq β] in
@[simp] theorem adj_removeLefts {l : List α} : (g.removeLefts l).Adj a b ↔ g.Adj a b ∧ a ∉ l := by
  unfold removeLefts
  induction l generalizing g with
  | nil => simp
  | cons a' l ih => rw [List.foldl_cons, ih, adj_removeLeft, List.mem_cons, not_or, and_assoc]

omit [DecidableEq α] in
@[simp] theorem adj_removeRights {l : List β} :
    (g.removeRights l).Adj a b ↔ g.Adj a b ∧ b ∉ l := by
  unfold removeRights
  induction l generalizing g with
  | nil => simp
  | cons b' l ih => rw [List.foldl_cons, ih, adj_removeRight, List.mem_cons, not_or, and_assoc]

end Bipartite
