import Mathlib.Data.List.Nodup
import Mathlib.Data.List.Range
import Mathlib.Tactic.Common

/-!
# One-shot requests

A component that takes requests and owes each of them one outcome keeps the requests that are
pending in a list. A `Ledger` is such a list with its history: requests are numbered as they are
issued, and each outcome is recorded with the number of its request. A request leaves the pending
list only together with an outcome, so every number is either pending or settled, and only once
(`Ledger.Balanced`). The operations are the ones such lists have: a request is added at the end, or
settled at once without being pending, the first one that a test finds is settled, or all that it
finds are.
-/

namespace OneShot

/-- Requests of type `ρ` and their outcomes of type `ω`. -/
structure Ledger (ρ ω : Type) where
  issued : ℕ := 0
  pending : List (ℕ × ρ) := []
  settled : List (ℕ × ω) := []
  deriving DecidableEq, Repr

namespace Ledger

variable {ρ ω : Type}

variable (l : Ledger ρ ω)

/-- A new request. -/
def issue (r : ρ) : Ledger ρ ω :=
  { l with issued := l.issued + 1, pending := l.pending ++ [(l.issued, r)] }

/-- A new request that is settled at once. -/
def refuse (outcome : ω) : Ledger ρ ω :=
  { l with issued := l.issued + 1, settled := l.settled ++ [(l.issued, outcome)] }

/-- Whether the test finds a pending request. -/
def finds (p : ρ → Bool) : Bool := l.pending.any (p ·.2)

/-- The first request that the test finds is settled. -/
def settleFirst (p : ρ → Bool) (outcome : ρ → ω) : Ledger ρ ω :=
  match l.pending.find? (p ·.2) with
  | none => l
  | some (i, r) =>
    { l with
      pending := l.pending.eraseP (p ·.2)
      settled := l.settled ++ [(i, outcome r)] }

/-- All requests that the test finds are settled, in their order. -/
def settleAll (p : ρ → Bool) (outcome : ρ → ω) : Ledger ρ ω :=
  { l with
    pending := l.pending.filter fun r => !p r.2
    settled := l.settled ++ (l.pending.filter (p ·.2)).map fun r => (r.1, outcome r.2) }

/-- Every request is pending or settled, and only one of them, once. -/
def Balanced : Prop :=
  (l.pending.map Prod.fst ++ l.settled.map Prod.fst).Perm (List.range l.issued)

variable {l : Ledger ρ ω} {p : ρ → Bool} {outcome : ρ → ω}

theorem balanced_empty : Balanced ({} : Ledger ρ ω) := .refl _

theorem Balanced.issue (h : l.Balanced) (r : ρ) : (l.issue r).Balanced := by
  simp only [Balanced, Ledger.issue, List.map_append, List.map_cons, List.map_nil, List.range_succ,
    List.append_assoc]
  calc (l.pending.map Prod.fst ++ ([l.issued] ++ l.settled.map Prod.fst)).Perm
        (l.pending.map Prod.fst ++ (l.settled.map Prod.fst ++ [l.issued])) :=
          List.perm_append_comm.append_left _
    _ = l.pending.map Prod.fst ++ l.settled.map Prod.fst ++ [l.issued] :=
          (List.append_assoc _ _ _).symm
    List.Perm _ (List.range l.issued ++ [l.issued]) := h.append_right _

theorem Balanced.refuse (h : l.Balanced) (o : ω) : (l.refuse o).Balanced := by
  simp only [Balanced, Ledger.refuse, List.map_append, List.map_cons, List.map_nil,
    List.range_succ]
  rw [← List.append_assoc]
  exact h.append_right [l.issued]

/-- What is settled first: the request splits the pending list, and is the first of its kind. -/
theorem exists_settleFirst (h : l.finds p = true) (outcome : ρ → ω) :
    ∃ before i r after, l.pending = before ++ (i, r) :: after ∧ p r = true ∧
      l.settleFirst p outcome =
        { l with pending := before ++ after, settled := l.settled ++ [(i, outcome r)] } := by
  obtain ⟨x, hx, hpx⟩ := List.any_eq_true.mp h
  obtain ⟨⟨i, r⟩, before, after, hbefore, hp, hl, herase⟩ :=
    List.exists_of_eraseP (p := (p ·.2)) hx hpx
  refine ⟨before, i, r, after, hl, hp, ?_⟩
  have hfind : l.pending.find? (p ·.2) = some (i, r) := by
    rw [hl, List.find?_append, List.find?_eq_none.mpr (by simpa using hbefore)]
    simp [hp]
  rw [settleFirst, hfind]
  simp only [herase]

theorem settleFirst_of_not_finds (h : l.finds p = false) : l.settleFirst p outcome = l := by
  have hnone : l.pending.find? (p ·.2) = none :=
    List.find?_eq_none.mpr fun x hx => by simpa using List.any_eq_false.mp h x hx
  rw [settleFirst, hnone]

theorem Balanced.settleFirst (h : l.Balanced) : (l.settleFirst p outcome).Balanced := by
  cases hfinds : l.finds p with
  | false => rwa [settleFirst_of_not_finds hfinds]
  | true =>
    obtain ⟨before, i, r, after, hl, -, heq⟩ := exists_settleFirst hfinds outcome
    rw [heq]
    refine List.Perm.trans ?_ h
    simp only [hl, List.map_append, List.map_cons, List.map_nil, List.append_assoc,
      List.cons_append]
    refine List.Perm.append_left _ ?_
    rw [← List.append_assoc]
    exact List.perm_append_singleton i _

theorem Balanced.settleAll (h : l.Balanced) : (l.settleAll p outcome).Balanced := by
  have hsplit : (l.pending.filter (fun r => !p r.2) ++ l.pending.filter (p ·.2)).Perm l.pending :=
    List.perm_append_comm.trans (List.filter_append_perm (p ·.2) l.pending)
  refine List.Perm.trans ?_ h
  simp only [Ledger.settleAll, List.map_append, List.map_map, Function.comp_def]
  calc (l.pending.filter (fun r => !p r.2)).map Prod.fst ++
        (l.settled.map Prod.fst ++ (l.pending.filter (p ·.2)).map Prod.fst)
    List.Perm _ ((l.pending.filter (fun r => !p r.2)).map Prod.fst ++
        ((l.pending.filter (p ·.2)).map Prod.fst ++ l.settled.map Prod.fst)) :=
          List.perm_append_comm.append_left _
    _ = (l.pending.filter (fun r => !p r.2) ++ l.pending.filter (p ·.2)).map Prod.fst ++
        l.settled.map Prod.fst := by rw [List.map_append, List.append_assoc]
    List.Perm _ (l.pending.map Prod.fst ++ l.settled.map Prod.fst) :=
          (hsplit.map Prod.fst).append_right _

/-- No request is settled twice. -/
theorem Balanced.nodup_settled (h : l.Balanced) : (l.settled.map Prod.fst).Nodup :=
  (List.nodup_append.mp (h.nodup_iff.mpr List.nodup_range)).2.1

theorem mem_of_mem_settleFirst {x : ℕ × ρ} (h : x ∈ (l.settleFirst p outcome).pending) :
    x ∈ l.pending := by
  unfold settleFirst at h
  split at h
  · exact h
  · exact List.mem_of_mem_eraseP h

theorem mem_settled_settleFirst {x : ℕ × ω} (h : x ∈ (l.settleFirst p outcome).settled) :
    x ∈ l.settled ∨ ∃ r, p r = true ∧ x.2 = outcome r := by
  unfold settleFirst at h
  split at h
  · exact .inl h
  · rename_i i r hfind
    rcases List.mem_append.mp h with h | h
    · exact .inl h
    · rw [List.mem_singleton.mp h]
      exact .inr ⟨r, by simpa using List.find?_some hfind, rfl⟩

theorem mem_pending_settleAll {x : ℕ × ρ} :
    x ∈ (l.settleAll p outcome).pending ↔ x ∈ l.pending ∧ p x.2 = false := by
  simp [settleAll]

theorem mem_settled_settleAll {x : ℕ × ω} (h : x ∈ (l.settleAll p outcome).settled) :
    x ∈ l.settled ∨ ∃ r, x.2 = outcome r := by
  rcases List.mem_append.mp h with h | h
  · exact .inl h
  · obtain ⟨⟨i, r⟩, -, rfl⟩ := List.mem_map.mp h
    exact .inr ⟨r, rfl⟩

end Ledger

end OneShot
