import Mathlib.Tactic.Common

/-!
# Loops that may not end

A loop whose body either goes on with a new state or leaves with a result. `Loop.run` bounds the
number of iterations, `Loop.Returns` says that some bound is enough.

## Main results

* `Returns.of_measure` : a loop with an invariant and a measure that every iteration decreases
  leaves, with what the invariant gives about the result.
* `Visits.invariant`, `Returns.invariant` : an invariant holds where an iteration begins, and gives
  what it gives about the result, whether or not the loop always leaves.
* `not_returns_of_forall` : a loop that has a next iteration in every state of some kind never
  leaves.
-/

namespace Loop

variable {σ ρ : Type*} (body : σ → σ ⊕ ρ)

/-- At most `n` iterations: the result, if the loop has left by then. -/
def run : ℕ → σ → Option ρ
  | 0, _ => none
  | n + 1, s =>
    match body s with
    | .inl s' => run n s'
    | .inr r => some r

/-- The loop leaves with a result. -/
def Returns (s : σ) (r : ρ) : Prop := ∃ n, run body n s = some r

variable {body} {s s' : σ} {r r' : ρ}

theorem run_succ_of_inl (h : body s = .inl s') (n : ℕ) : run body (n + 1) s = run body n s' := by
  rw [run, h]

theorem run_succ_of_inr (h : body s = .inr r) (n : ℕ) : run body (n + 1) s = some r := by
  rw [run, h]

/-- The next iteration leaves with what the loop leaves with. -/
theorem returns_of_inl (h : body s = .inl s') : Returns body s r ↔ Returns body s' r := by
  constructor
  · rintro ⟨_ | n, hn⟩
    · cases hn
    · exact ⟨n, run_succ_of_inl h n ▸ hn⟩
  · rintro ⟨n, hn⟩
    exact ⟨n + 1, (run_succ_of_inl h n).trans hn⟩

theorem returns_of_inr (h : body s = .inr r) : Returns body s r' ↔ r = r' := by
  constructor
  · rintro ⟨_ | n, hn⟩
    · cases hn
    · exact Option.some.inj ((run_succ_of_inr h n).symm.trans hn)
  · rintro rfl
    exact ⟨1, run_succ_of_inr h 0⟩

/-- An iteration begins in the state `t`. -/
inductive Visits (body : σ → σ ⊕ ρ) (s : σ) : σ → Prop
  | start : Visits body s s
  | next {t u : σ} : Visits body s t → body t = .inl u → Visits body s u

variable {P : σ → Prop}

/-- An invariant holds where every iteration begins. -/
theorem Visits.invariant {t : σ} (h : Visits body s t) (hs : P s)
    (hnext : ∀ t u, Visits body s t → P t → body t = .inl u → P u) : P t := by
  induction h with
  | start => exact hs
  | next hvisits hbody ih => exact hnext _ _ hvisits ih hbody

/-- A loop leaves from a state in which an iteration begins. -/
theorem Returns.exists_visits (h : Returns body s r) : ∃ t, Visits body s t ∧ body t = .inr r := by
  obtain ⟨n, hn⟩ := h
  suffices H : ∀ n t, Visits body s t → run body n t = some r →
      ∃ t, Visits body s t ∧ body t = .inr r from H n s .start hn
  intro n
  induction n with
  | zero => intro t _ hn; cases hn
  | succ n ih =>
    intro t ht hn
    cases hbody : body t with
    | inl u => exact ih u (ht.next hbody) (run_succ_of_inl hbody n ▸ hn)
    | inr r' =>
      rw [run_succ_of_inr hbody n] at hn
      exact ⟨t, ht, hbody.trans (congrArg _ (Option.some.inj hn))⟩

/-- **Invariants.** A property that every iteration keeps, and that gives `Q` where the loop leaves,
gives `Q` of every result. -/
theorem Returns.invariant {Q : ρ → Prop} (h : Returns body s r) (hs : P s)
    (hnext : ∀ s s', P s → body s = .inl s' → P s') (hleave : ∀ s r, P s → body s = .inr r → Q r) :
    Q r := by
  obtain ⟨t, ht, hbody⟩ := h.exists_visits
  exact hleave t r (ht.invariant hs fun t u _ => hnext t u) hbody

/-- **Termination.** A loop with an invariant under which every iteration decreases a measure
leaves. -/
theorem Returns.of_measure (μ : σ → ℕ) (hs : P s)
    (hnext : ∀ s s', P s → body s = .inl s' → P s' ∧ μ s' < μ s) : ∃ r, Returns body s r := by
  induction hμ : μ s using Nat.strongRecOn generalizing s with
  | ind m ih =>
    cases hbody : body s with
    | inl s' =>
      obtain ⟨hs', hlt⟩ := hnext s s' hs hbody
      obtain ⟨r, hr⟩ := ih (μ s') (hμ ▸ hlt) hs' rfl
      exact ⟨r, (returns_of_inl hbody).mpr hr⟩
    | inr r => exact ⟨r, (returns_of_inr hbody).mpr rfl⟩

/-- A loop that goes on in every state with `P`, to another such state, never leaves. -/
theorem not_returns_of_forall (hs : P s)
    (hnext : ∀ s, P s → ∃ s', body s = .inl s' ∧ P s') : ¬ Returns body s r := fun h =>
  h.invariant (Q := fun _ => False) hs
    (fun s s' hs hbody => by
      obtain ⟨s'', hbody', hs''⟩ := hnext s hs
      exact Sum.inl.inj (hbody'.symm.trans hbody) ▸ hs'')
    fun s r hs hbody => by
      obtain ⟨s', hbody', -⟩ := hnext s hs
      exact Sum.inl_ne_inr (hbody'.symm.trans hbody)

end Loop
