import Mathlib.Tactic.Common

/-!
# Checked computations

A computation that may stop at a failed assertion is an `Except ε α`: an `error` is the
assertion that stopped it, and nothing after it runs. `require` is one assertion. The lemmas
below peel a successful computation apart step by step, so that no proof about a client has
to unfold the monad.
-/

namespace Checked

universe u v

variable {ε : Type u} {α β : Type v}

/-- Assert `p`; stop with `e` when it is false. -/
def require (p : Prop) [Decidable p] (e : ε) : Except ε Unit :=
  if p then .ok () else .error e

variable {e : ε} {p : Prop}

@[simp]
theorem require_eq_ok [Decidable p] {u : Unit} : require p e = .ok u ↔ p := by
  unfold require
  split_ifs with h <;> simp [h]

theorem require_of [Decidable p] (h : p) : require p e = .ok () :=
  if_pos h

variable {f : α → Except ε β} {x : Except ε α}

/-- A bind succeeds exactly when both of its halves do. -/
theorem bind_eq_ok {b : β} : x >>= f = .ok b ↔ ∃ a, x = .ok a ∧ f a = .ok b := by
  cases x with
  | error e => simp [Bind.bind, Except.bind]
  | ok a => simp [Bind.bind, Except.bind]

/-- A computation that starts with an assertion succeeds exactly when the assertion holds and
the rest succeeds. -/
theorem require_bind_eq_ok {γ : Type} [Decidable p] {f : Unit → Except ε γ} {b : γ} :
    require p e >>= f = .ok b ↔ p ∧ f () = .ok b := by
  unfold require
  split_ifs with h <;> simp [h, Bind.bind, Except.bind]

variable {a : α}

@[simp]
theorem ok_bind : (Except.ok a : Except ε α) >>= f = f a := by
  simp only [Bind.bind, Except.bind]

@[simp]
theorem error_bind : (Except.error e : Except ε α) >>= f = .error e := rfl

@[simp]
theorem pure_eq_ok : (pure a : Except ε α) = .ok a := rfl

/-- Renaming the errors of a computation does not change when it succeeds. -/
theorem mapError_eq_ok {ε' : Type u} {f : ε → ε'} : x.mapError f = .ok a ↔ x = .ok a := by
  cases x <;> simp [Except.mapError]

variable {l : List α}

/-- A fold of checked steps keeps an invariant that every successful step keeps. -/
theorem foldlM_invariant {P : β → Prop} {f : β → α → Except ε β} {b b' : β}
    (hstep : ∀ b a b', a ∈ l → P b → f b a = .ok b' → P b') (hb : P b)
    (h : l.foldlM f b = .ok b') : P b' := by
  induction l generalizing b with
  | nil =>
    cases h
    exact hb
  | cons a l ih =>
    rw [List.foldlM_cons, bind_eq_ok] at h
    obtain ⟨c, hc, h⟩ := h
    exact ih (fun b a b' ha => hstep b a b' (List.mem_cons_of_mem _ ha))
      (hstep b a c List.mem_cons_self hb hc) h

/-! ### Computations that succeed -/

/-- The computation runs to its end. -/
def Succeeds (x : Except ε α) : Prop := ∃ a, x = .ok a

@[simp]
theorem succeeds_ok : Succeeds (.ok a : Except ε α) := ⟨a, rfl⟩

@[simp]
theorem succeeds_pure : Succeeds (pure a : Except ε α) := ⟨a, rfl⟩

@[simp]
theorem not_succeeds_error : ¬Succeeds (.error e : Except ε α) := by
  rintro ⟨a, h⟩
  cases h

instance (x : Except ε α) : Decidable (Succeeds x) :=
  match x with
  | .ok a => .isTrue ⟨a, rfl⟩
  | .error _ => .isFalse not_succeeds_error

@[simp]
theorem succeeds_require [Decidable p] : Succeeds (require p e) ↔ p :=
  ⟨fun ⟨_, h⟩ => require_eq_ok.mp h, fun h => ⟨(), require_of h⟩⟩

theorem succeeds_bind : Succeeds (x >>= f) ↔ ∃ a, x = .ok a ∧ Succeeds (f a) := by
  constructor
  · rintro ⟨b, h⟩
    obtain ⟨a, ha, h⟩ := bind_eq_ok.mp h
    exact ⟨a, ha, b, h⟩
  · rintro ⟨a, ha, b, h⟩
    exact ⟨b, bind_eq_ok.mpr ⟨a, ha, h⟩⟩

/-- A bind whose second half always succeeds. -/
theorem succeeds_bind_iff (hf : ∀ a, Succeeds (f a)) : Succeeds (x >>= f) ↔ Succeeds x := by
  rw [succeeds_bind]
  exact ⟨fun ⟨a, ha, _⟩ => ⟨a, ha⟩, fun ⟨a, ha⟩ => ⟨a, ha, hf a⟩⟩

theorem succeeds_map {f : α → β} : Succeeds (f <$> x) ↔ Succeeds x := by
  cases x <;> simp [Functor.map, Except.map]

/-- A checked map succeeds exactly when it does at every element. -/
theorem succeeds_mapM : Succeeds (l.mapM f) ↔ ∀ a ∈ l, Succeeds (f a) := by
  induction l with
  | nil => simp
  | cons a l ih =>
    rw [List.mapM_cons, List.forall_mem_cons, ← ih, succeeds_bind]
    constructor
    · rintro ⟨b, hb, h⟩
      exact ⟨⟨b, hb⟩, (succeeds_bind_iff fun _ => succeeds_pure).mp h⟩
    · rintro ⟨⟨b, hb⟩, h⟩
      exact ⟨b, hb, (succeeds_bind_iff fun _ => succeeds_pure).mpr h⟩

/-- **A fold of checked steps succeeds exactly when every step does in the state that the steps
before it lead to.** -/
theorem succeeds_foldlM {f : β → α → Except ε β} {b : β} : Succeeds (l.foldlM f b) ↔
      ∀ pre a post c, l = pre ++ a :: post → pre.foldlM f b = .ok c → Succeeds (f c a) := by
  induction l generalizing b with
  | nil => simp
  | cons a l ih =>
    rw [List.foldlM_cons, succeeds_bind]
    constructor
    · rintro ⟨d, hd, h⟩ pre a' post c hl hpre
      cases pre with
      | nil =>
        obtain ⟨rfl, rfl⟩ := List.cons.inj hl
        cases hpre
        exact ⟨d, hd⟩
      | cons a'' pre =>
        obtain ⟨rfl, rfl⟩ := List.cons.inj hl
        rw [List.foldlM_cons, hd, ok_bind] at hpre
        exact ih.mp h pre a' post c rfl hpre
    · intro h
      obtain ⟨d, hd⟩ := h [] a l b rfl rfl
      refine ⟨d, hd, ih.mpr fun pre a' post c hl hpre => ?_⟩
      refine h (a :: pre) a' post c (by rw [hl]; rfl) ?_
      rw [List.foldlM_cons, hd, ok_bind]
      exact hpre

end Checked
