import StreamerPlus.Lib.Checked

/-!
# Outcomes of checked computations

`Outcome Q E x` says what a checked computation can come to: a result with `Q`, or an assertion
with `E` that failed. With `E` the set of the assertions that may fail, one proof about a
function gives both what it keeps and which of its assertions always hold.
-/

namespace Checked

universe u v

variable {ε : Type u} {α β : Type v} {Q Q' : α → Prop} {R : β → Prop} {E E' : ε → Prop}
  {x : Except ε α}

/-- The computation ends with a result in `Q`, or stops at an assertion in `E`. -/
def Outcome (Q : α → Prop) (E : ε → Prop) : Except ε α → Prop
  | .ok a => Q a
  | .error e => E e

@[simp]
theorem outcome_ok {a : α} : Outcome Q E (.ok a) ↔ Q a := Iff.rfl

@[simp]
theorem outcome_error {e : ε} : Outcome Q E (.error e : Except ε α) ↔ E e := Iff.rfl

@[simp]
theorem outcome_pure {a : α} : Outcome Q E (pure a : Except ε α) ↔ Q a := Iff.rfl

theorem Outcome.of_ok {a : α} (h : Outcome Q E x) (hx : x = .ok a) : Q a := by
  subst hx
  exact h

theorem Outcome.of_error {e : ε} (h : Outcome Q E x) (hx : x = .error e) : E e := by
  subst hx
  exact h

instance [DecidablePred Q] [DecidablePred E] : Decidable (Outcome Q E x) :=
  match x with
  | .ok a => inferInstanceAs (Decidable (Q a))
  | .error e => inferInstanceAs (Decidable (E e))

/-- A computation that stops at no assertion has a result. -/
theorem Outcome.exists_ok (h : Outcome Q (fun _ => False) x) : ∃ a, x = .ok a ∧ Q a := by
  cases x with
  | ok a => exact ⟨a, rfl, h⟩
  | error e => exact h.elim

/-- A computation without a result stops at an assertion. -/
theorem Outcome.exists_error (h : Outcome (fun _ => False) E x) : ∃ e, x = .error e ∧ E e := by
  cases x with
  | ok a => exact h.elim
  | error e => exact ⟨e, rfl, h⟩

theorem Outcome.mono (h : Outcome Q E x) (hQ : ∀ a, Q a → Q' a) (hE : ∀ e, E e → E' e) :
    Outcome Q' E' x := by
  cases x with
  | ok a => exact hQ a h
  | error e => exact hE e h

theorem Outcome.and (h : Outcome Q E x) (h' : Outcome Q' E' x) :
    Outcome (fun a => Q a ∧ Q' a) (fun e => E e ∧ E' e) x := by
  cases x with
  | ok a => exact ⟨h, h'⟩
  | error e => exact ⟨h, h'⟩

theorem outcome_true : Outcome (fun _ => True) (fun _ => True) x := by
  cases x <;> trivial

/-- The rule for a sequence of two computations. -/
theorem Outcome.bind {f : α → Except ε β} (hx : Outcome Q E x)
    (hf : ∀ a, Q a → Outcome R E (f a)) : Outcome R E (x >>= f) := by
  cases x with
  | ok a => exact hf a hx
  | error e => exact hx

/-- What a sequence of two computations comes to. -/
theorem outcome_bind {f : α → Except ε β} :
    Outcome R E (x >>= f) ↔ Outcome (fun a => Outcome R E (f a)) E x := by
  cases x <;> exact Iff.rfl

theorem Outcome.map {f : α → β} (h : Outcome (fun a => R (f a)) E x) : Outcome R E (f <$> x) := by
  cases x with
  | ok a => exact h
  | error e => exact h

/-- The assertions of a callee, under their names in the caller. -/
theorem outcome_mapError {ε' : Type u} {f : ε' → ε} {y : Except ε' α} (h : ∀ e, E (f e)) :
    Outcome (fun a => y = .ok a) E (y.mapError f) := by
  cases y with
  | ok a => exact rfl
  | error e => exact h e

/-- The rule for an assertion in front of a computation. -/
theorem Outcome.require_bind {γ : Type} {R : γ → Prop} {p : Prop} [Decidable p] {e : ε}
    {f : Unit → Except ε γ} (he : ¬p → E e) (hf : p → Outcome R E (f ())) :
    Outcome R E (require p e >>= f) := by
  by_cases h : p
  · rw [require_of h]
    exact hf h
  · rw [require, if_neg h]
    exact he h

variable {f : β → α → Except ε β} {l : List α}

/-- The rule for a loop over a list, with an invariant about what is left of the list. -/
theorem Outcome.foldlM_rest {P : List α → β → Prop} {b : β}
    (hb : P l b) (hstep : ∀ a l b, P (a :: l) b → Outcome (P l) E (f b a)) :
    Outcome (P []) E (l.foldlM f b) := by
  induction l generalizing b with
  | nil => exact hb
  | cons a l ih =>
    rw [List.foldlM_cons]
    exact (hstep a l b hb).bind fun _ hc => ih hc

/-- The rule for a loop over a list, with an invariant. -/
theorem Outcome.foldlM {P : β → Prop} {b : β} (hb : P b)
    (hstep : ∀ b, ∀ a ∈ l, P b → Outcome P E (f b a)) : Outcome P E (l.foldlM f b) := by
  have h := foldlM_rest (P := fun rest b => P b ∧ rest ⊆ l) (E := E) (f := f)
    ⟨hb, List.Subset.refl l⟩ fun a rest b h =>
      (hstep b a (h.2 List.mem_cons_self) h.1).mono
        (fun _ hc => ⟨hc, List.Subset.trans (List.subset_cons_self a rest) h.2⟩) fun _ => id
  exact h.mono (fun _ h => h.1) fun _ => id

/-- Every element of a list meets the condition `C` in the state in which the loop comes to it. -/
def Along (f : β → α → Except ε β) (C : β → α → Prop) : β → List α → Prop
  | _, [] => True
  | b, a :: l => C b a ∧ ∀ b', f b a = .ok b' → Along f C b' l

/-- The rule for a loop over a list whose elements meet a condition. -/
theorem Outcome.foldlM_along {P : β → Prop} {C : β → α → Prop}
    {b : β} (hb : P b) (hl : Along f C b l) (hstep : ∀ b a, P b → C b a → Outcome P E (f b a)) :
    Outcome P E (l.foldlM f b) := by
  induction l generalizing b with
  | nil => exact hb
  | cons a l ih =>
    rw [List.foldlM_cons]
    have ha := hstep b a hb hl.1
    cases h : f b a with
    | error e =>
      rw [h] at ha
      exact ha
    | ok b' =>
      rw [h] at ha
      exact ih ha (hl.2 b' h)

end Checked
