import StreamerPlus.Lib.Outcome

/-!
# Attempts

An `Attempt ε σ α` works on a state of type `σ`. It may stop at a failed assertion, as every
checked computation may. Otherwise it has a value or it has failed, and either way it leaves a
state: a failed attempt may have moved the state on, and `undo` is how a caller puts it back.

`Keeps I E x` is the rule set for safety: every state that `x` leaves is in `I`, and only
assertions in `E` can stop it. `bind_eq_some` and its companions peel a successful attempt apart.
-/

namespace Checked

/-- A computation on a state that may stop at an assertion, fail, or have a value. -/
def Attempt (ε σ α : Type) : Type := σ → Except ε (Option α × σ)

namespace Attempt

variable {ε σ α β : Type}

/-- The value `a`, without touching the state. -/
def value (a : α) : Attempt ε σ α := fun s => .ok (some a, s)

/-- One attempt after another; the second is made only if the first has a value. -/
def andThen (x : Attempt ε σ α) (f : α → Attempt ε σ β) : Attempt ε σ β := fun s =>
  match x s with
  | .error e => .error e
  | .ok (none, s) => .ok (none, s)
  | .ok (some a, s) => f a s

instance : Monad (Attempt ε σ) where
  pure := value
  bind := andThen

/-- The attempt that fails. -/
def fail : Attempt ε σ α := fun s => .ok (none, s)

/-- Fail unless `p`. -/
def test (p : Prop) [Decidable p] : Attempt ε σ Unit := if p then value () else fail

/-- Assert `p`. -/
def assert (p : Prop) [Decidable p] (e : ε) : Attempt ε σ Unit := fun s =>
  if p then .ok (some (), s) else .error e

/-- The value of an option, or failure. -/
def ofOption : Option α → Attempt ε σ α
  | some a => value a
  | none => fail

/-- A checked computation that does not touch the state. -/
def ofChecked (y : Except ε α) : Attempt ε σ α := fun s => (fun a => (some a, s)) <$> y

/-- The state. -/
def get : Attempt ε σ σ := fun s => .ok (some s, s)

/-- Make an attempt; if it fails, `restore` its first state into its last. -/
def undo (restore : σ → σ → σ) (x : Attempt ε σ α) : Attempt ε σ α := fun s =>
  match x s with
  | .ok (none, s') => .ok (none, restore s s')
  | r => r

/-- Make an attempt `n` times and collect the values. -/
def many (x : Attempt ε σ α) : ℕ → Attempt ε σ (List α)
  | 0 => value []
  | n + 1 => do
    let a ← x
    let as ← many x n
    return a :: as

/-- Repeat `body` while `more` holds. A round has to bring the measure `μ` down; one that does
not stops the computation with `stuck`. -/
def loop (stuck : ε) (μ : σ → ℕ) (more : β → σ → Bool) (body : β → Attempt ε σ β) (b : β) :
    Attempt ε σ β := fun s =>
  if more b s then
    match body b s with
    | .error e => .error e
    | .ok (none, s') => .ok (none, s')
    | .ok (some b', s') => if μ s' < μ s then loop stuck μ more body b' s' else .error stuck
  else .ok (some b, s)
termination_by s => μ s

/-! ### Running attempts -/

variable {x : Attempt ε σ α} {f : α → Attempt ε σ β} {s s' : σ} {a : α} {b : β}

@[simp]
theorem pure_apply : (pure a : Attempt ε σ α) s = .ok (some a, s) := rfl

@[simp]
theorem value_apply : (value a : Attempt ε σ α) s = .ok (some a, s) := rfl

@[simp]
theorem fail_apply : (fail : Attempt ε σ α) s = .ok (none, s) := rfl

@[simp]
theorem get_apply : (get : Attempt ε σ σ) s = .ok (some s, s) := rfl

theorem bind_of_some (h : x s = .ok (some a, s')) : (x >>= f) s = f a s' := by
  simp only [Bind.bind, andThen, h]

theorem bind_of_none (h : x s = .ok (none, s')) : (x >>= f) s = .ok (none, s') := by
  simp only [Bind.bind, andThen, h]

theorem bind_of_error {e : ε} (h : x s = .error e) : (x >>= f) s = .error e := by
  simp only [Bind.bind, andThen, h]

theorem assert_of {p : Prop} [Decidable p] {e : ε} (h : p) :
    (assert p e : Attempt ε σ Unit) s = .ok (some (), s) := if_pos h

/-- Two attempts in a row have a value exactly when both have one. -/
theorem bind_eq_some {s'' : σ} :
    (x >>= f) s = .ok (some b, s'') ↔
      ∃ a s', x s = .ok (some a, s') ∧ f a s' = .ok (some b, s'') := by
  simp only [Bind.bind, andThen]
  rcases x s with e | ⟨_ | a, s'⟩ <;> simp

theorem undo_eq_some {restore : σ → σ → σ} :
    undo restore x s = .ok (some a, s') ↔ x s = .ok (some a, s') := by
  simp only [undo]
  rcases x s with e | ⟨_ | a, s'⟩ <;> simp

theorem test_eq_some {p : Prop} [Decidable p] {u : Unit} :
    (test p : Attempt ε σ Unit) s = .ok (some u, s') ↔ p ∧ s = s' := by
  unfold test
  split_ifs with h <;> simp [h]

/-! ### What an attempt keeps -/

/-- Started in `I`, an attempt leaves a state in `I`, and only assertions in `E` stop it. -/
def Keeps (I : σ → Prop) (E : ε → Prop) (x : Attempt ε σ α) : Prop :=
  ∀ s, I s → Outcome (fun r => I r.2) E (x s)

variable {I : σ → Prop} {E : ε → Prop}

theorem keeps_value : Keeps I E (value a) := fun _ hs => hs

theorem keeps_pure : Keeps I E (pure a) := fun _ hs => hs

theorem keeps_fail : Keeps I E (fail : Attempt ε σ α) := fun _ hs => hs

theorem keeps_get : Keeps I E get := fun _ hs => hs

theorem keeps_test {p : Prop} [Decidable p] : Keeps I E (test p) := by
  unfold test
  split_ifs
  · exact keeps_value
  · exact keeps_fail

theorem keeps_ofOption {o : Option α} : Keeps I E (ofOption o) := by
  cases o with
  | none => exact keeps_fail
  | some a => exact keeps_value

theorem keeps_ofChecked {y : Except ε α} (h : Outcome (fun _ => True) E y) :
    Keeps I E (ofChecked y) := fun _ hs => Outcome.map (h.mono (fun _ _ => hs) fun _ => id)

theorem keeps_assert {p : Prop} [Decidable p] {e : ε} (h : ¬p → E e) : Keeps I E (assert p e) := by
  intro s hs
  unfold assert
  split_ifs with hp
  · exact hs
  · exact h hp

/-- The rule for two attempts in a row, with what the first has read. -/
theorem Keeps.bind_of_eq (hx : Keeps I E x)
    (hf : ∀ s a s', x s = .ok (some a, s') → I s' → Outcome (fun r => I r.2) E (f a s')) :
    Keeps I E (x >>= f) := by
  intro s hs
  have h := hx s hs
  simp only [Bind.bind, andThen]
  rcases hxs : x s with e | ⟨_ | a, s'⟩ <;> rw [hxs] at h
  · exact h
  · exact h
  · exact hf s a s' hxs h

theorem Keeps.bind (hx : Keeps I E x) (hf : ∀ a, Keeps I E (f a)) : Keeps I E (x >>= f) :=
  hx.bind_of_eq fun _ a s' _ hs' => hf a s' hs'

theorem Keeps.undo {restore : σ → σ → σ} (hx : Keeps I E x)
    (hrestore : ∀ s s', I s → I s' → I (restore s s')) : Keeps I E (undo restore x) := by
  intro s hs
  have h := hx s hs
  simp only [Attempt.undo]
  rcases hxs : x s with e | ⟨_ | a, s'⟩ <;> rw [hxs] at h
  · exact h
  · exact hrestore s s' hs h
  · exact h

theorem Keeps.many (hx : Keeps I E x) (n : ℕ) : Keeps I E (many x n) := by
  induction n with
  | zero => exact keeps_value
  | succ n ih => exact hx.bind fun _ => ih.bind fun _ => keeps_pure

/-- The rule for a loop: every round that has a value brings the measure down. -/
theorem keeps_loop {stuck : ε} {μ : σ → ℕ} {more : β → σ → Bool} {body : β → Attempt ε σ β}
    (hbody : ∀ b, Keeps I E (body b))
    (hμ : ∀ b s b' s', I s → more b s → body b s = .ok (some b', s') → μ s' < μ s) (b : β) :
    Keeps I E (loop stuck μ more body b) := by
  intro s
  induction hn : μ s using Nat.strongRecOn generalizing b s with
  | ind n ih =>
    intro hs
    rw [loop]
    split_ifs with hmore
    · have h := hbody b s hs
      rcases hbs : body b s with e | ⟨_ | b', s'⟩ <;> rw [hbs] at h
      · exact h
      · exact h
      · have hlt := hμ b s b' s' hs hmore hbs
        simp only [if_pos hlt]
        exact ih _ (hn ▸ hlt) b' s' rfl h
    · exact hs

end Attempt

end Checked
