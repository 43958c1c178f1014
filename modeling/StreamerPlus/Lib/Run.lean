import Mathlib.Data.List.Induction
import Mathlib.Tactic.Common

/-!
# Runs of labelled transition systems

`Run step s as t` says that the actions `as` lead from `s` to `t`. Runs grow at their end, so an
invariant is checked one step after the other.

`forall_prefix_iff` and `forall_split_iff` say in which runs of a function that may fail a property
holds all the time. They are for every monad in which a sequence returns a value only if its parts
do, such as `Option` and `Except`.

`Explained P events` says that each event of a history stands in the relation `P` to the events
before it.
-/

namespace TransitionSystem

variable {σ α : Type*}

/-- The actions `as` lead from one state to another. -/
inductive Run (step : σ → α → σ → Prop) (s : σ) : List α → σ → Prop
  | nil : Run step s [] s
  | snoc {t u : σ} {as : List α} {a : α} :
      Run step s as t → step t a u → Run step s (as ++ [a]) u

section

variable {tr tr' : σ → α → σ → Prop} {s t u : σ} {as bs : List α} {a : α}

theorem Run.single (h : tr s a t) : Run tr s [a] t := Run.nil.snoc h

theorem Run.append (h : Run tr s as t) (h' : Run tr t bs u) : Run tr s (as ++ bs) u := by
  induction h' with
  | nil => simpa using h
  | snoc _ hstep ih =>
    rw [← List.append_assoc]
    exact ih.snoc hstep

/-- A run of several actions starts with a step. -/
theorem Run.uncons (h : Run tr s (a :: as) t) : ∃ u, tr s a u ∧ Run tr u as t := by
  generalize hl : a :: as = l at h
  induction h generalizing as with
  | nil => cases hl
  | @snoc u t l b hrun hstep ih =>
    rcases List.eq_nil_or_concat as with rfl | ⟨as', c, rfl⟩
    · obtain ⟨rfl, hb⟩ := List.append_inj' (show [] ++ [a] = l ++ [b] from hl) rfl
      cases hb
      generalize hnil : ([] : List α) = l at hrun
      cases hrun with
      | nil => exact ⟨t, hstep, .nil⟩
      | snoc => simp at hnil
    · rw [List.concat_eq_append, ← List.cons_append] at hl
      obtain ⟨hl', hb⟩ := List.append_inj' hl rfl
      cases hb
      obtain ⟨v, hfirst, hrest⟩ := ih hl'
      exact ⟨v, hfirst, List.concat_eq_append ▸ hrest.snoc hstep⟩

/-- A property that every step with an action in `A` keeps holds at the end of a run of such
actions that starts with it. -/
theorem Run.invariant_of_forall {P : σ → Prop} {A : α → Prop}
    (hstep : ∀ s a t, A a → P s → tr s a t → P t) (h : Run tr s as t) (hA : ∀ a ∈ as, A a)
    (hs : P s) : P t := by
  induction h with
  | nil => exact hs
  | snoc _ hs' ih =>
    exact hstep _ _ _ (hA _ (by simp)) (ih fun a ha => hA a (by simp [ha])) hs'

/-- A property that every step keeps holds at the end of a run that starts with it. -/
theorem Run.invariant {P : σ → Prop} (hstep : ∀ s a t, P s → tr s a t → P t)
    (h : Run tr s as t) (hs : P s) : P t :=
  h.invariant_of_forall (A := fun _ => True) (fun s a t _ => hstep s a t) (fun _ _ => trivial) hs

/-- A run of two lists of actions is a run of the first and one of the second. -/
theorem Run.split (h : Run tr s (as ++ bs) t) : ∃ u, Run tr s as u ∧ Run tr u bs t := by
  induction as generalizing s with
  | nil => exact ⟨s, .nil, h⟩
  | cons a as ih =>
    obtain ⟨v, hfirst, hrest⟩ := h.uncons
    obtain ⟨u, has, hbs⟩ := ih hrest
    exact ⟨u, (Run.single hfirst).append has, hbs⟩

/-- A property that steps with an action in `A` keep, unless they are in `B`, holds at the end of
a run of such actions, or some step of the run is in `B`. -/
theorem Run.invariant_or {P : σ → Prop} {A : α → Prop} {B : σ → α → σ → Prop}
    (hstep : ∀ s a t, A a → P s → tr s a t → P t ∨ B s a t) (h : Run tr s as t)
    (hA : ∀ a ∈ as, A a) (hs : P s) :
    P t ∨ ∃ pre a post u v, as = pre ++ a :: post ∧ Run tr s pre u ∧ tr u a v ∧ B u a v := by
  induction h with
  | nil => exact Or.inl hs
  | @snoc u v as a hrun hstep' ih =>
    rcases ih fun a ha => hA a (by simp [ha]) with hu | ⟨pre, b, post, u', v', rfl, hrest⟩
    · rcases hstep u a v (hA a (by simp)) hu hstep' with hv | hb
      · exact Or.inl hv
      · exact Or.inr ⟨as, a, [], u, v, rfl, hrun, hstep', hb⟩
    · exact Or.inr ⟨pre, b, post ++ [a], u', v', by simp, hrest⟩

/-- A run of a system is a run of every system with more steps. -/
theorem Run.mono (hmono : ∀ s a t, tr s a t → tr' s a t) (h : Run tr s as t) : Run tr' s as t := by
  induction h with
  | nil => exact .nil
  | snoc _ hs ih => exact ih.snoc (hmono _ _ _ hs)

/-- A fold of partial steps that succeeds is a run. -/
theorem Run.of_foldlM {f : σ → α → Option σ} (h : as.foldlM f s = some t) :
    Run (fun s a t => f s a = some t) s as t := by
  induction as generalizing s with
  | nil =>
    cases h
    exact .nil
  | cons a as ih =>
    rw [List.foldlM_cons] at h
    obtain ⟨u, hu, h⟩ := Option.bind_eq_some_iff.mp h
    exact (Run.single hu).append (ih h)

end

/-- A monad in which a sequence returns a value only if both of its parts return one. -/
class ReturnsByParts (m : Type* → Type*) [Monad m] : Prop extends LawfulMonad m where
  pure_inj : ∀ {β} {b c : β}, (pure b : m β) = pure c → b = c
  bind_eq_pure : ∀ {β γ} {x : m β} {f : β → m γ} {c : γ},
    x >>= f = pure c ↔ ∃ b, x = pure b ∧ f b = pure c

instance : ReturnsByParts Option where
  pure_inj := Option.some.inj
  bind_eq_pure := Option.bind_eq_some_iff

instance {ε : Type*} : ReturnsByParts (Except ε) where
  pure_inj := Except.ok.inj
  bind_eq_pure {_ _ x f c} := by
    cases x with
    | error e =>
      refine iff_of_false (fun h => ?_) ?_
      · cases h
      · rintro ⟨_, ⟨⟩, _⟩
    | ok b =>
      refine ⟨fun h => ⟨b, rfl, h⟩, ?_⟩
      rintro ⟨_, ⟨⟩, h⟩
      exact h

section

variable {σ : Type*} {m : Type _ → Type*} [Monad m] [ReturnsByParts m] {f : σ → α → m σ}
  {I P : σ → Prop} {C : σ → α → Prop} {s t : σ} {as : List α}

theorem foldlM_concat_eq_pure {a : α} :
    (as ++ [a]).foldlM f s = pure t ↔ ∃ u, as.foldlM f s = pure u ∧ f u a = pure t := by
  rw [List.foldlM_append, ReturnsByParts.bind_eq_pure]
  simp only [List.foldlM_cons, List.foldlM_nil, bind_pure]

/-- **The runs in which `P` always holds.** If a step from a state with the invariant keeps it where
it meets the condition `C`, and otherwise leads to a state without `P`, then all states of a run
have `P` exactly if all its steps meet `C`. -/
theorem forall_prefix_iff (as : List α) (hP : ∀ u, I u → P u) (hs : I s)
    (hstep : ∀ (pre : List α) (a : α) (u v : σ), pre.foldlM f s = pure u → I u →
      f u a = pure v → (P v → C u a) ∧ (C u a → I v)) :
    (∀ (pre : List α) (u : σ), pre <+: as → pre.foldlM f s = pure u → P u) ↔
      ∀ pre a u v, pre ++ [a] <+: as → pre.foldlM f s = pure u → f u a = pure v → C u a := by
  -- either side makes every step of the run keep the invariant
  have hI : (∀ pre a u v, pre ++ [a] <+: as → pre.foldlM f s = pure u → f u a = pure v → I u →
      I v) → ∀ (pre : List α) (u : σ), pre <+: as → pre.foldlM f s = pure u → I u := by
    intro hkeep pre
    induction pre using List.reverseRecOn with
    | nil => exact fun u _ hu => ReturnsByParts.pure_inj hu ▸ hs
    | append_singleton pre a ih =>
      intro v hle hv
      obtain ⟨u, hu, hv⟩ := foldlM_concat_eq_pure.mp hv
      exact hkeep pre a u v hle hu hv (ih u ((List.prefix_append _ _).trans hle) hu)
  constructor
  · intro h
    have hC : ∀ pre a u v, pre ++ [a] <+: as → pre.foldlM f s = pure u → f u a = pure v → I u →
        C u a := fun pre a u v hle hu hv hIu =>
      (hstep pre a u v hu hIu hv).1 (h _ v hle (foldlM_concat_eq_pure.mpr ⟨u, hu, hv⟩))
    have hIall := hI fun pre a u v hle hu hv hIu =>
      (hstep pre a u v hu hIu hv).2 (hC pre a u v hle hu hv hIu)
    exact fun pre a u v hle hu hv =>
      hC pre a u v hle hu hv (hIall pre u ((List.prefix_append _ _).trans hle) hu)
  · intro h pre u hle hu
    exact hP u (hI (fun pre a u v hle hu hv hIu =>
      (hstep pre a u v hu hIu hv).2 (h pre a u v hle hu hv)) pre u hle hu)

/-- The same for a run that comes to its end, by the ways to split it. -/
theorem forall_split_iff (h : as.foldlM f s = pure t) (hP : ∀ u, I u → P u) (hs : I s)
    (hstep : ∀ (pre : List α) (a : α) (u v : σ), pre.foldlM f s = pure u → I u →
      f u a = pure v → (P v → C u a) ∧ (C u a → I v)) :
    (∀ pre post u, as = pre ++ post → pre.foldlM f s = pure u → P u) ↔
      ∀ pre a post u, as = pre ++ a :: post → pre.foldlM f s = pure u → C u a := by
  have hiff := forall_prefix_iff as hP hs hstep
  constructor
  · rintro hall pre a post u rfl hu
    rw [List.foldlM_append, hu, pure_bind, List.foldlM_cons, ReturnsByParts.bind_eq_pure] at h
    obtain ⟨v, hv, -⟩ := h
    refine hiff.mp (fun pre' u' hle hu' => ?_) pre a u v ⟨post, by simp⟩ hu hv
    obtain ⟨post', heq⟩ := hle
    exact hall pre' post' u' heq.symm hu'
  · rintro hall pre post u rfl hu
    refine hiff.mpr (fun pre' a u' v hle hu' _ => ?_) pre u ⟨post, rfl⟩ hu
    obtain ⟨post', heq⟩ := hle
    exact hall pre' a post' u' (by rw [← heq, List.append_assoc]; rfl) hu'

end

section

variable {ε : Type*} {P Q : List ε → ε → Prop} {events : List ε} {e : ε}

/-- Each event of the history is explained by the events before it. -/
def Explained (P : List ε → ε → Prop) (events : List ε) : Prop :=
  ∀ pre e post, events = pre ++ e :: post → P pre e

theorem explained_nil : Explained P ([] : List ε) := by
  intro pre e post h
  simp at h

theorem explained_append_singleton :
    Explained P (events ++ [e]) ↔ Explained P events ∧ P events e := by
  constructor
  · intro h
    refine ⟨fun pre e' post heq => h pre e' (post ++ [e]) ?_, h events e [] rfl⟩
    rw [heq, List.append_assoc, List.cons_append]
  · rintro ⟨h, he⟩ pre e' post heq
    rcases List.eq_nil_or_concat post with rfl | ⟨post, e'', rfl⟩
    · obtain ⟨rfl, hlast⟩ := List.append_inj' heq rfl
      cases hlast
      exact he
    · rw [List.concat_eq_append, ← List.cons_append, ← List.append_assoc] at heq
      exact h pre e' post (List.append_inj' heq rfl).1

/-- Events that need no explanation may be added. -/
theorem Explained.append_of_forall (h : Explained P events) {new : List ε}
    (hnew : ∀ e ∈ new, ∀ pre, P pre e) : Explained P (events ++ new) := by
  induction new using List.reverseRecOn with
  | nil => simpa using h
  | append_singleton new e ih =>
    rw [← List.append_assoc, explained_append_singleton]
    exact ⟨ih fun e' he' => hnew e' (List.mem_append_left _ he'), hnew e (by simp) _⟩

end

end TransitionSystem
