import Mathlib.Data.List.Nodup
import Mathlib.Tactic.Common

/-!
# Lists with at most one entry for each key

The entry of a key in a list, or a default one where the list has none. Where no two entries have
the same key, their order does not matter, and two lists can be compared key by key by taking off
the entries of one key after the other.
-/

namespace KeyedEntries

variable {τ κ : Type*} [DecidableEq κ] {key : τ → κ} {fake : κ → τ} {l l' : List τ} {x : τ} {k : κ}

/-- The entry of a key. -/
def entry (key : τ → κ) (fake : κ → τ) (l : List τ) (k : κ) : τ :=
  (l.find? (key · = k)).getD (fake k)

theorem entry_cons : entry key fake (x :: l) k = if key x = k then x else entry key fake l k := by
  simp only [entry, List.find?_cons]
  split_ifs with h <;> simp [h]

theorem entry_of_forall_ne (h : ∀ x ∈ l, key x ≠ k) : entry key fake l k = fake k := by
  rw [entry, List.find?_eq_none.mpr fun x hx => by simpa using h x hx]
  rfl

theorem key_entry (hfake : ∀ k, key (fake k) = k) : key (entry key fake l k) = k := by
  induction l with
  | nil => exact hfake k
  | cons x l ih =>
    rw [entry_cons]
    split_ifs with h
    · exact h
    · exact ih

theorem find?_eq_some (hl : (l.map key).Nodup) :
    l.find? (key · = k) = some x ↔ x ∈ l ∧ key x = k := by
  constructor
  · intro h
    exact ⟨List.mem_of_find?_eq_some h, by simpa using List.find?_some h⟩
  · rintro ⟨hx, rfl⟩
    obtain ⟨y, hy⟩ : ∃ y, l.find? (key · = key x) = some y :=
      Option.isSome_iff_exists.mp (List.find?_isSome.mpr ⟨x, hx, by simp⟩)
    have hkey : key y = key x := by simpa using List.find?_some hy
    rw [hy, List.inj_on_of_nodup_map hl (List.mem_of_find?_eq_some hy) hx hkey]

/-- What holds of all entries and of the default ones holds of the entry of each key. -/
theorem forall_entry {P : τ → Prop} (hl : (l.map key).Nodup) (hfake : ∀ k, P (fake k)) :
    (∀ k, P (entry key fake l k)) ↔ ∀ x ∈ l, P x := by
  constructor
  · intro h x hx
    have hfind := (find?_eq_some hl).mpr ⟨hx, rfl⟩
    have hkey := h (key x)
    rwa [entry, hfind] at hkey
  · intro h k
    cases hfind : l.find? (key · = k) with
    | none =>
      rw [entry, hfind]
      exact hfake k
    | some x =>
      rw [entry, hfind]
      exact h x (List.mem_of_find?_eq_some hfind)

/-- The order of the entries does not matter. -/
theorem entry_perm (h : l.Perm l') (hl : (l.map key).Nodup) :
    entry key fake l = entry key fake l' := by
  funext k
  have hl' : (l'.map key).Nodup := (h.map key).nodup_iff.mp hl
  have hfind : l.find? (key · = k) = l'.find? (key · = k) := by
    refine Option.ext fun x => ?_
    rw [find?_eq_some hl, find?_eq_some hl', h.mem_iff]
  rw [entry, hfind, entry]

/-- The list `l'` has the entries of `l`, and none for the key `k`. -/
structure Without (key : τ → κ) (fake : κ → τ) (l : List τ) (k : κ) (l' : List τ) : Prop where
  self : entry key fake l' k = fake k
  other : ∀ j ≠ k, entry key fake l' j = entry key fake l j

/-- A comparison key by key is one at the key `k`, and one of the lists without that key. -/
theorem forall_entry_iff {R : τ → τ → Prop} {xs xs' ys ys' : List τ} (hR : R (fake k) (fake k))
    (hxs : Without key fake xs k xs') (hys : Without key fake ys k ys') :
    (∀ j, R (entry key fake xs j) (entry key fake ys j)) ↔
      R (entry key fake xs k) (entry key fake ys k) ∧
        ∀ j, R (entry key fake xs' j) (entry key fake ys' j) := by
  constructor
  · intro h
    refine ⟨h k, fun j => ?_⟩
    by_cases hj : j = k
    · rwa [hj, hxs.self, hys.self]
    · rw [hxs.other j hj, hys.other j hj]
      exact h j
  · rintro ⟨hk, h⟩ j
    by_cases hj : j = k
    · rwa [hj]
    · rw [← hxs.other j hj, ← hys.other j hj]
      exact h j

/-- The list without the first entry, if no other one has its key. -/
theorem without_tail (hx : key x = k) (h : ∀ y ∈ l, key y ≠ k) : Without key fake (x :: l) k l := by
  refine ⟨entry_of_forall_ne h, fun j hj => ?_⟩
  rw [entry_cons, if_neg fun heq => hj (heq.symm.trans hx)]

/-- The list itself, if it has no entry of the key. -/
theorem without_self (h : ∀ y ∈ l, key y ≠ k) : Without key fake l k l :=
  ⟨entry_of_forall_ne h, fun _ _ => rfl⟩

end KeyedEntries
