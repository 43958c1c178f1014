import Mathlib.Data.List.TakeWhile
import Mathlib.Order.Basic
import Mathlib.Tactic

/-!
# Logs of changes

A setting that changes over time can be kept as a sorted list of changes, each with the key from
which on it is in force. Changes may be inserted out of order, and changes that a later one has
replaced for every key that is still of interest may be pruned.

`Records all k l` says that `l` is such a log of the set `all` of changes, for keys from `k` on.
Insertions and prunings keep it, and `Records.inForce_eq_some_iff` reads the setting in force off
`all`, whatever has been pruned.
-/

namespace ChangeLog

variable {κ β : Type*} [LinearOrder κ]

/-- The change in force at `k`: the last one that does not start after it. -/
def inForce (l : List (κ × β)) (k : κ) : Option (κ × β) := l.reverse.find? (·.1 ≤ k)

/-- A change is inserted before the first later one. -/
def insert (k : κ) (b : β) (l : List (κ × β)) : List (κ × β) :=
  l.takeWhile (·.1 ≤ k) ++ (k, b) :: l.dropWhile (·.1 ≤ k)

/-- The changes that are needed from `k` on: the one in force at `k`, and the later ones. The
first change is not looked at, so that one is always kept. -/
def prune (k : κ) (l : List (κ × β)) : List (κ × β) :=
  l.drop ((l.drop 1).takeWhile (·.1 ≤ k)).length

/-- The log is sorted, and has one change for a key at most. -/
def Sorted (l : List (κ × β)) : Prop := l.Pairwise (·.1 < ·.1)

variable {l : List (κ × β)} {k k' : κ} {b : β} {e : κ × β}

/-- In a sorted log the change in force is the one with the greatest key. -/
theorem inForce_eq_some_iff (h : Sorted l) :
    inForce l k = some e ↔ e ∈ l ∧ e.1 ≤ k ∧ ∀ e' ∈ l, e'.1 ≤ k → e'.1 ≤ e.1 := by
  unfold inForce
  induction l using List.reverseRecOn with
  | nil => simp
  | append_singleton l a ih =>
    obtain ⟨hl, -, hlast⟩ := List.pairwise_append.mp h
    have hlt : ∀ e' ∈ l, e'.1 < a.1 := fun e' he' => hlast e' he' a List.mem_cons_self
    rw [List.reverse_append, List.reverse_singleton, List.singleton_append]
    by_cases ha : a.1 ≤ k
    · rw [List.find?_cons_of_pos (by simpa using ha), Option.some_inj]
      constructor
      · rintro rfl
        refine ⟨by simp, ha, fun e' he' _ => ?_⟩
        rcases List.mem_append.mp he' with he' | he'
        · exact (hlt e' he').le
        · rw [List.mem_singleton.mp he']
      · rintro ⟨he, -, hgreatest⟩
        rcases List.mem_append.mp he with he | he
        · exact absurd (hgreatest a (by simp) ha) (not_le.mpr (hlt e he))
        · exact (List.mem_singleton.mp he).symm
    · rw [List.find?_cons_of_neg (by simpa using ha), ih hl]
      constructor
      · rintro ⟨he, hk, hgreatest⟩
        refine ⟨List.mem_append_left _ he, hk, fun e' he' hk' => ?_⟩
        rcases List.mem_append.mp he' with he' | he'
        · exact hgreatest e' he' hk'
        · exact absurd (List.mem_singleton.mp he' ▸ hk') ha
      · rintro ⟨he, hk, hgreatest⟩
        rcases List.mem_append.mp he with he | he
        · exact ⟨he, hk, fun e' he' => hgreatest e' (List.mem_append_left _ he')⟩
        · exact absurd (List.mem_singleton.mp he ▸ hk) ha

/-! ### Insertions -/

theorem mem_insert : e ∈ insert k b l ↔ e = (k, b) ∨ e ∈ l := by
  conv_rhs => rw [← List.takeWhile_append_dropWhile (p := fun e : κ × β => e.1 ≤ k) (l := l)]
  simp only [insert, List.mem_append, List.mem_cons]
  tauto

/-- The changes after the place of an insertion are later. -/
theorem lt_of_mem_dropWhile (h : Sorted l) (he : e ∈ l.dropWhile (·.1 ≤ k)) : k < e.1 := by
  induction l with
  | nil => simp at he
  | cons a l ih =>
    rw [List.dropWhile_cons] at he
    split_ifs at he with ha
    · exact ih (List.Pairwise.of_cons h) he
    · have hka : k < a.1 := by simpa using ha
      rcases List.mem_cons.mp he with rfl | he
      · exact hka
      · exact hka.trans (List.rel_of_pairwise_cons h he)

theorem sorted_insert (h : Sorted l) (hk : ∀ e ∈ l, e.1 ≠ k) : Sorted (insert k b l) := by
  have hsplit := List.takeWhile_append_dropWhile (p := fun e : κ × β => e.1 ≤ k) (l := l)
  have hbefore : ∀ e ∈ l.takeWhile (·.1 ≤ k), e.1 < k := fun e he =>
    lt_of_le_of_ne (by simpa using List.mem_takeWhile_imp he)
      (hk e ((List.takeWhile_prefix _).subset he))
  unfold Sorted at h
  rw [← hsplit] at h
  obtain ⟨htake, hdrop, hcross⟩ := List.pairwise_append.mp h
  rw [hsplit] at h
  refine List.pairwise_append.mpr ⟨htake, List.pairwise_cons.mpr ⟨fun e he => ?_, hdrop⟩, ?_⟩
  · exact lt_of_mem_dropWhile h he
  · intro e he e' he'
    rcases List.mem_cons.mp he' with rfl | he'
    · exact hbefore e he
    · exact hcross e he e' he'

/-! ### Prunings -/

theorem prune_sublist : (prune k l).Sublist l := List.drop_sublist _ _

/-- A change that is pruned is replaced by a later one that starts no later than `k`. -/
theorem exists_of_not_mem_prune (h : Sorted l) (he : e ∈ l) (hpruned : e ∉ prune k l) :
    ∃ e' ∈ prune k l, e.1 < e'.1 ∧ e'.1 ≤ k := by
  obtain ⟨a, l, rfl⟩ := List.exists_cons_of_ne_nil (List.ne_nil_of_mem he)
  simp only [prune, List.drop_one, List.tail_cons] at hpruned ⊢
  have hprefix := List.takeWhile_prefix (fun e : κ × β => e.1 ≤ k) (l := l)
  have hlen := hprefix.length_le
  generalize hn : (l.takeWhile (·.1 ≤ k)).length = n at hpruned hlen ⊢
  -- the change that is kept is the last one of those that start no later than `k`
  cases n with
  | zero => exact absurd he (by simpa using hpruned)
  | succ m =>
    have hm : m < l.length := hlen
    have hkept : l[m] ∈ l.takeWhile (·.1 ≤ k) := by
      rw [List.prefix_iff_eq_take.mp hprefix, hn]
      exact List.mem_take_iff_getElem.mpr ⟨m, by omega, rfl⟩
    have hdrop : (a :: l).drop (m + 1) = l[m] :: l.drop (m + 1) := by
      rw [List.drop_succ_cons, List.drop_eq_getElem_cons hm]
    rw [hdrop] at hpruned ⊢
    refine ⟨l[m], List.mem_cons_self, ?_, by simpa using List.mem_takeWhile_imp hkept⟩
    have hmem : e ∈ (a :: l).take (m + 1) := by
      rw [← List.take_append_drop (m + 1) (a :: l), hdrop] at he
      exact (List.mem_append.mp he).resolve_right hpruned
    unfold Sorted at h
    rw [← List.take_append_drop (m + 1) (a :: l), hdrop] at h
    exact (List.pairwise_append.mp h).2.2 e hmem _ List.mem_cons_self

/-! ### Logs of a set of changes -/

/-- The log `l` has all that is needed of the changes `all` at keys from `k` on: what it lacks has
been replaced by then. -/
structure Records (all : Set (κ × β)) (k : κ) (l : List (κ × β)) : Prop where
  sorted : Sorted l
  subset : ∀ e ∈ l, e ∈ all
  replaced : ∀ e ∈ all, e ∉ l → ∃ e' ∈ l, e.1 < e'.1 ∧ e'.1 ≤ k

variable {all : Set (κ × β)}

theorem Records.mono (h : Records all k l) (hk : k ≤ k') : Records all k' l where
  sorted := h.sorted
  subset := h.subset
  replaced e he hel := by
    obtain ⟨e', he', hlt, hle⟩ := h.replaced e he hel
    exact ⟨e', he', hlt, hle.trans hk⟩

theorem Records.prune (h : Records all k l) (hk : k' ≤ k) :
    Records all k (ChangeLog.prune k' l) where
  sorted := h.sorted.sublist prune_sublist
  subset e he := h.subset e (prune_sublist.subset he)
  replaced e he hel := by
    by_cases hmem : e ∈ l
    · obtain ⟨e', he', hlt, hle⟩ := exists_of_not_mem_prune h.sorted hmem hel
      exact ⟨e', he', hlt, hle.trans hk⟩
    · obtain ⟨e', he', hlt, hle⟩ := h.replaced e he hmem
      by_cases hmem' : e' ∈ ChangeLog.prune k' l
      · exact ⟨e', hmem', hlt, hle⟩
      · obtain ⟨e'', he'', hlt', hle'⟩ := exists_of_not_mem_prune h.sorted he' hmem'
        exact ⟨e'', he'', hlt.trans hlt', hle'.trans hk⟩

theorem Records.insert (h : Records all k l) (hnew : ∀ e ∈ all, e.1 ≠ k') :
    Records (Insert.insert (k', b) all) k (ChangeLog.insert k' b l) where
  sorted := sorted_insert h.sorted fun e he => hnew e (h.subset e he)
  subset e he := by
    rcases mem_insert.mp he with rfl | he
    · exact Set.mem_insert _ _
    · exact Set.mem_insert_of_mem _ (h.subset e he)
  replaced e he hel := by
    rw [mem_insert, not_or] at hel
    obtain ⟨e', he', hle⟩ := h.replaced e ((Set.mem_insert_iff.mp he).resolve_left hel.1) hel.2
    exact ⟨e', mem_insert.mpr (Or.inr he'), hle⟩

/-- **What is in force does not depend on the pruning.** -/
theorem Records.inForce_eq_some_iff (h : Records all k l) (hk : k ≤ k') :
    inForce l k' = some e ↔ e ∈ all ∧ e.1 ≤ k' ∧ ∀ e' ∈ all, e'.1 ≤ k' → e'.1 ≤ e.1 := by
  rw [ChangeLog.inForce_eq_some_iff h.sorted]
  constructor
  · rintro ⟨he, hek, hgreatest⟩
    refine ⟨h.subset e he, hek, fun e' he' hek' => ?_⟩
    by_cases hmem : e' ∈ l
    · exact hgreatest e' hmem hek'
    · obtain ⟨e'', he'', hlt, hle⟩ := h.replaced e' he' hmem
      exact hlt.le.trans (hgreatest e'' he'' (hle.trans hk))
  · rintro ⟨he, hek, hgreatest⟩
    refine ⟨?_, hek, fun e' he' => hgreatest e' (h.subset e' he')⟩
    by_contra hmem
    obtain ⟨e', he', hlt, hle⟩ := h.replaced e he hmem
    exact absurd (hgreatest e' (h.subset e' he') (hle.trans hk)) (not_le.mpr hlt)

end ChangeLog
