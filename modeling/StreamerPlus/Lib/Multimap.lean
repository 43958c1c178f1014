import Mathlib.Data.List.Sort
import Mathlib.Tactic

/-!
# Ordered multimaps and their iterator ranges

A multimap whose entries are kept in the order of their keys, entries of one key in the order of
their insertion. A search for a key splits the entries in three: those before the key, the range
of the key, and those after it. The end of the range is the end of the map exactly when nothing
stands after it, which is not the same as the range being empty.
-/

/-- A multimap ordered by its keys. -/
structure Multimap (κ ν : Type*) [LinearOrder κ] where
  entries : List (κ × ν)
  sorted : entries.Pairwise fun a b => a.1 ≤ b.1

namespace Multimap

variable {κ ν : Type*} [LinearOrder κ] (m : Multimap κ ν) (k : κ)

instance : EmptyCollection (Multimap κ ν) := ⟨⟨[], List.Pairwise.nil⟩⟩

/-! ### The three parts of a search -/

/-- The entries before the lower bound of `k`. -/
def before : List (κ × ν) := m.entries.filter fun e => e.1 < k

/-- The entries from the lower to the upper bound of `k`. -/
def equalRange : List (κ × ν) := m.entries.filter fun e => e.1 = k

/-- The entries from the upper bound of `k` on. -/
def after : List (κ × ν) := m.entries.filter fun e => k < e.1

@[simp] theorem mem_before {e : κ × ν} : e ∈ m.before k ↔ e ∈ m.entries ∧ e.1 < k := by
  simp [before]

@[simp] theorem mem_equalRange {e : κ × ν} : e ∈ m.equalRange k ↔ e ∈ m.entries ∧ e.1 = k := by
  simp [equalRange]

@[simp] theorem mem_after {e : κ × ν} : e ∈ m.after k ↔ e ∈ m.entries ∧ k < e.1 := by
  simp [after]

/-- **The three parts are consecutive.** -/
theorem append_parts : m.before k ++ m.equalRange k ++ m.after k = m.entries := by
  obtain ⟨l, hl⟩ := m
  simp only [before, equalRange, after]
  induction l with
  | nil => rfl
  | cons e l ih =>
    rw [List.pairwise_cons] at hl
    have hrest := ih hl.2
    rcases lt_trichotomy e.1 k with hlt | heq | hgt
    · simpa [List.filter_cons, hlt, hlt.ne, hlt.not_gt] using hrest
    -- from here on nothing of the tail stands before `k`
    · have hbefore : l.filter (fun e => e.1 < k) = [] := by
        simpa [List.filter_eq_nil_iff, heq] using hl.1
      simpa [List.filter_cons, heq, hbefore] using hrest
    · have hbefore : l.filter (fun e => e.1 < k) = [] := by
        simpa [List.filter_eq_nil_iff] using fun a b h => hgt.le.trans (hl.1 (a, b) h)
      have hrange : l.filter (fun e => e.1 = k) = [] := by
        simpa [List.filter_eq_nil_iff] using fun a b h => (hgt.trans_le (hl.1 (a, b) h)).ne'
      simpa [List.filter_cons, hgt, hgt.ne', hgt.not_gt, hbefore, hrange] using hrest

/-- The entries up to the upper bound of `k`. -/
def upTo : List (κ × ν) := m.before k ++ m.equalRange k

theorem upTo_append_after : m.upTo k ++ m.after k = m.entries := m.append_parts k

theorem mem_upTo {e : κ × ν} : e ∈ m.upTo k ↔ e ∈ m.entries ∧ e.1 ≤ k := by
  rw [upTo, List.mem_append, mem_before, mem_equalRange, le_iff_lt_or_eq, and_or_left]

/-- The range of `k` ends at the end of the map exactly when no greater key has an entry. -/
theorem after_eq_nil_iff : m.after k = [] ↔ ∀ l, k < l → m.equalRange l = [] := by
  simp only [List.eq_nil_iff_forall_not_mem, mem_after, mem_equalRange]
  constructor
  · rintro h l hl e ⟨he, rfl⟩
    exact h e ⟨he, hl⟩
  · rintro h e ⟨he, hk⟩
    exact h e.1 hk e ⟨he, rfl⟩

/-! ### Updates -/

theorem sorted_parts {mid : List (κ × ν)} (hmid : ∀ e ∈ mid, e.1 = k) :
    (m.before k ++ mid ++ m.after k).Pairwise fun a b => a.1 ≤ b.1 := by
  simp only [List.pairwise_append, List.mem_append]
  refine ⟨⟨m.sorted.filter _, ?_, fun a ha b hb => ?_⟩, m.sorted.filter _, ?_⟩
  · exact List.pairwise_of_forall_mem_list fun a ha b hb => by rw [hmid a ha, hmid b hb]
  · rw [hmid b hb]
    exact ((m.mem_before k).mp ha).2.le
  · rintro a (ha | ha) b hb
    · exact (((m.mem_before k).mp ha).2.trans ((m.mem_after k).mp hb).2).le
    · rw [hmid a ha]
      exact ((m.mem_after k).mp hb).2.le

/-- Replaces the range of `k` by `mid`. -/
def replaceRange (mid : List (κ × ν)) (hmid : ∀ e ∈ mid, e.1 = k) : Multimap κ ν where
  entries := m.before k ++ mid ++ m.after k
  sorted := m.sorted_parts k hmid

@[simp] theorem equalRange_replaceRange (mid : List (κ × ν)) (hmid : ∀ e ∈ mid, e.1 = k) (l : κ) :
    (m.replaceRange k mid hmid).equalRange l = if l = k then mid else m.equalRange l := by
  split_ifs with h
  · subst h
    have hbefore : (m.before l).filter (fun e => e.1 = l) = [] :=
      List.filter_eq_nil_iff.mpr fun e he => by simpa using ((m.mem_before l).mp he).2.ne
    have hafter : (m.after l).filter (fun e => e.1 = l) = [] :=
      List.filter_eq_nil_iff.mpr fun e he => by simpa using ((m.mem_after l).mp he).2.ne'
    have hself : mid.filter (fun e => e.1 = l) = mid :=
      List.filter_eq_self.mpr fun e he => by simpa using hmid e he
    simp only [replaceRange, equalRange, List.filter_append, hbefore, hafter, hself,
      List.nil_append, List.append_nil]
  -- the other ranges lie in the parts before and after `k`, which stay
  · have hother : ∀ r : List (κ × ν), (∀ e ∈ r, e.1 = k) → r.filter (fun e => e.1 = l) = [] :=
      fun r hr => List.filter_eq_nil_iff.mpr fun e he => by simpa [hr e he] using Ne.symm h
    have hparts := congrArg (List.filter fun e => e.1 = l) (m.append_parts k)
    rw [List.filter_append, List.filter_append,
      hother (m.equalRange k) fun e he => ((m.mem_equalRange k).mp he).2] at hparts
    simpa only [replaceRange, equalRange, List.filter_append, hother mid hmid] using hparts

/-- `emplace`: a new entry goes behind those of its key. -/
def emplace (v : ν) : Multimap κ ν :=
  m.replaceRange k (m.equalRange k ++ [(k, v)]) fun e he => by
    rcases List.mem_append.mp he with h | h
    · exact ((m.mem_equalRange k).mp h).2
    · rw [List.mem_singleton.mp h]

theorem entries_emplace (v : ν) : (m.emplace k v).entries = m.upTo k ++ (k, v) :: m.after k := by
  simp only [emplace, replaceRange, upTo, List.append_assoc, List.singleton_append]

/-- `erase` of the entries up to the upper bound of `k`. -/
def eraseUpTo : Multimap κ ν := ⟨m.after k, m.sorted.filter _⟩

/-- `erase` of the first entry of `k` whose value meets `p`. -/
def eraseFirst (p : ν → Bool) : Multimap κ ν :=
  m.replaceRange k ((m.equalRange k).eraseP fun e => p e.2)
    fun _ he => ((m.mem_equalRange k).mp (List.mem_of_mem_eraseP he)).2

/-- `erase` of the whole range of `k`. -/
def eraseRange : Multimap κ ν := m.replaceRange k [] (by simp)

end Multimap
