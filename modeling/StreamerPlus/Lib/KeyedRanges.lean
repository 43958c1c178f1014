import Mathlib.Data.List.Sort
import Mathlib.Tactic

/-!
# Set algorithms on ranges

`std::set_difference` and `std::set_intersection` as they walk over two ranges, and with a
comparison that only says that the keys of two elements differ. The intersection takes the elements
of the second range one after the other and gives up at the first that it does not find any more, so
it has what a set algorithm would give it only if the ranges are in a common order of their common
keys, and these come first in the second.

## Main results

* `setDifference_lt_eq_filter`: with a linear order the difference is that of sets.
* `setIntersection_eq_filter_iff`: when the intersection by keys is that of sets.
* `setDifference_eq_filter`: the difference by keys from a part of the range is that of sets.
-/

namespace StreamerPlus.SortedRanges

variable {α κ : Type*}

/-- `std::set_difference(first1, last1, first2, last2, result, comp)`. -/
def setDifference (comp : α → α → Bool) : List α → List α → List α
  | [], _ => []
  | a :: as, [] => a :: as
  | a :: as, b :: bs =>
    if comp a b then a :: setDifference comp as (b :: bs)
    else if comp b a then setDifference comp (a :: as) bs
    else setDifference comp as bs
termination_by as bs => as.length + bs.length

/-- `std::set_intersection(first1, last1, first2, last2, result, comp)`. -/
def setIntersection (comp : α → α → Bool) : List α → List α → List α
  | [], _ => []
  | _ :: _, [] => []
  | a :: as, b :: bs =>
    if comp a b then setIntersection comp as (b :: bs)
    else if comp b a then setIntersection comp (a :: as) bs
    else a :: setIntersection comp as bs
termination_by as bs => as.length + bs.length

@[simp] theorem setDifference_nil (comp : α → α → Bool) (as : List α) :
    setDifference comp as [] = as := by
  cases as <;> rw [setDifference]

/-- What is in both of two sorted ranges is left out of their difference, and nothing else. -/
theorem setDifference_lt_eq_filter [LinearOrder α] {as bs : List α} (has : as.Pairwise (· < ·))
    (hbs : bs.Pairwise (· < ·)) :
    setDifference (fun a b => decide (a < b)) as bs = as.filter (· ∉ bs) := by
  fun_induction setDifference (fun a b : α => decide (a < b)) as bs with
  | case1 => rfl
  | case2 => simp
  | case3 a as b bs hab ih =>
    have hnot : a ∉ b :: bs := fun hmem => by
      have hle : b ≤ a := by
        rcases List.mem_cons.mp hmem with rfl | hmem
        · exact le_rfl
        · exact ((List.pairwise_cons.mp hbs).1 a hmem).le
      exact absurd (of_decide_eq_true hab) (not_lt.mpr hle)
    rw [ih (List.pairwise_cons.mp has).2 hbs, List.filter_cons_of_pos (by simpa using hnot)]
  | case4 a as b bs hab hba ih =>
    rw [ih has (List.pairwise_cons.mp hbs).2]
    refine List.filter_congr fun x hx => ?_
    have hlt : b < x := by
      rcases List.mem_cons.mp hx with rfl | hx
      · exact of_decide_eq_true hba
      · exact (of_decide_eq_true hba).trans ((List.pairwise_cons.mp has).1 x hx)
    simp [hlt.ne']
  | case5 a as b bs hab hba ih =>
    obtain rfl : a = b := le_antisymm (by simpa using hba) (by simpa using hab)
    obtain ⟨hfirst, has⟩ := List.pairwise_cons.mp has
    rw [ih has (List.pairwise_cons.mp hbs).2, List.filter_cons_of_neg (by simp)]
    refine List.filter_congr fun x hx => ?_
    simp [(hfirst x hx).ne']

variable [DecidableEq κ] (key : α → κ)

/-- The comparison that says that keys differ. -/
def keysDiffer (a b : α) : Bool := decide (key a ≠ key b)

variable {key} {as bs us : List α} {ks : List κ} {a b : α}

theorem setDifference_cons_of_ne (h : key a ≠ key b) :
    setDifference (keysDiffer key) (a :: as) (b :: bs) =
      a :: setDifference (keysDiffer key) as (b :: bs) := by
  rw [setDifference, if_pos (by simpa [keysDiffer] using h)]

theorem setDifference_cons_of_eq (h : key a = key b) :
    setDifference (keysDiffer key) (a :: as) (b :: bs) = setDifference (keysDiffer key) as bs := by
  rw [setDifference, if_neg (by simp [keysDiffer, h]), if_neg (by simp [keysDiffer, h])]

theorem setIntersection_cons_of_ne (h : key a ≠ key b) :
    setIntersection (keysDiffer key) (a :: as) (b :: bs) =
      setIntersection (keysDiffer key) as (b :: bs) := by
  rw [setIntersection, if_pos (by simpa [keysDiffer] using h)]

theorem setIntersection_cons_of_eq (h : key a = key b) :
    setIntersection (keysDiffer key) (a :: as) (b :: bs) =
      a :: setIntersection (keysDiffer key) as bs := by
  rw [setIntersection, if_neg (by simp [keysDiffer, h]), if_neg (by simp [keysDiffer, h])]

@[simp] theorem setIntersection_nil_left : setIntersection (keysDiffer key) [] bs = [] := by
  rw [setIntersection]

@[simp] theorem setIntersection_nil_right : setIntersection (keysDiffer key) as [] = [] := by
  cases as <;> rw [setIntersection]

omit [DecidableEq κ] in
/-- A key that is not that of the head is one of the others. -/
theorem sublist_of_ne {k l : κ} {ls : List κ} (h : (k :: ks).Sublist (l :: ls)) (hne : l ≠ k) :
    (k :: ks).Sublist ls := by
  cases h with
  | cons _ h => exact h
  | cons_cons => exact (hne rfl).elim

/-- **The difference by keys** from a range whose keys are among those of the first, in their
order. -/
theorem setDifference_eq_filter (h : (us.map key).Sublist (as.map key))
    (hnodup : (as.map key).Nodup) :
    setDifference (keysDiffer key) as us = as.filter (key · ∉ us.map key) := by
  induction as generalizing us with
  | nil =>
    rw [setDifference]
    rfl
  | cons a as ih =>
    obtain ⟨ha, hnodup⟩ := List.nodup_cons.mp hnodup
    cases us with
    | nil => simp
    | cons u us =>
      by_cases hau : key a = key u
      · have hus : (us.map key).Sublist (as.map key) := by
          rw [List.map_cons, List.map_cons, hau] at h
          exact List.cons_sublist_cons.mp h
        rw [setDifference_cons_of_eq hau, ih hus hnodup,
          List.filter_cons_of_neg (by simp [hau])]
        refine List.filter_congr fun x hx => ?_
        have hxu : key x ≠ key u := fun heq => ha (hau ▸ heq ▸ List.mem_map_of_mem hx)
        simp [hxu]
      · have hus : ((u :: us).map key).Sublist (as.map key) := sublist_of_ne h hau
        have hnot : key a ∉ (u :: us).map key := fun hmem => ha (hus.subset hmem)
        rw [setDifference_cons_of_ne hau, ih hus hnodup,
          List.filter_cons_of_pos (by simpa using hnot)]

theorem setIntersection_sublist : (setIntersection (keysDiffer key) as bs).Sublist as := by
  induction as generalizing bs with
  | nil => simp
  | cons a as ih =>
    cases bs with
    | nil => simp
    | cons b bs =>
      by_cases hab : key a = key b
      · rw [setIntersection_cons_of_eq hab]
        exact ih.cons_cons a
      · rw [setIntersection_cons_of_ne hab]
        exact ih.cons a

/-- The elements of the second range are found one after the other. -/
theorem map_setIntersection_isPrefix :
    (setIntersection (keysDiffer key) as bs).map key <+: bs.map key := by
  induction as generalizing bs with
  | nil => simp
  | cons a as ih =>
    cases bs with
    | nil => simp
    | cons b bs =>
      by_cases hab : key a = key b
      · rw [setIntersection_cons_of_eq hab, List.map_cons, List.map_cons, hab]
        exact (List.prefix_cons_inj _).mpr ih
      · rw [setIntersection_cons_of_ne hab]
        exact ih

/-- As many of them as there are in the first range are found. -/
theorem isPrefix_map_setIntersection (has : ks.Sublist (as.map key)) (hbs : ks <+: bs.map key) :
    ks <+: (setIntersection (keysDiffer key) as bs).map key := by
  induction as generalizing bs ks with
  | nil =>
    rw [List.sublist_nil.mp has]
    exact List.nil_prefix
  | cons a as ih =>
    cases ks with
    | nil => exact List.nil_prefix
    | cons k ks =>
      cases bs with
      | nil => exact absurd (List.prefix_nil.mp hbs) (List.cons_ne_nil _ _)
      | cons b bs =>
        obtain ⟨rfl, hbs'⟩ := List.cons_prefix_cons.mp hbs
        by_cases hab : key a = key b
        · rw [List.map_cons, hab, List.cons_sublist_cons] at has
          rw [setIntersection_cons_of_eq hab, List.map_cons, hab, List.prefix_cons_inj]
          exact ih has hbs'
        · rw [setIntersection_cons_of_ne hab]
          exact ih (sublist_of_ne has hab) hbs

/-- A part of a range is given by its keys. -/
theorem eq_filter_of_sublist (h : us.Sublist as) (hnodup : (as.map key).Nodup) :
    us = as.filter (key · ∈ us.map key) := by
  induction h with
  | slnil => rfl
  | @cons us as a h ih =>
    obtain ⟨ha, hnodup⟩ := List.nodup_cons.mp hnodup
    have hnot : key a ∉ us.map key := fun hmem => ha ((h.map key).subset hmem)
    rw [List.filter_cons_of_neg (by simpa using hnot)]
    exact ih hnodup
  | @cons_cons us as a h ih =>
    obtain ⟨ha, hnodup⟩ := List.nodup_cons.mp hnodup
    have hfilter : as.filter (key · ∈ (a :: us).map key) = as.filter (key · ∈ us.map key) := by
      refine List.filter_congr fun x hx => ?_
      have hxa : key x ≠ key a := fun heq => ha (heq ▸ List.mem_map_of_mem hx)
      simp [hxa]
    rw [List.filter_cons_of_pos (by simp), hfilter, ← ih hnodup]

/-- **The intersection by keys** is that of sets exactly if the common keys come first in the second
range, and in an order that the first range has too. -/
theorem setIntersection_eq_filter_iff (has : (as.map key).Nodup) (hbs : (bs.map key).Nodup) :
    setIntersection (keysDiffer key) as bs = as.filter (key · ∈ bs.map key) ↔
      (bs.map key).filter (· ∈ as.map key) <+: bs.map key ∧
        ((bs.map key).filter (· ∈ as.map key)).Sublist (as.map key) := by
  have hsub : (setIntersection (keysDiffer key) as bs).Sublist as := setIntersection_sublist
  have hpre : (setIntersection (keysDiffer key) as bs).map key <+: bs.map key :=
    map_setIntersection_isPrefix
  generalize hus : setIntersection (keysDiffer key) as bs = us at hsub hpre
  constructor
  · intro heq
    obtain ⟨rest, hrest⟩ := hpre
    -- the keys of the intersection are those of the second range that the first has
    have hnone : ∀ k ∈ rest, ¬decide (k ∈ as.map key) := by
      intro k hk hmem
      obtain ⟨x, hx, rfl⟩ := List.mem_map.mp (of_decide_eq_true hmem)
      have hfound : x ∈ us :=
        heq ▸ List.mem_filter.mpr ⟨hx, decide_eq_true (hrest ▸ List.mem_append_right _ hk)⟩
      rw [← hrest] at hbs
      exact (List.nodup_append.mp hbs).2.2 _ (List.mem_map_of_mem hfound) _ hk rfl
    have hall : ∀ k ∈ us.map key, decide (k ∈ as.map key) := fun k hk =>
      decide_eq_true ((hsub.map key).subset hk)
    have hkeys : (bs.map key).filter (· ∈ as.map key) = us.map key := by
      rw [← hrest, List.filter_append, List.filter_eq_nil_iff.mpr hnone,
        List.filter_eq_self.mpr hall, List.append_nil]
    rw [hkeys]
    exact ⟨⟨rest, hrest⟩, hsub.map key⟩
  · rintro ⟨hfirst, hsublist⟩
    obtain ⟨rest, hrest⟩ := isPrefix_map_setIntersection hsublist hfirst
    rw [hus] at hrest
    -- nothing else is found, since it would be a common key as well
    have hnil : rest = [] := by
      refine List.eq_nil_iff_forall_not_mem.mpr fun k hk => ?_
      have hmem : k ∈ us.map key := hrest ▸ List.mem_append_right _ hk
      have hcommon : k ∈ (bs.map key).filter (· ∈ as.map key) :=
        List.mem_filter.mpr ⟨hpre.subset hmem, decide_eq_true ((hsub.map key).subset hmem)⟩
      have hnodup := has.sublist (hsub.map key)
      rw [← hrest] at hnodup
      exact (List.nodup_append.mp hnodup).2.2 k hcommon k hk rfl
    rw [hnil, List.append_nil] at hrest
    rw [eq_filter_of_sublist hsub has, ← hrest]
    refine List.filter_congr fun x hx => ?_
    have hmem : key x ∈ as.map key := List.mem_map_of_mem hx
    rw [decide_eq_decide, List.mem_filter, decide_eq_true_eq]
    exact and_iff_left hmem

end StreamerPlus.SortedRanges
