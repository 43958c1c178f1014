import StreamerPlus.Discovery.DnsSdEndpoint
import StreamerPlus.Lib.KeyedRanges

/-!
# What `CalculateChangeSets` finds

`CalculateChangeSets` compares the endpoints of a domain before and after a change
(`querier_impl.cc`). It first leaves out what is in both lists, then looks for endpoints of one
identity in what is left, with set algorithms whose comparison only says that two identities differ.
An old endpoint without a successor therefore hides the successors of those behind it: they are
reported as created, and the old ones as deleted.

## Main results

* `isPartition_iff`: the three sets are right exactly if the old endpoints that have a successor
  come before those that have none, in the order of their successors.
-/

namespace StreamerPlus.Discovery

open SortedRanges

variable {τ : Type}

/-- `created`, `updated` and `deleted`, as `CalculateChangeSets` fills them. -/
structure ChangeSets (τ : Type) where
  created : List (DnsSdInstanceEndpoint τ)
  updated : List (DnsSdInstanceEndpoint τ)
  deleted : List (DnsSdInstanceEndpoint τ)

/-- `IsNotEqualOrUpdate(first, second)`. -/
def isNotEqualOrUpdate (a b : DnsSdInstanceEndpoint τ) : Bool := !a.isEqualOrUpdate b

/-- `CalculateChangeSets(old_endpoints, new_endpoints, …)`. -/
def calculateChangeSets [LinearOrder τ]
    (oldEndpoints newEndpoints : List (DnsSdInstanceEndpoint τ)) : ChangeSets τ :=
  let createdOrUpdated := setDifference (fun a b => decide (a < b)) newEndpoints oldEndpoints
  let deletedOrUpdated := setDifference (fun a b => decide (a < b)) oldEndpoints newEndpoints
  let updated := setIntersection isNotEqualOrUpdate createdOrUpdated deletedOrUpdated
  { created := setDifference isNotEqualOrUpdate createdOrUpdated updated
    updated := updated
    deleted := setDifference isNotEqualOrUpdate deletedOrUpdated updated }

/-- The instance, service and domain of an endpoint. -/
def DnsSdInstanceEndpoint.identity (e : DnsSdInstanceEndpoint τ) : InstanceKey :=
  ⟨e.serviceKey, e.instanceId⟩

open DnsSdInstanceEndpoint (identity)

theorem isNotEqualOrUpdate_eq_keysDiffer :
    (isNotEqualOrUpdate : DnsSdInstanceEndpoint τ → _) = keysDiffer identity := by
  funext a b
  rw [Bool.eq_iff_iff]
  simp only [isNotEqualOrUpdate, DnsSdInstanceEndpoint.isEqualOrUpdate, keysDiffer, identity,
    DnsSdInstanceEndpoint.serviceKey, Bool.not_eq_true', decide_eq_true_eq, ne_eq,
    InstanceKey.mk.injEq, ServiceKey.mk.injEq, ← Bool.not_eq_true, Bool.and_eq_true]
  tauto

variable [LinearOrder τ] {old new : List (DnsSdInstanceEndpoint τ)}

/-- The sets are what their names say. -/
structure IsPartition (old new : List (DnsSdInstanceEndpoint τ)) (sets : ChangeSets τ) : Prop where
  created : sets.created = new.filter (identity · ∉ old.map identity)
  updated : sets.updated = new.filter fun e => identity e ∈ old.map identity ∧ e ∉ old
  deleted : sets.deleted = old.filter (identity · ∉ new.map identity)

instance (sets : ChangeSets τ) : Decidable (IsPartition old new sets) :=
  decidable_of_iff (_ ∧ _ ∧ _) ⟨fun ⟨h₁, h₂, h₃⟩ => ⟨h₁, h₂, h₃⟩, fun ⟨h₁, h₂, h₃⟩ => ⟨h₁, h₂, h₃⟩⟩

/-- `created_or_updated` and `deleted_or_updated`: what only the first list has. -/
def onlyIn (as bs : List (DnsSdInstanceEndpoint τ)) : List (DnsSdInstanceEndpoint τ) :=
  as.filter (· ∉ bs)

/-- The identities of the old endpoints that were changed, in the order of the old list. -/
def changedIdentities (old new : List (DnsSdInstanceEndpoint τ)) : List InstanceKey :=
  ((onlyIn old new).map identity).filter (· ∈ (onlyIn new old).map identity)

/-- Among the old endpoints that are not in the new list, those that were changed come first, in the
order of what they were changed to. -/
def ChangedComeFirst (old new : List (DnsSdInstanceEndpoint τ)) : Prop :=
  changedIdentities old new <+: (onlyIn old new).map identity ∧
    (changedIdentities old new).Sublist ((onlyIn new old).map identity)

instance : Decidable (ChangedComeFirst old new) := inferInstanceAs (Decidable (_ ∧ _))

/-! ### What only one list has -/

variable {as bs : List (DnsSdInstanceEndpoint τ)}

theorem mem_onlyIn {e : DnsSdInstanceEndpoint τ} : e ∈ onlyIn as bs ↔ e ∈ as ∧ e ∉ bs := by
  simp [onlyIn]

theorem nodup_onlyIn {as : List (DnsSdInstanceEndpoint τ)} (h : (as.map identity).Nodup)
    (bs : List (DnsSdInstanceEndpoint τ)) : ((onlyIn as bs).map identity).Nodup :=
  h.sublist (List.filter_sublist.map identity)

/-- Lists without two endpoints of one identity have no endpoint twice. -/
theorem pairwise_lt_of_sorted {as : List (DnsSdInstanceEndpoint τ)} (hsorted : as.Pairwise (· ≤ ·))
    (h : (as.map identity).Nodup) : as.Pairwise (· < ·) :=
  hsorted.imp₂ (fun _ _ hle hne => lt_of_le_of_ne hle fun heq => hne (congrArg identity heq))
    (List.pairwise_map.mp h)

/-- The successor of an endpoint that is in one list only is so too. -/
theorem mem_map_onlyIn_iff (has : (as.map identity).Nodup)
    {e : DnsSdInstanceEndpoint τ} (he : e ∈ onlyIn as bs) :
    identity e ∈ (onlyIn bs as).map identity ↔ identity e ∈ bs.map identity := by
  obtain ⟨he, hnot⟩ := mem_onlyIn.mp he
  simp only [List.mem_map, mem_onlyIn]
  refine ⟨fun ⟨b, hb, heq⟩ => ⟨b, hb.1, heq⟩, fun ⟨b, hb, heq⟩ =>
    ⟨b, ⟨hb, fun hba => hnot ?_⟩, heq⟩⟩
  exact List.inj_on_of_nodup_map has hba he heq ▸ hb

/-- What has no successor in one list is in the other only. -/
theorem filter_onlyIn (has : (as.map identity).Nodup) :
    (onlyIn as bs).filter (identity · ∉ (onlyIn bs as).map identity) =
      as.filter (identity · ∉ bs.map identity) := by
  rw [show onlyIn as bs = as.filter (· ∉ bs) from rfl, List.filter_filter]
  refine List.filter_congr fun e he => ?_
  rw [Bool.eq_iff_iff, Bool.and_eq_true, decide_eq_true_eq, decide_eq_true_eq, decide_eq_true_eq]
  constructor
  · rintro ⟨hnot, hbs⟩
    rwa [mem_map_onlyIn_iff has (mem_onlyIn.mpr ⟨he, hbs⟩)] at hnot
  · intro hnot
    have hbs : e ∉ bs := fun hmem => hnot (List.mem_map_of_mem hmem)
    exact ⟨by rwa [mem_map_onlyIn_iff has (mem_onlyIn.mpr ⟨he, hbs⟩)], hbs⟩

theorem filter_onlyIn_updated (hnew : (new.map identity).Nodup) :
    (onlyIn new old).filter (identity · ∈ (onlyIn old new).map identity) =
      new.filter fun e => identity e ∈ old.map identity ∧ e ∉ old := by
  rw [show onlyIn new old = new.filter (· ∉ old) from rfl, List.filter_filter]
  refine List.filter_congr fun e he => ?_
  rw [Bool.eq_iff_iff, Bool.and_eq_true, decide_eq_true_eq, decide_eq_true_eq, decide_eq_true_eq]
  refine and_congr_left fun hold => ?_
  exact mem_map_onlyIn_iff hnew (mem_onlyIn.mpr ⟨he, hold⟩)

/-! ### The sets -/

/-- The sets with the differences of the lists as they are. -/
theorem calculateChangeSets_eq (hold : old.Pairwise (· < ·)) (hnew : new.Pairwise (· < ·)) :
    calculateChangeSets old new =
      let updated := setIntersection (keysDiffer identity) (onlyIn new old) (onlyIn old new)
      { created := setDifference (keysDiffer identity) (onlyIn new old) updated
        updated := updated
        deleted := setDifference (keysDiffer identity) (onlyIn old new) updated } := by
  simp only [calculateChangeSets, isNotEqualOrUpdate_eq_keysDiffer,
    setDifference_lt_eq_filter hold hnew, setDifference_lt_eq_filter hnew hold]
  rfl

/-- **`CalculateChangeSets` partitions the changes** exactly if the changed endpoints come first. -/
theorem isPartition_iff (holdSorted : old.Pairwise (· ≤ ·)) (hnewSorted : new.Pairwise (· ≤ ·))
    (hold : (old.map identity).Nodup) (hnew : (new.map identity).Nodup) :
    IsPartition old new (calculateChangeSets old new) ↔ ChangedComeFirst old new := by
  rw [calculateChangeSets_eq (pairwise_lt_of_sorted holdSorted hold)
    (pairwise_lt_of_sorted hnewSorted hnew)]
  have hiff := setIntersection_eq_filter_iff (nodup_onlyIn hnew old) (nodup_onlyIn hold new)
  rw [ChangedComeFirst, changedIdentities, ← hiff]
  refine ⟨fun h => h.updated.trans (filter_onlyIn_updated hnew).symm, fun hupdated => ?_⟩
  -- the other two sets are right if the updated one is
  have hmem : ∀ k, k ∈ (setIntersection (keysDiffer identity) (onlyIn new old)
      (onlyIn old new)).map identity ↔
        k ∈ (onlyIn new old).map identity ∧ k ∈ (onlyIn old new).map identity := by
    intro k
    rw [hupdated]
    simp only [List.mem_map, List.mem_filter, decide_eq_true_eq]
    refine ⟨?_, ?_⟩
    · rintro ⟨e, ⟨he, hk⟩, rfl⟩
      exact ⟨⟨e, he, rfl⟩, hk⟩
    · rintro ⟨⟨e, he, rfl⟩, hk⟩
      exact ⟨e, ⟨he, hk⟩, rfl⟩
  have hcreated : setDifference (keysDiffer identity) (onlyIn new old)
      (setIntersection (keysDiffer identity) (onlyIn new old) (onlyIn old new)) = _ :=
    setDifference_eq_filter (setIntersection_sublist.map identity) (nodup_onlyIn hnew old)
  have hdeleted : setDifference (keysDiffer identity) (onlyIn old new)
      (setIntersection (keysDiffer identity) (onlyIn new old) (onlyIn old new)) = _ :=
    setDifference_eq_filter map_setIntersection_isPrefix.sublist (nodup_onlyIn hold new)
  refine ⟨?_, hupdated.trans (filter_onlyIn_updated hnew), ?_⟩
  · rw [← filter_onlyIn hnew]
    refine hcreated.trans (List.filter_congr fun e he => ?_)
    rw [decide_eq_decide, hmem, not_iff_not]
    exact and_iff_right (List.mem_map_of_mem he)
  · rw [← filter_onlyIn hold]
    refine hdeleted.trans (List.filter_congr fun e he => ?_)
    rw [decide_eq_decide, hmem, not_iff_not]
    exact and_iff_left (List.mem_map_of_mem he)

/-! Two instances of a service, of which one is changed and the other is gone. -/

/-- An endpoint of this instance, on this port. -/
def portEndpoint (instanceId : UInt8) (port : UInt16) : DnsSdInstanceEndpoint Unit where
  instanceId := [instanceId]
  serviceId := [95, 116]
  domainId := [108]
  txt := ()
  port := port
  networkInterface := 0
  endpoints := [⟨.v4 ⟨[10, 0, 0, 1], rfl⟩, port⟩]

/-- The changed instance came before the one that is gone. -/
theorem isPartition_changedFirst :
    IsPartition [portEndpoint 97 1, portEndpoint 98 2] [portEndpoint 97 3]
      (calculateChangeSets [portEndpoint 97 1, portEndpoint 98 2] [portEndpoint 97 3]) :=
  (isPartition_iff (by decide) (by decide) (by decide) (by decide)).mpr (by decide)

/-- It came after it, and is reported as deleted and created. -/
theorem not_isPartition_goneFirst :
    [portEndpoint 97 1, portEndpoint 98 2].Pairwise (· ≤ ·) ∧
    ([portEndpoint 97 1, portEndpoint 98 2].map identity).Nodup ∧
    (calculateChangeSets [portEndpoint 97 1, portEndpoint 98 2] [portEndpoint 98 3]).updated = [] ∧
    ¬IsPartition [portEndpoint 97 1, portEndpoint 98 2] [portEndpoint 98 3]
      (calculateChangeSets [portEndpoint 97 1, portEndpoint 98 2] [portEndpoint 98 3]) := by
  decide +kernel

end StreamerPlus.Discovery
