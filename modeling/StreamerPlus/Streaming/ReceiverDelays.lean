import StreamerPlus.Streaming.ReceiverHistory

/-!
# Resolving the playout delay

`ResolveTargetPlayoutDelay` reads the delay of a frame from a pruned list of changes. It is the
delay that the whole history has for the frame, whatever the order in which the changes arrived.

A build with `OSP_DCHECK_IS_ON()` also checks that all capture times are known that matter. The
frames that it looks at reach back 120 frames behind the last consumed one, where slots already
belong to newer frames, so that the check fails when nothing but a later packet of one of those
has been received.

Main results:

* `Receiver.delay_of_run`: the delay is the one of the history;
* `Receiver.allKnown_iff_of_run`: when the check passes.
-/

namespace StreamerPlus

open Checked TransitionSystem

/-- What `ResolveTargetPlayoutDelay` did, if the event is one of it. -/
def ReceiverEvent.resolved? : ReceiverEvent → Option ResolvedDelay
  | .resolved r => some r
  | _ => none

/-- The change for the greatest frame, among `best` and the changes of a list. -/
def greatestChange (best : ℤ × ℤ) (changes : List (ℤ × ℤ)) : ℤ × ℤ :=
  changes.foldl (fun best change => if best.1 < change.1 then change else best) best

/-- The playout delay of a frame: that of the greatest frame up to it whose first packet carried
one, and the initial delay if there is none. -/
def playoutDelayOf (c : ReceiverConfig) (events : List ReceiverEvent) (frameId : ℤ) : ℤ :=
  (greatestChange (FrameId.leader, c.targetPlayoutDelay)
    ((delaysOf events).filter (·.1 ≤ frameId))).2

theorem greatestChange_spec (best : ℤ × ℤ) (changes : List (ℤ × ℤ)) :
    greatestChange best changes ∈ best :: changes ∧
      ∀ e ∈ best :: changes, e.1 ≤ (greatestChange best changes).1 := by
  induction changes generalizing best with
  | nil => simp [greatestChange]
  | cons change changes ih =>
    obtain ⟨hmem, hgreatest⟩ := ih (if best.1 < change.1 then change else best)
    unfold greatestChange at hmem hgreatest ⊢
    rw [List.foldl_cons]
    have hbest := hgreatest _ List.mem_cons_self
    refine ⟨?_, fun e he => ?_⟩
    · rcases List.mem_cons.mp hmem with heq | hmem
      · rw [heq]
        split_ifs <;> simp
      · exact List.mem_cons_of_mem _ (List.mem_cons_of_mem _ hmem)
    · rcases List.mem_cons.mp he with rfl | he
      · refine le_trans ?_ hbest
        split_ifs with hlt
        · exact hlt.le
        · exact le_rfl
      · rcases List.mem_cons.mp he with rfl | he
        · refine le_trans ?_ hbest
          split_ifs with hlt
          · exact le_rfl
          · exact not_lt.mp hlt
        · exact hgreatest e (List.mem_cons_of_mem _ he)

namespace ReceiverView

variable {c : ReceiverConfig} {v : ReceiverView} {f g : ℤ}

/-- A delay is resolved for a frame between the last consumed one and the latest one. -/
theorem Resolvable.mem (h : v.Resolvable f) (hring : v.Ring v.checkpointFrame) :
    v.lastFrameConsumed ≤ f ∧ f ≤ v.latestFrameExpected := by
  have hconsumed := hring.consumed_le
  have hcheckpoint := hring.checkpoint_le
  rcases h with rfl | ⟨hlt, hle | ⟨hle, -⟩⟩
  · exact ⟨hconsumed, hcheckpoint⟩
  · exact ⟨hlt.le, hle.trans hcheckpoint⟩
  · exact ⟨hlt.le, hle⟩

/-! ### The delay -/

/-- There is one change for each frame at most. -/
theorem Invariant.delayChanges_unique (h : v.Invariant c) {e e' : ℤ × ℤ}
    (he : e ∈ delayChanges c v.events) (he' : e' ∈ delayChanges c v.events) (heq : e.1 = e'.1) :
    e.2 = e'.2 := by
  have hleader : ∀ e ∈ delaysOf v.events, e.1 ≠ FrameId.leader := by
    intro e he heq
    obtain ⟨-, t, ht⟩ := mem_delaysOf.mp he
    have hnonneg := (h.captures.known e.1 e.2 t ht).1
    rw [heq] at hnonneg
    exact absurd hnonneg (by decide)
  rcases Set.mem_insert_iff.mp he with rfl | he
  · rcases Set.mem_insert_iff.mp he' with rfl | he'
    · rfl
    · exact absurd heq.symm (hleader e' he')
  · rcases Set.mem_insert_iff.mp he' with rfl | he'
    · exact absurd heq (hleader e he)
    · obtain ⟨-, t, ht⟩ := mem_delaysOf.mp he
      obtain ⟨-, t', ht'⟩ := mem_delaysOf.mp he'
      rw [heq] at ht
      exact (h.captures.unique e'.1 e.2 t e'.2 t' ht ht').1

/-- **The pruned list gives the delay of the history.** -/
theorem Invariant.delay_eq (h : v.Invariant c) (hf : v.Resolvable f) {key delay : ℤ}
    (hforce : ChangeLog.inForce v.playoutDelayChanges f = some (key, delay)) :
    delay = playoutDelayOf c v.events f := by
  obtain ⟨hmem, hle, hgreatest⟩ :=
    (ChangeLog.Records.inForce_eq_some_iff h.delays (hf.mem h.ring).1).mp hforce
  unfold playoutDelayOf
  obtain ⟨hmem', hgreatest'⟩ := greatestChange_spec (FrameId.leader, c.targetPlayoutDelay)
    ((delaysOf v.events).filter (·.1 ≤ f))
  generalize greatestChange (FrameId.leader, c.targetPlayoutDelay)
    ((delaysOf v.events).filter (·.1 ≤ f)) = e at hmem' hgreatest'
  -- both are changes up to the frame, and both are the greatest
  have hall : ∀ e, e ∈ (FrameId.leader, c.targetPlayoutDelay) ::
      (delaysOf v.events).filter (·.1 ≤ f) → e ∈ delayChanges c v.events ∧ e.1 ≤ f := by
    intro e he
    rcases List.mem_cons.mp he with rfl | he
    · exact ⟨Set.mem_insert _ _, h.ring.leader_le.trans (hf.mem h.ring).1⟩
    · obtain ⟨he, hle⟩ := List.mem_filter.mp he
      exact ⟨Set.mem_insert_of_mem _ he, of_decide_eq_true hle⟩
  have hkey : (key, delay) ∈ (FrameId.leader, c.targetPlayoutDelay) ::
      (delaysOf v.events).filter (·.1 ≤ f) := by
    rcases Set.mem_insert_iff.mp hmem with heq | hmem
    · rw [heq]
      exact List.mem_cons_self
    · exact List.mem_cons_of_mem _ (List.mem_filter.mpr ⟨hmem, decide_eq_true hle⟩)
  have heq : e.1 = key :=
    le_antisymm (hgreatest e (hall e hmem').1 (hall e hmem').2) (hgreatest' _ hkey)
  exact h.delayChanges_unique (hall _ hkey).1 (hall e hmem').1 heq.symm

/-! ### The check -/

theorem firstPossible_nonneg (lastFrameConsumed : ℤ) :
    0 ≤ FrameQueue.firstPossible lastFrameConsumed := by
  unfold FrameQueue.firstPossible
  simp only [FrameId.first, kMaxUnackedFrames]
  split_ifs <;> omega

/-- The capture times of all frames that still own their slots are known, up to the frame that a
delay is resolved for. -/
theorem Invariant.isCaptured_of_resolvable (h : v.Invariant c) (hf : v.Resolvable f) (hg : 0 ≤ g)
    (hlt : v.latestFrameExpected - 120 < g) (hgf : g ≤ f) : v.isCaptured g := by
  have hcheckpoint := h.ring.checkpoint_le
  have hle := (hf.mem h.ring).2
  by_cases hconsumed : g ≤ v.lastFrameConsumed
  · exact (h.captures.isCaptured_iff hg hlt (by omega)).mpr (h.captures.consumed g hg hconsumed)
  have hacked : g ≤ v.checkpointFrame → v.isCaptured g := fun hacked =>
    h.captures.isCaptured_of_isComplete h.packets (by omega) (by omega)
      (h.ring.complete g (by omega) hacked)
  rcases hf with rfl | ⟨-, hle' | ⟨-, hall⟩⟩
  · exact hacked hgf
  · exact hacked (hgf.trans hle')
  · exact hall g (by omega) hgf

/-- **The check fails for newer frames only**: those that already own a slot of a frame that it
looks at, and whose packet 0 has not been received. -/
theorem Invariant.all_isCaptured_iff (h : v.Invariant c) (hf : v.Resolvable f) :
    (Int.range (FrameQueue.firstPossible v.lastFrameConsumed) (f + 1)).all v.isCaptured ↔
      ∀ g, f < g → g ≤ v.latestFrameExpected →
        FrameQueue.firstPossible v.lastFrameConsumed ≤ g - 120 →
        ∃ d t, .firstPacket g d t ∈ v.events := by
  have hleader := h.ring.leader_le
  have hlatest := h.ring.latest_le
  obtain ⟨hconsumed, hle⟩ := hf.mem h.ring
  have hnonneg := firstPossible_nonneg v.lastFrameConsumed
  have hback : v.lastFrameConsumed ≤ FrameQueue.firstPossible v.lastFrameConsumed + 120 := by
    unfold FrameQueue.firstPossible
    simp only [FrameId.first, kMaxUnackedFrames]
    split_ifs <;> omega
  generalize FrameQueue.firstPossible v.lastFrameConsumed = first at hnonneg hback ⊢
  have hslot : ∀ g, 0 ≤ g → v.isCaptured (g + 120) = v.isCaptured g := fun g hg => by
    simp only [FrameQueue.isCaptured, FrameQueue.getQueueEntry, slotIndex_add hg]
  simp only [List.all_eq_true, Int.mem_range_iff, and_imp]
  constructor
  · intro hall g hfg hgl hfirst
    have hcaptured := hall (g - 120) hfirst (by omega)
    rw [← hslot (g - 120) (by omega), sub_add_cancel] at hcaptured
    exact (h.captures.isCaptured_iff (by omega) (by omega) hgl).mp hcaptured
  · intro hnewer g hfirst hgf
    have hcaptured : ∀ g', first ≤ g' - 120 → g' ≤ v.latestFrameExpected →
        v.latestFrameExpected - 120 < g' → v.isCaptured g' := by
      intro g' hfirst' hgl hlt
      by_cases hgf' : g' ≤ f
      · exact h.isCaptured_of_resolvable hf (by omega) hlt hgf'
      · exact (h.captures.isCaptured_iff (by omega) hlt hgl).mpr
          (hnewer g' (by omega) hgl hfirst')
    by_cases hlt : v.latestFrameExpected - 120 < g
    · exact h.isCaptured_of_resolvable hf (by omega) hlt (by omega)
    · -- the slot belongs to the frame 120 ids later, or twice that
      rw [← hslot g (by omega)]
      by_cases hlt' : v.latestFrameExpected - 120 < g + 120
      · exact hcaptured (g + 120) (by omega) (by omega) hlt'
      · rw [← hslot (g + 120) (by omega)]
        exact hcaptured (g + 120 + 120) (by omega) (by omega) (by omega)

end ReceiverView

namespace Receiver

open ReceiverView

variable {c : ReceiverConfig} {s : Receiver} {as : List (ℤ × ReceiverOp × ReceiverOutput)}

/-- **Delays do not depend on pruning or on the order of arrival.** -/
theorem delay_of_run (h : Run (Step c) (new c) as s) :
    ∀ pre r post, s.events = pre ++ .resolved r :: post →
      r.delay = playoutDelayOf c pre r.frameId := by
  intro pre r post heq
  refine emitted_of_run (Q := fun pre => r.delay = playoutDelayOf c pre r.frameId) rfl
    (fun v hv he => ?_) h heq
  cases he with
  | resolved hs hforce => exact hv.delay_eq hs hforce

/-- A packet with one byte of a key frame and a change of the playout delay arrives. -/
def exampleDelayPacket (time : ℤ) (frameId milliseconds : UInt8) : ℤ × ReceiverOp :=
  (time, .onReceivedRtpPacket time [0x80, 100, 0, frameId, 0, 0, 0, frameId, 0, 0, 0, 1, 0x81,
    frameId, 0, 0, 0, 0, 0x04, 0x02, 0, milliseconds, 0xaa])

theorem outcome_exampleDelays :
    Outcome (fun r => .resolved ⟨-1, 1, 0, 50, true⟩ ∈ r.2.events) (fun _ => False)
      (runOps (exampleConfig false) (new (exampleConfig false))
        [exampleReport 1000, exampleDelayPacket 2000 1 90, exampleDelayPacket 2000 0 50,
          (3000, .consumeNextFrame 1)]) := by
  decide +kernel

/-- Frame 1 changes the delay to 90 ms before frame 0 changes it to 50 ms, and frame 0 is consumed
with 50 ms. -/
theorem delay_outOfOrder :
    ∃ s as pre r post, Run (Step (exampleConfig false)) (new (exampleConfig false)) as s ∧
      s.events = pre ++ .resolved r :: post ∧ r.frameId = 0 ∧ r.delay = 50 ∧
      playoutDelayOf (exampleConfig false) pre 0 = 50 := by
  obtain ⟨⟨as, s⟩, hrun, hmem⟩ := outcome_exampleDelays.exists_ok
  obtain ⟨pre, post, heq⟩ := List.append_of_mem hmem
  exact ⟨s, as, pre, _, post, run_of_runOps hrun, heq, rfl, rfl,
    (delay_of_run (run_of_runOps hrun) pre _ post heq).symm⟩

/-- **The check passes** exactly if packet 0 has been received of each newer frame that already
owns the slot of a frame that is looked at. -/
theorem allKnown_iff_of_run (h : Run (Step c) (new c) as s) :
    ∀ pre r post, s.events = pre ++ .resolved r :: post →
      (r.allKnown = true ↔ ∀ g, r.frameId < g → g ≤ r.latestFrameExpected →
        FrameQueue.firstPossible r.lastFrameConsumed ≤ g - 120 →
        ∃ d t, .firstPacket g d t ∈ pre) := by
  intro pre r post heq
  refine emitted_of_run (Q := fun pre => r.allKnown = true ↔ ∀ g, r.frameId < g →
    g ≤ r.latestFrameExpected → FrameQueue.firstPossible r.lastFrameConsumed ≤ g - 120 →
    ∃ d t, .firstPacket g d t ∈ pre) rfl (fun v hv he => ?_) h heq
  cases he with
  | resolved hs hforce => exact hv.all_isCaptured_iff hs

/-- Frame 0 is consumed; then a packet of frame 120 arrives, and then frame 1. -/
def exampleReuse (packetId : UInt8) : List (ℤ × ReceiverOp) :=
  [exampleReport 1000, examplePacket 2000 0 0 0, (2000, .consumeNextFrame 1),
    examplePacket 3000 120 packetId 1, examplePacket 4000 1 0 0]

theorem outcome_exampleReuse (first : Bool) :
    Outcome (fun r => (r.2.events.filterMap ReceiverEvent.resolved?).map (fun r =>
        (r.frameId, r.allKnown)) = [(0, true), (0, true), (1, first)] ∧
        .resolved ⟨0, 120, 1, 400, first⟩ ∈ r.2.events) (fun _ => False)
      (runOps (exampleConfig false) (new (exampleConfig false))
        (exampleReuse (if first then 0 else 1))) := by
  revert first
  decide +kernel

theorem exists_exampleReuse (first : Bool) :
    ∃ s as, Run (Step (exampleConfig false)) (new (exampleConfig false)) as s ∧
      (s.events.filterMap ReceiverEvent.resolved?).map (fun r => (r.frameId, r.allKnown)) =
        [(0, true), (0, true), (1, first)] ∧
      .resolved ⟨0, 120, 1, 400, first⟩ ∈ s.events := by
  obtain ⟨⟨as, s⟩, hrun, heq, hmem⟩ := (outcome_exampleReuse first).exists_ok
  exact ⟨s, as, run_of_runOps hrun, heq, hmem⟩

/-- Packet 1 of frame 120 takes the slot of frame 0, and the check for frame 1 fails there. -/
theorem allKnown_reusedSlot :
    ∃ s as, Run (Step (exampleConfig false)) (new (exampleConfig false)) as s ∧
      (s.events.filterMap ReceiverEvent.resolved?).map (fun r => (r.frameId, r.allKnown)) =
        [(0, true), (0, true), (1, false)] := by
  obtain ⟨s, as, hrun, heq, -⟩ := exists_exampleReuse false
  exact ⟨s, as, hrun, heq⟩

/-- It passes if packet 0 of frame 120 arrives first, and that packet is in the history. -/
theorem allKnown_firstPacket :
    ∃ s as pre r post, Run (Step (exampleConfig false)) (new (exampleConfig false)) as s ∧
      s.events = pre ++ .resolved r :: post ∧ r.frameId = 1 ∧ r.latestFrameExpected = 120 ∧
      r.allKnown = true ∧ ∃ d t, .firstPacket 120 d t ∈ pre := by
  obtain ⟨s, as, hrun, -, hmem⟩ := exists_exampleReuse true
  obtain ⟨pre, post, heq⟩ := List.append_of_mem hmem
  exact ⟨s, as, pre, _, post, hrun, heq, rfl, rfl, rfl,
    (allKnown_iff_of_run hrun pre _ post heq).mp rfl 120 (by decide) (by decide) (by decide)⟩

end Receiver

end StreamerPlus
