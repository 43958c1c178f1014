import StreamerPlus.Streaming.ReceiverHistory

/-!
# The frames that a receiver hands out

`ConsumeNextFrame` returns the frame after the last one that was consumed or skipped. A frame is
skipped by `AdvanceToNextFrame` only when the playout of it, and of all frames before it that were
not consumed, was due, and only for a frame that does not depend on others. The history says when:
a capture time is known from packet 0 on, and the delay of the frame is resolved before it is passed
over.

## Main results

* `HandedOut.step`: what every change keeps of the frames that were handed out or passed over.
* `inOrder_of_run`: the frames of a run are handed out in order, those between them were late, and a
  frame that depends on another follows the one before it.
-/

namespace StreamerPlus

open Checked TransitionSystem

/-- The frame of a call of `ConsumeNextFrame`, if the event is one of it. -/
def ReceiverEvent.consumed? : ReceiverEvent → Option (ℤ × Dependency)
  | .consumed frameId dependency => some (frameId, dependency)
  | _ => none

/-- The frames that were handed out. -/
def consumedOf (events : List ReceiverEvent) : List (ℤ × Dependency) :=
  events.filterMap (·.consumed?)

@[simp]
theorem consumedOf_append (events new : List ReceiverEvent) :
    consumedOf (events ++ new) = consumedOf events ++ consumedOf new :=
  List.filterMap_append

/-- The playout of a frame was due at the time `now`: its capture time was known, and its delay
resolved. -/
def WasDue (pre : List ReceiverEvent) (g captureTime delay playerProcessingTime now : ℤ) : Prop :=
  captureTime + toDuration delay - playerProcessingTime ≤ now ∧
    (∃ d, .firstPacket g d captureTime ∈ pre) ∧
    ∃ r, .resolved r ∈ pre ∧ r.frameId = g ∧ r.delay = delay

/-- The frame was passed over when its playout was due. -/
def IsLate (events : List ReceiverEvent) (g : ℤ) : Prop :=
  ∃ pre post captureTime delay playerProcessingTime now,
    events = pre ++ .passedOver g captureTime delay playerProcessingTime now :: post ∧
    WasDue pre g captureTime delay playerProcessingTime now

theorem IsLate.append {events : List ReceiverEvent} {g : ℤ} (h : IsLate events g)
    (new : List ReceiverEvent) : IsLate (events ++ new) g := by
  obtain ⟨pre, post, captureTime, delay, playerProcessingTime, now, rfl, hdue⟩ := h
  exact ⟨pre, post ++ new, captureTime, delay, playerProcessingTime, now, by simp, hdue⟩

/-- What a frame that is passed over follows. -/
def Due (pre : List ReceiverEvent) : ReceiverEvent → Prop
  | .passedOver g captureTime delay playerProcessingTime now =>
    WasDue pre g captureTime delay playerProcessingTime now
  | _ => True

/-- What a frame that is handed out follows. -/
def InOrder (pre : List ReceiverEvent) : ReceiverEvent → Prop
  | .consumed f dependency =>
    (∀ g ∈ consumedOf pre, g.1 < f) ∧
      (f = FrameId.first ∨ dependency ≠ .dependent ∨
        ∃ d, (consumedOf pre).getLast? = some (f - 1, d)) ∧
      ∀ g, 0 ≤ g → g < f → (∃ d, (g, d) ∈ consumedOf pre) ∨ IsLate pre g
  | _ => True

namespace ReceiverView

variable {c : ReceiverConfig} {v w : ReceiverView}

/-- The frames up to the last one consumed were handed out, or passed over when they were due. The
next one is the first frame, follows one that was handed out, or does not depend on another. -/
structure HandedOut (v : ReceiverView) : Prop where
  due : Explained Due v.events
  le : ∀ f ∈ consumedOf v.events, f.1 ≤ v.lastFrameConsumed
  accounted : ∀ g, 0 ≤ g → g ≤ v.lastFrameConsumed →
    (∃ d, (g, d) ∈ consumedOf v.events) ∨ IsLate v.events g
  next : v.lastFrameConsumed = FrameId.leader ∨
    (∃ d, (consumedOf v.events).getLast? = some (v.lastFrameConsumed, d)) ∨
    v.lastFrameConsumed + 1 ≤ v.checkpointFrame ∧
      (v.getQueueEntry (v.lastFrameConsumed + 1)).collector.frame.dependency ≠ .dependent

/-- A frame that is passed over is one of the queue, so that its capture time is that of its
packet 0. -/
theorem due_of_emits (hv : v.Invariant c) {e : ReceiverEvent} (he : Emits c v e) :
    Due v.events e := by
  cases he with
  | passedOver hlt hle hcapture hresolved hdue =>
    have hleader := hv.ring.leader_le
    have hlatest := hv.ring.latest_le
    exact ⟨hdue, (hv.captures.captured _ _ (by omega) (by omega) hle).mp hcapture, hresolved⟩
  | _ => trivial

theorem due_step (hdue : Explained Due v.events) (hv : v.Invariant c) (hvw : Changes c v w) :
    Explained Due w.events := by
  refine hvw.explained (fun pre e harrival => ?_) (fun e => due_of_emits hv) hdue
  cases e with
  | passedOver => cases harrival
  | _ => trivial

namespace HandedOut

/-- A change that hands out nothing and skips nothing. -/
theorem extend (h : v.HandedOut) (new : List ReceiverEvent) (hdue : Explained Due w.events)
    (hevents : w.events = v.events ++ new) (hlast : w.lastFrameConsumed = v.lastFrameConsumed)
    (hcheckpoint : v.checkpointFrame ≤ w.checkpointFrame)
    (hentry : v.lastFrameConsumed + 1 ≤ v.checkpointFrame →
      w.getQueueEntry (v.lastFrameConsumed + 1) = v.getQueueEntry (v.lastFrameConsumed + 1))
    (hconsumed : consumedOf new = []) : w.HandedOut := by
  have hsame : consumedOf w.events = consumedOf v.events := by
    rw [hevents, consumedOf_append, hconsumed, List.append_nil]
  refine ⟨hdue, ?_, fun g hg hle => ?_, ?_⟩
  · rw [hsame, hlast]
    exact h.le
  · rw [hlast] at hle
    rw [hsame, hevents]
    exact (h.accounted g hg hle).imp_right fun hlate => hlate.append new
  · rw [hsame, hlast]
    refine h.next.imp_right (Or.imp_right fun hnext => ⟨hnext.1.trans hcheckpoint, ?_⟩)
    rw [hentry hnext.1]
    exact hnext.2

/-- The entry of a frame after the checkpoint changes: it is not the next one to be handed out. -/
theorem setQueueEntry (h : v.HandedOut) (hv : v.Invariant c) {f : ℤ} {entry : PendingFrame}
    (new : List ReceiverEvent) (hdue : Explained Due w.events) (hf : v.checkpointFrame < f)
    (hf' : f ≤ v.lastFrameConsumed + 120) (hevents : w.events = v.events ++ new)
    (hlast : w.lastFrameConsumed = v.lastFrameConsumed)
    (hcheckpoint : w.checkpointFrame = v.checkpointFrame)
    (hentries : w.pendingFrames = (v.setQueueEntry f entry).pendingFrames)
    (hconsumed : consumedOf new = []) : w.HandedOut := by
  have hle := hv.ring.consumed_le
  refine h.extend new hdue hevents hlast hcheckpoint.ge (fun hnext => ?_) hconsumed
  rw [FrameQueue.getQueueEntry, hentries]
  exact hv.ring.getQueueEntry_setQueueEntry (by omega) hf' (by omega) (by omega) (by omega)

/-- The next frame is handed out. -/
theorem consume (h : v.HandedOut) {dependency : Dependency} (hdue : Explained Due w.events)
    (hevents : w.events = v.events ++ [.consumed (v.lastFrameConsumed + 1) dependency])
    (hlast : w.lastFrameConsumed = v.lastFrameConsumed + 1) : w.HandedOut := by
  have hnew : consumedOf w.events =
      consumedOf v.events ++ [(v.lastFrameConsumed + 1, dependency)] := by
    rw [hevents, consumedOf_append]
    rfl
  refine ⟨hdue, fun f hf => ?_, fun g hg hle => ?_, .inr (.inl ?_)⟩
  · rw [hnew, List.mem_append] at hf
    rcases hf with hf | hf
    · have hle := h.le f hf
      omega
    · cases List.mem_singleton.mp hf
      exact hlast.ge
  · rw [hnew, hevents]
    by_cases hg' : g = v.lastFrameConsumed + 1
    · exact .inl ⟨_, List.mem_append_right _ (List.mem_singleton.mpr (by rw [hg']))⟩
    · refine (h.accounted g hg (by omega)).imp ?_ fun hlate => hlate.append _
      rintro ⟨d, hd⟩
      exact ⟨d, List.mem_append_left _ hd⟩
  · rw [hnew, hlast]
    exact ⟨_, List.getLast?_concat⟩

/-- The frames before `f` are skipped: they were passed over. -/
theorem skip (h : v.HandedOut) {f : ℤ} (hdue : Explained Due w.events)
    (hevents : w.events = v.events ++ [.skippedTo f]) (hlast : w.lastFrameConsumed = f - 1)
    (hdrop : v.lastFrameConsumed + 1 < f) (hcheckpoint : f ≤ w.checkpointFrame)
    (hpassed : ∀ g, v.lastFrameConsumed < g → g < f → v.PassedOver g)
    (hdependency : (w.getQueueEntry f).collector.frame.dependency ≠ .dependent) :
    w.HandedOut := by
  have hsame : consumedOf w.events = consumedOf v.events := by
    rw [hevents, consumedOf_append]
    exact List.append_nil _
  refine ⟨hdue, fun g hg => ?_, fun g hg hlt => ?_, .inr (.inr ?_)⟩
  · have hold := h.le g (hsame ▸ hg)
    omega
  · rw [hsame, hevents]
    by_cases hold : g ≤ v.lastFrameConsumed
    · exact (h.accounted g hg hold).imp_right fun hlate => hlate.append _
    · obtain ⟨t, d, p, n, -, hmem⟩ := hpassed g (by omega) (by omega)
      obtain ⟨pre, post, heq⟩ := List.append_of_mem hmem
      exact .inr (IsLate.append ⟨pre, post, t, d, p, n, heq, h.due pre _ post heq⟩ _)
  · rw [hlast, sub_add_cancel]
    exact ⟨hcheckpoint, hdependency⟩

/-- **Every change keeps what was handed out in order.** -/
theorem step (h : v.HandedOut) (hv : v.Invariant c) (hvw : Changes c v w) : w.HandedOut := by
  have hdue := due_step h.due hv hvw
  have hlatest := hv.ring.latest_le
  cases hvw with
  | report => exact h.extend [] hdue (by simp) rfl le_rfl (fun _ => rfl) rfl
  | expect hlt =>
    have hle := hv.ring.checkpoint_le
    exact h.setQueueEntry hv [] hdue (by omega) (by simp only [kMaxUnackedFrames] at hlt; omega)
      (by simp [expectNextFrame, ReceiverView.setQueueEntry]) rfl rfl rfl rfl
  | reject hs =>
    exact h.setQueueEntry hv [] hdue hs.checkpoint_lt (hs.le_latest.trans hlatest)
      (by simp [ReceiverView.setQueueEntry]) rfl rfl rfl rfl
  | collect hs =>
    exact h.setQueueEntry hv [_] hdue hs.checkpoint_lt (hs.le_latest.trans hlatest) rfl rfl rfl rfl
      rfl
  | collectFirst captureTime hs =>
    exact h.setQueueEntry hv [_, _] hdue hs.checkpoint_lt (hs.le_latest.trans hlatest) rfl rfl rfl
      rfl rfl
  | collectUntimed hs =>
    exact h.setQueueEntry hv [_] hdue hs.checkpoint_lt (hs.le_latest.trans hlatest) rfl rfl rfl rfl
      rfl
  | moveCheckpoint hlt => exact h.extend [] hdue (by simp) rfl hlt.le (fun _ => rfl) rfl
  | consume => exact h.consume hdue rfl rfl
  | skip hdrop hacked hge hle hpassed hall hdependency hcomplete hresets =>
    refine h.skip hdue rfl rfl hdrop hge (fun g hg hg' => (hpassed g hg hg').2) ?_
    dsimp only [FrameQueue.getQueueEntry]
    rw [hv.ring.getQueueEntry_resets hresets le_rfl (by omega) (by omega)]
    exact hdependency
  | _ => exact h.extend [_] hdue rfl rfl le_rfl (fun _ => rfl) rfl

/-- The next frame is in order when it is handed out. -/
theorem inOrder (h : v.HandedOut) {e : ReceiverEvent} (he : Emits c v e) : InOrder v.events e := by
  cases he with
  | consumed hacked =>
    refine ⟨fun g hg => ?_, ?_, fun g hg hlt => h.accounted g hg (by omega)⟩
    · have hle := h.le g hg
      omega
    · rcases h.next with hleader | hlast | ⟨-, hdependency⟩
      · exact .inl (by rw [hleader]; rfl)
      · exact .inr (.inr (by rw [add_sub_cancel_right]; exact hlast))
      · exact .inr (.inl hdependency)
  | _ => trivial

end HandedOut

end ReceiverView

/-! ### Runs -/

namespace Receiver

open ReceiverView

variable {c : ReceiverConfig} {s t : Receiver} {as : List (ℤ × ReceiverOp × ReceiverOutput)}

theorem handedOut_new (c : ReceiverConfig) : (new c).view.HandedOut where
  due := explained_nil
  le f hf := absurd hf List.not_mem_nil
  accounted g hg hle := absurd (hg.trans hle) (show ¬(0 : ℤ) ≤ -1 by decide)
  next := .inl rfl

/-- **The frames of a run are handed out in order.** What is handed out is a frame that the history
names; its id is greater than the ids before it; the ids between were passed over when their playout
was due; and it is the first frame, follows the one before it, or does not depend on another. -/
theorem inOrder_of_run (h : Run (Step c) (new c) as s) :
    Explained InOrder s.events ∧
      ∀ now bufferSize frame t,
        Step c s (now, .consumeNextFrame bufferSize, .consumedFrame frame) t →
        ∃ pre f, t.events = pre ++ [.consumed f frame.dependency] ∧ frame.frameId = some f := by
  constructor
  · refine (reaches_of_run h).explained (I := fun v => v.Invariant c ∧ v.HandedOut)
      (fun v w hv hchange => ⟨hv.1.step hchange, hv.2.step hv.1 hchange⟩) (fun pre e harrival => ?_)
      (fun v e hv he => hv.2.inOrder he) ⟨invariant_new c, handedOut_new c⟩ explained_nil
    cases e <;> trivial
  · intro now bufferSize frame t hstep
    obtain ⟨⟨frame', u⟩, hconsume, hout⟩ := bind_eq_ok.mp hstep
    cases hout
    obtain ⟨hacked, -, -, hframe, delay, u, -, rfl⟩ := consumeNextFrame_eq_ok hconsume
    have hring := (invariant_of_run h).ring
    have howned := hring.owned _ (lt_add_one s.lastFrameConsumed) (hacked.trans hring.checkpoint_le)
    exact ⟨_, _, rfl, (congrArg (·.frameId) hframe).trans howned⟩

/-- Frame 0 is consumed. Of frame 1 only the first of two packets arrives, and frame 2 arrives. Long
after, frame 1 is passed over. -/
def exampleSkip : List (ℤ × ReceiverOp) :=
  [exampleReport 1000, examplePacket 2000 0 0 0,
    (2000, .advanceToNextFrame), (2000, .consumeNextFrame 1), examplePacket 3000 1 0 1,
    examplePacket 3000 2 0 0, (9000000, .advanceToNextFrame), (9000000, .consumeNextFrame 1)]

theorem outcome_exampleSkip :
    Outcome (fun r => consumedOf r.2.events = [(0, .keyFrame), (2, .keyFrame)])
      (fun _ => False)
      (runOps (exampleConfig false) (new (exampleConfig false)) exampleSkip) := by
  decide +kernel

/-- Frame 2 is handed out after frame 0, and frame 1 was late. -/
theorem inOrder_exampleSkip :
    ∃ s as, Run (Step (exampleConfig false)) (new (exampleConfig false)) as s ∧
      Explained InOrder s.events ∧ consumedOf s.events = [(0, .keyFrame), (2, .keyFrame)] := by
  obtain ⟨⟨as, s⟩, hrun, hconsumed⟩ := outcome_exampleSkip.exists_ok
  exact ⟨s, as, run_of_runOps hrun, (inOrder_of_run (run_of_runOps hrun)).1, hconsumed⟩

end Receiver

end StreamerPlus
