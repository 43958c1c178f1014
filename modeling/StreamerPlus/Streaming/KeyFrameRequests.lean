import StreamerPlus.Streaming.SenderChanges
import StreamerPlus.Streaming.SenderWindow

/-!
# Requests for key frames

`NeedsKeyFrame()` compares two frame ids: that of the last key frame, and the checkpoint at which
the receiver last lost the picture. Read over the changes of a sender it is a request: pending
from the start, met by the next key frame, and made again by a picture loss that no key frame in
flight can answer.

Main result:

* `requestsKeyFrames_of_calls`: the requests of every run of calls, those that the observer
  answers from inside a call included, are neither lost nor repeated.
-/

namespace StreamerPlus

open Checked TransitionSystem

/-- The change enqueues a key frame. -/
def SenderChange.EnqueuesKeyFrame (a : SenderChange) : Prop :=
  ∃ frame, a = .enqueue frame ∧ frame.dependency = .keyFrame

namespace Sender

variable {c : SessionConfig} {s t u v : Sender} {a : SenderChange}

/-- The ids that the requests compare are in order. -/
structure IdsOrdered (s : Sender) : Prop where
  lost_le : s.pictureLostAtFrameId ≤ s.checkpointFrameId
  checkpoint_le : s.checkpointFrameId ≤ s.lastEnqueuedFrameId
  key_le : s.lastEnqueuedKeyFrameId ≤ s.lastEnqueuedFrameId

theorem idsOrdered_new (packetizer : RtpPacketizer) : IdsOrdered (Sender.new c packetizer) :=
  ⟨le_rfl, le_rfl, le_rfl⟩

/-! ### What one change does -/

/-- A frame that is enqueued is the next one, and counts as the last key frame if it is one. -/
theorem Changes.of_enqueue {frame : EncodedFrame} (h : Changes c s (.enqueue frame) t) :
    frame.frameId = s.lastEnqueuedFrameId + 1 ∧ t.lastEnqueuedFrameId = frame.frameId ∧
      t.checkpointFrameId = s.checkpointFrameId ∧
      t.pictureLostAtFrameId = s.pictureLostAtFrameId ∧
      t.lastEnqueuedKeyFrameId =
        if frame.dependency = .keyFrame then frame.frameId else s.lastEnqueuedKeyFrameId := by
  cases h with
  | enqueue henqueue =>
    rcases enqueueFrame_cases henqueue with ⟨hne, -⟩ | ⟨-, hnext, n, rfl⟩
    · exact absurd rfl hne
    · exact ⟨hnext, rfl, rfl, rfl, rfl⟩

/-- A picture loss makes the request at the checkpoint. -/
theorem Changes.of_pictureLoss {notified : Bool} (h : Changes c s (.pictureLoss notified) t) :
    s.lastEnqueuedKeyFrameId ≤ s.checkpointFrameId ∧
      t.lastEnqueuedKeyFrameId = s.lastEnqueuedKeyFrameId ∧
      t.pictureLostAtFrameId = s.checkpointFrameId ∧
      t.checkpointFrameId = s.checkpointFrameId ∧
      t.lastEnqueuedFrameId = s.lastEnqueuedFrameId := by
  cases h with
  | pictureLoss hkey =>
    refine ⟨hkey, ?_⟩
    unfold losePicture
    split_ifs
    · exact ⟨rfl, rfl, rfl, rfl⟩
    · exact ⟨rfl, rfl, rfl, rfl⟩

/-- The other changes keep the ids, but for the checkpoint. -/
theorem Changes.idle_ids (h : Changes c s a t) (henqueue : ∀ frame, a ≠ .enqueue frame)
    (hloss : ∀ notified, a ≠ .pictureLoss notified) :
    t.lastEnqueuedKeyFrameId = s.lastEnqueuedKeyFrameId ∧
      t.pictureLostAtFrameId = s.pictureLostAtFrameId ∧
      t.lastEnqueuedFrameId = s.lastEnqueuedFrameId ∧
      s.checkpointFrameId ≤ t.checkpointFrameId ∧
      t.checkpointFrameId ≤ max s.checkpointFrameId s.lastEnqueuedFrameId := by
  cases h with
  | enqueue => exact absurd rfl (henqueue _)
  | report hreport =>
    unfold onReceiverReport at hreport
    rw [require_bind_eq_ok] at hreport
    cases hreport.2
    exact ⟨rfl, rfl, rfl, le_rfl, le_max_left _ _⟩
  | pictureLoss => exact absurd rfl (hloss _)
  | other hidle =>
    exact ⟨hidle.lastEnqueuedKeyFrameId, hidle.pictureLostAtFrameId, hidle.lastEnqueuedFrameId,
      hidle.le_checkpoint, hidle.checkpoint_le⟩

/-- The three kinds of changes: those of the two lemmas above, and those that keep the ids. -/
theorem senderChange_cases (a : SenderChange) :
    (∃ frame, a = .enqueue frame) ∨ (∃ notified, a = .pictureLoss notified) ∨
      (∀ frame, a ≠ .enqueue frame) ∧ ∀ notified, a ≠ .pictureLoss notified := by
  cases a with
  | enqueue frame => exact .inl ⟨frame, rfl⟩
  | pictureLoss notified => exact .inr (.inl ⟨notified, rfl⟩)
  | _ => exact .inr (.inr ⟨nofun, nofun⟩)

theorem IdsOrdered.change (h : IdsOrdered s) (hchange : Changes c s a t) : IdsOrdered t := by
  obtain ⟨hlost, hcheckpoint, hkey⟩ := h
  rcases senderChange_cases a with ⟨frame, rfl⟩ | ⟨notified, rfl⟩ | ⟨henqueue, hloss⟩
  · obtain ⟨hnext, hlast, hcp, hl, hk⟩ := hchange.of_enqueue
    refine ⟨by omega, by omega, ?_⟩
    split_ifs at hk <;> omega
  · obtain ⟨-, hk, hl, hcp, hlast⟩ := hchange.of_pictureLoss
    exact ⟨by omega, by omega, by omega⟩
  · obtain ⟨hk, hl, hlast, hcp, hcp'⟩ := hchange.idle_ids henqueue hloss
    exact ⟨by omega, by omega, by omega⟩

/-! ### What one change does to the request -/

theorem needsKeyFrame_eq_true :
    s.needsKeyFrame = true ↔ s.lastEnqueuedKeyFrameId ≤ s.pictureLostAtFrameId := by
  simp [needsKeyFrame]

theorem needsKeyFrame_eq_false :
    s.needsKeyFrame = false ↔ s.pictureLostAtFrameId < s.lastEnqueuedKeyFrameId := by
  simp [needsKeyFrame]

/-- A key frame meets the request. -/
theorem needsKeyFrame_of_keyFrame (h : IdsOrdered s) (hchange : Changes c s a t)
    (ha : a.EnqueuesKeyFrame) : t.needsKeyFrame = false := by
  obtain ⟨frame, rfl, hkey⟩ := ha
  obtain ⟨hnext, -, -, hlost, hlast⟩ := hchange.of_enqueue
  rw [if_pos hkey] at hlast
  have := h.lost_le
  have := h.checkpoint_le
  rw [needsKeyFrame_eq_false]
  omega

/-- Without a key frame a request stays pending. -/
theorem needsKeyFrame_of_not_keyFrame (hchange : Changes c s a t) (ha : ¬ a.EnqueuesKeyFrame)
    (hneeds : s.needsKeyFrame = true) : t.needsKeyFrame = true := by
  rw [needsKeyFrame_eq_true] at hneeds ⊢
  rcases senderChange_cases a with ⟨frame, rfl⟩ | ⟨notified, rfl⟩ | ⟨henqueue, hloss⟩
  · obtain ⟨-, -, -, hlost, hlast⟩ := hchange.of_enqueue
    rw [if_neg fun hkey => ha ⟨frame, rfl, hkey⟩] at hlast
    omega
  · obtain ⟨hkey, hlast, hlost, -⟩ := hchange.of_pictureLoss
    omega
  · obtain ⟨hlast, hlost, -⟩ := hchange.idle_ids henqueue hloss
    omega

/-- Only a picture loss makes a request. -/
theorem exists_pictureLoss (h : IdsOrdered s) (hchange : Changes c s a t)
    (hs : s.needsKeyFrame = false) (ht : t.needsKeyFrame = true) :
    ∃ notified, a = .pictureLoss notified := by
  rw [needsKeyFrame_eq_false] at hs
  rw [needsKeyFrame_eq_true] at ht
  rcases senderChange_cases a with ⟨frame, rfl⟩ | hloss | ⟨henqueue, hloss⟩
  · obtain ⟨hnext, -, -, hlost, hlast⟩ := hchange.of_enqueue
    have := h.key_le
    split_ifs at hlast <;> omega
  · exact hloss
  · obtain ⟨hlast, hlost, -⟩ := hchange.idle_ids henqueue hloss
    omega

/-! ### Runs -/

/-- The key frames of a run, and the state after it. -/
structure KeysUpTo (changes : List SenderChange) (s : Sender) : Prop where
  ordered : IdsOrdered s
  le_last : ∀ frame, .enqueue frame ∈ changes → frame.dependency = .keyFrame →
    frame.frameId ≤ s.lastEnqueuedKeyFrameId

theorem keysUpTo_of_run {changes : List SenderChange} (hs : IdsOrdered s)
    (hrun : Run (Changes c) s changes t) : KeysUpTo changes t := by
  induction hrun with
  | nil => exact ⟨hs, by simp⟩
  | @snoc t u changes a hrun hchange ih =>
    refine ⟨ih.ordered.change hchange, fun frame hframe hkey => ?_⟩
    rcases List.mem_append.mp hframe with hmem | hmem
    · -- the last key frame does not go back
      have hle := ih.le_last frame hmem hkey
      rcases senderChange_cases a with ⟨f, rfl⟩ | ⟨notified, rfl⟩ | ⟨henqueue, hloss⟩
      · obtain ⟨hnext, -, -, -, hlast⟩ := hchange.of_enqueue
        have := ih.ordered.key_le
        split_ifs at hlast <;> omega
      · rwa [hchange.of_pictureLoss.2.1]
      · rwa [(hchange.idle_ids henqueue hloss).1]
    · obtain rfl := List.mem_singleton.mp hmem
      obtain ⟨-, -, -, -, hlast⟩ := hchange.of_enqueue
      rw [hlast, if_pos hkey]

/-- A request that a run meets is met by a key frame. -/
theorem exists_keyFrame_of_run {changes : List SenderChange} (hrun : Run (Changes c) s changes t)
    (hs : s.needsKeyFrame = true) (ht : t.needsKeyFrame = false) :
    ∃ a ∈ changes, a.EnqueuesKeyFrame := by
  by_contra hnone
  have hpending : t.needsKeyFrame = true :=
    hrun.invariant_of_forall (P := fun s => s.needsKeyFrame = true)
      (A := fun a => ¬ a.EnqueuesKeyFrame)
      (fun _ _ _ ha hneeds hchange => needsKeyFrame_of_not_keyFrame hchange ha hneeds)
      (fun a ha hkey => hnone ⟨a, ha, hkey⟩) hs
  rw [ht] at hpending
  cases hpending

/-- Along the changes from `s₀` on, requests for key frames are neither lost nor repeated: one is
pending at first, exactly the key frames meet them, a picture loss makes one only when no key
frame is beyond the checkpoint, and two that are made have a key frame between them. -/
structure RequestsKeyFrames (c : SessionConfig) (s₀ : Sender) (changes : List SenderChange) :
    Prop where
  initially : s₀.needsKeyFrame = true
  met : ∀ pre a post u v, changes = pre ++ a :: post → Run (Changes c) s₀ pre u →
    Changes c u a v → a.EnqueuesKeyFrame → v.needsKeyFrame = false
  met_only : ∀ pre a post u v, changes = pre ++ a :: post → Run (Changes c) s₀ pre u →
    Changes c u a v → u.needsKeyFrame = true → v.needsKeyFrame = false → a.EnqueuesKeyFrame
  made_only : ∀ pre a post u v, changes = pre ++ a :: post → Run (Changes c) s₀ pre u →
    Changes c u a v → u.needsKeyFrame = false → v.needsKeyFrame = true →
    (∃ notified, a = .pictureLoss notified) ∧ ∀ frame, .enqueue frame ∈ pre →
      frame.dependency = .keyFrame → frame.frameId ≤ u.checkpointFrameId
  not_repeated : ∀ pre between post notified notified' u v u' v',
    changes = pre ++ .pictureLoss notified :: (between ++ .pictureLoss notified' :: post) →
    Run (Changes c) s₀ pre u → Changes c u (.pictureLoss notified) v →
    Run (Changes c) v between u' → Changes c u' (.pictureLoss notified') v' →
    u.needsKeyFrame = false → u'.needsKeyFrame = false → ∃ a ∈ between, a.EnqueuesKeyFrame

theorem requestsKeyFrames (packetizer : RtpPacketizer) (changes : List SenderChange) :
    RequestsKeyFrames c (Sender.new c packetizer) changes where
  initially := needsKeyFrame_eq_true.mpr le_rfl
  met _ _ _ _ _ _ hrun hchange ha :=
    needsKeyFrame_of_keyFrame (keysUpTo_of_run (idsOrdered_new packetizer) hrun).ordered hchange ha
  met_only _ _ _ _ _ _ _ hchange hu hv := by
    by_contra ha
    rw [needsKeyFrame_of_not_keyFrame hchange ha hu] at hv
    cases hv
  made_only _ _ _ _ _ _ hrun hchange hu hv := by
    have hkeys := keysUpTo_of_run (idsOrdered_new packetizer) hrun
    obtain ⟨notified, rfl⟩ := exists_pictureLoss hkeys.ordered hchange hu hv
    refine ⟨⟨notified, rfl⟩, fun frame hframe hkey => ?_⟩
    exact (hkeys.le_last frame hframe hkey).trans hchange.of_pictureLoss.1
  not_repeated _ _ _ _ _ _ _ _ _ _ _ hfirst hrun _ _ hu' := by
    -- the first loss leaves a request pending, which only a key frame meets
    obtain ⟨hkey, hlast, hlost, -⟩ := hfirst.of_pictureLoss
    have hpending := needsKeyFrame_eq_true.mpr (hlast.le.trans (hkey.trans hlost.ge))
    exact exists_keyFrame_of_run hrun hpending hu'

/-- **Requests for key frames are neither lost nor repeated.** Whatever calls a sender receives,
they are changes that its history shows, and along these the requests are kept. Among the changes of
each call are the frame that it enqueues, and a picture loss only if it is an RTCP packet whose
results have the picture loss indicator. -/
theorem requestsKeyFrames_of_calls (c : SessionConfig) (packetizer : RtpPacketizer)
    {calls : List (SenderOp × SenderOutput)} {s : Sender}
    (h : Run (Calls c) (Sender.new c packetizer) calls s) :
    ∃ changes, Unfolded c (Sender.new c packetizer) calls changes s ∧
      Run (Changes c) (Sender.new c packetizer) changes s ∧
      s.shown = changes.flatMap SenderChange.event ∧
      RequestsKeyFrames c (Sender.new c packetizer) changes := by
  obtain ⟨changes, hchanges⟩ := exists_unfolded h
  exact ⟨changes, hchanges, hchanges.run, shown_of_run hchanges.run,
    requestsKeyFrames packetizer changes⟩

/-- The receiver has lost the picture. -/
def pictureLossPacket : ByteView := [0x81, 206, 0, 2, 0, 0, 0, 2, 0, 0, 0, 1]

/-- The calls of a session in which the observer answers a picture loss by a key frame. -/
def pictureLossCalls : List SenderOp :=
  [.setObserver (some 0), .enqueueFrame (exampleFrame 0),
    .onReceivedRtcpPacket 1000 (feedbackPacket 0 0) [],
    .onReceivedRtcpPacket 2000 pictureLossPacket [[exampleFrame 1]]]

theorem outcome_pictureLoss :
    Outcome (fun r => r.1.map Prod.fst = pictureLossCalls ∧
        r.2.shown = [.enqueued 0, .onPictureLost, .enqueued 1] ∧ r.2.needsKeyFrame = false)
      (fun _ => False)
      (runOps exampleConfig (Sender.new exampleConfig examplePacketizer) pictureLossCalls) := by
  decide +kernel

/-- A request that is made and met inside one call. -/
theorem requestsKeyFrames_pictureLoss :
    ∃ s calls changes, Unfolded exampleConfig (Sender.new exampleConfig examplePacketizer)
        calls changes s ∧ calls.map Prod.fst = pictureLossCalls ∧
      changes.flatMap SenderChange.event = [.enqueued 0, .onPictureLost, .enqueued 1] ∧
      RequestsKeyFrames exampleConfig (Sender.new exampleConfig examplePacketizer) changes := by
  obtain ⟨⟨calls, s⟩, hrun, hops, hshown, -⟩ := outcome_pictureLoss.exists_ok
  have hcalls : Run (Calls exampleConfig) (Sender.new exampleConfig examplePacketizer) calls s :=
    (run_of_runOps hrun (by decide)).mono fun _ _ _ hstep => hstep.2
  obtain ⟨changes, hchanges, -, hshown', hrequests⟩ := requestsKeyFrames_of_calls _ _ hcalls
  exact ⟨s, calls, changes, hchanges, hops, hshown'.symm.trans hshown, hrequests⟩

end Sender

end StreamerPlus
