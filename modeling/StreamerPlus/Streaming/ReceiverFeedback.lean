import StreamerPlus.Streaming.FeedbackLists
import StreamerPlus.Streaming.ReceiverHistory

/-!
# The feedback of a receiver

What `SendRtcp` reports, compared with the packets that the receiver has collected: frames of
which all packets have been collected are ACKed, and the other ones NACKed packet by packet, or as
a whole if nothing of them has been collected.

Main result:

* `Receiver.reports_of_run`: the lists of every `SendRtcp` are these, and the checks that a debug
  build of the RTCP builder makes on them pass.
-/

namespace StreamerPlus

open Checked TransitionSystem

/-! ### What there is to report -/

/-- The packets that are missing of a frame, once one of its packets has been collected. -/
def missingIds : List (ℕ × ℕ) → List ℕ
  | [] => []
  | (packetId, maxPacketId) :: packets =>
    (List.range (maxPacketId + 1)).filter (· ∉ ((packetId, maxPacketId) :: packets).map Prod.fst)

variable (events : List ReceiverEvent)

/-- All packets of the frame have been collected. -/
def isCollected (frameId : ℤ) : Bool :=
  !(packetsOf events frameId).isEmpty && (missingIds (packetsOf events frameId)).isEmpty

/-- The NACKs for a frame that is not complete. -/
def nacksFor (frameId : ℤ) : List PacketNack :=
  if (packetsOf events frameId).isEmpty then [⟨frameId, kAllPacketsLost⟩]
  else (missingIds (packetsOf events frameId)).map fun packetId => ⟨frameId, packetId⟩

/-! ### The checks of the builder -/

namespace CompoundRtcpBuilder

/-- `AreElementsSortedAndUnique(c)`. -/
def areElementsSortedAndUnique {α : Type} [DecidableEq α] (lt : α → α → Prop) [DecidableRel lt] :
    List α → Bool
  | a :: b :: l => !decide (lt b a) && !decide (a = b) && areElementsSortedAndUnique lt (b :: l)
  | _ => true

/-- The consistency check of `IncludeFeedbackInNextPacket`: no ACKed frame is NACKed. -/
def areConsistent : List ℤ → List PacketNack → Bool
  | ack :: acks, nack :: nacks =>
    if ack < nack.frameId then areConsistent acks (nack :: nacks)
    else if nack.frameId < ack then areConsistent (ack :: acks) nacks
    else false
  | _, _ => true
termination_by acks nacks => acks.length + nacks.length

/-- The redundancy check: a NACK for all packets of a frame does not follow another one. -/
def areNotRedundant : List PacketNack → Bool
  | a :: b :: l =>
    (b.packetId != kAllPacketsLost || b.frameId != a.frameId) && areNotRedundant (b :: l)
  | _ => true

/-- The checks of `IncludeFeedbackInNextPacket(packet_nacks, frame_acks)` in a debug build. -/
def feedbackChecks (packetNacks : List PacketNack) (frameAcks : List ℤ) : Bool :=
  areElementsSortedAndUnique NackLT packetNacks && areElementsSortedAndUnique (· < ·) frameAcks &&
    areConsistent frameAcks packetNacks && areNotRedundant packetNacks

theorem areElementsSortedAndUnique_of_pairwise {α : Type} [DecidableEq α] {lt : α → α → Prop}
    [DecidableRel lt] (hasymm : ∀ a b, lt a b → ¬lt b a) {l : List α} (h : l.Pairwise lt) :
    areElementsSortedAndUnique lt l := by
  induction l with
  | nil => rfl
  | cons a l ih =>
    cases l with
    | nil => rfl
    | cons b l =>
      have hab := List.rel_of_pairwise_cons h List.mem_cons_self
      have hne : a ≠ b := by
        rintro rfl
        exact hasymm a a hab hab
      simp only [areElementsSortedAndUnique, hasymm a b hab, hne, decide_false, Bool.not_false,
        Bool.true_and]
      exact ih h.of_cons

theorem areConsistent_of_disjoint {acks : List ℤ} {nacks : List PacketNack}
    (h : ∀ n ∈ nacks, n.frameId ∉ acks) : areConsistent acks nacks := by
  fun_induction areConsistent acks nacks with
  | case1 ack acks nack nacks hlt ih =>
    exact ih fun n hn hmem => h n hn (List.mem_cons_of_mem _ hmem)
  | case2 ack acks nack nacks hnlt hlt ih => exact ih fun n hn => h n (List.mem_cons_of_mem _ hn)
  | case3 ack acks nack nacks hnlt hnlt' =>
    have heq : nack.frameId = ack := by omega
    exact absurd (heq ▸ List.mem_cons_self) (h nack List.mem_cons_self)
  | case4 => rfl

theorem areNotRedundant_of_nackList {nacks : List PacketNack} (h : NackList nacks) :
    areNotRedundant nacks := by
  induction nacks with
  | nil => rfl
  | cons a l ih =>
    cases l with
    | nil => rfl
    | cons b l =>
      have hrest := ih (h.sublist (List.sublist_cons_self _ _))
      simp only [areNotRedundant, hrest, Bool.and_true, Bool.or_eq_true, bne_iff_ne]
      by_contra hboth
      simp only [not_or, not_not] at hboth
      -- the two NACKs are for one frame, and so they are equal
      have heq : a = b := h.allLost b (by simp) hboth.1 a (by simp) hboth.2.symm
      have hlt : NackLT a b := List.rel_of_pairwise_cons h.sorted List.mem_cons_self
      subst heq
      rcases hlt with hlt | hlt
      · exact lt_irrefl _ hlt
      · exact lt_irrefl _ hlt.2

end CompoundRtcpBuilder

/-- The lists report on the frames after the checkpoint, as the history has them. -/
structure ReportsOn (checkpoint latest : ℤ) (frameAcks : List ℤ)
    (packetNacks : List PacketNack) : Prop where
  acks : frameAcks = (Int.range (checkpoint + 1) (latest + 1)).filter (isCollected events)
  nacks : packetNacks = ((Int.range (checkpoint + 1) (latest + 1)).filter
    (!isCollected events ·)).flatMap (nacksFor events)
  disjoint : ∀ n ∈ packetNacks, n.frameId ∉ frameAcks
  checks : CompoundRtcpBuilder.feedbackChecks packetNacks frameAcks

/-! ### What a collector says of its frame -/

namespace FrameCollector.Holds

variable {c : FrameCollector} {packets : List (ℕ × ℕ)} {events : List ReceiverEvent} {g : ℤ}

theorem missingIds_eq (h : c.Holds packets) :
    missingIds packets = (List.range c.chunks.length).filter fun i => c.chunks[i]? = some none := by
  cases packets with
  | nil => simp [missingIds, h.nil_iff.mp rfl]
  | cons p packets =>
    rw [h.length p List.mem_cons_self]
    refine List.filter_congr fun i hi => decide_eq_decide.mpr (h.missing i ?_).symm
    rw [h.length p List.mem_cons_self]
    exact List.mem_range.mp hi

/-- The collector is complete when all packets have been collected. -/
theorem isComplete_eq (h : c.Holds (packetsOf events g)) : c.isComplete = isCollected events g := by
  rw [Bool.eq_iff_iff, isComplete_iff]
  simp only [isCollected, Bool.and_eq_true, Bool.not_eq_true', List.isEmpty_eq_false_iff,
    List.isEmpty_iff, ne_eq, h.nil_iff, h.missingIds_eq]
  refine and_congr_right fun _ => ?_
  rw [List.filter_eq_nil_iff]
  constructor
  · intro hall i hi hnone
    have hi' := List.mem_range.mp hi
    rw [decide_eq_true_eq, List.getElem?_eq_getElem hi', Option.some.injEq] at hnone
    have := hall _ (List.getElem_mem hi')
    rw [hnone] at this
    cases this
  · intro hall chunk hmem
    obtain ⟨i, hi, rfl⟩ := List.mem_iff_getElem.mp hmem
    have hsome := hall i (List.mem_range.mpr hi)
    rw [decide_eq_true_eq, List.getElem?_eq_getElem hi, Option.some.injEq] at hsome
    exact Option.isSome_iff_ne_none.mpr hsome

/-- Some packet is not missing, once one has been collected. -/
theorem countP_lt_length (h : c.Holds packets) (hne : packets ≠ []) :
    c.chunks.countP Option.isNone < c.chunks.length := by
  obtain ⟨p, packets, rfl⟩ := List.exists_cons_of_ne_nil hne
  have hlength := h.length p List.mem_cons_self
  have hle := h.le p List.mem_cons_self
  refine lt_of_le_of_ne List.countP_le_length fun heq => ?_
  have hnone := (List.countP_eq_length.mp heq) _
    (List.getElem_mem (show p.1 < c.chunks.length by omega))
  have hmissing : c.chunks[p.1]? = some none := by
    rw [List.getElem?_eq_getElem (by omega), Option.isNone_iff_eq_none.mp hnone]
  exact (h.missing p.1 (by omega)).mp hmissing (by simp)

/-- **What an incomplete collector NACKs.** -/
theorem getMissingPackets_eq (h : c.Holds (packetsOf events g)) (hid : c.frame.frameId = some g)
    (hincomplete : c.isComplete = false) : c.getMissingPackets = .ok (nacksFor events g) := by
  unfold getMissingPackets nacksFor
  rw [hid]
  simp only [hincomplete, Bool.false_eq_true, if_false]
  by_cases hnil : packetsOf events g = []
  · have hchunks := h.nil_iff.mp hnil
    have hnum := (numMissingPackets_eq_unknown_iff c).mpr hchunks
    simp [hnil, hchunks, hnum]
  · have hne : c.chunks ≠ [] := fun hchunks => hnil (h.nil_iff.mpr hchunks)
    have hnum : c.numMissingPackets = c.chunks.countP Option.isNone :=
      (c.accounted.resolve_left fun haccounted => hne haccounted.1).2.2
    have hlt := h.countP_lt_length hnil
    rw [if_neg (by rw [hnum]; omega), if_neg (by simpa using hnil), h.missingIds_eq,
      ← List.filterMap_eq_map, List.filterMap_filter]
    simp

end FrameCollector.Holds

section

variable {events : List ReceiverEvent} {f g : ℤ} {n m : PacketNack}

theorem frameId_of_mem_nacksFor (h : n ∈ nacksFor events g) : n.frameId = g := by
  unfold nacksFor at h
  split_ifs at h with hempty
  · rw [List.mem_singleton.mp h]
  · obtain ⟨i, -, rfl⟩ := List.mem_map.mp h
    rfl

theorem pairwise_nacksFor : (nacksFor events g).Pairwise NackLT := by
  unfold nacksFor
  split_ifs with hempty
  · exact List.pairwise_singleton _ _
  · rw [List.pairwise_map]
    have hsorted : (missingIds (packetsOf events g)).Pairwise (· < ·) := by
      unfold missingIds
      split
      · exact List.Pairwise.nil
      · exact List.pairwise_lt_range.filter _
    exact hsorted.imp fun hlt => Or.inr ⟨rfl, hlt⟩

/-- The missing packets have ids of their frame. -/
theorem lt_of_mem_missingIds {packets : List (ℕ × ℕ)} (h : ∀ p ∈ packets, p.2 < kAllPacketsLost)
    {i : ℕ} (hi : i ∈ missingIds packets) : i < kAllPacketsLost := by
  cases packets with
  | nil => simp [missingIds] at hi
  | cons p packets =>
    have hle := List.mem_range.mp (List.mem_filter.mp hi).1
    have hlt := h p List.mem_cons_self
    omega

theorem packetId_of_mem_nacksFor (h : ∀ p ∈ packetsOf events g, p.2 < kAllPacketsLost)
    (hn : n ∈ nacksFor events g) :
    nacksFor events g = [n] ∧ n.packetId = kAllPacketsLost ∨ n.packetId < kAllPacketsLost := by
  unfold nacksFor at hn ⊢
  split_ifs at hn ⊢ with hempty
  · rw [List.mem_singleton.mp hn]
    exact Or.inl ⟨rfl, rfl⟩
  · obtain ⟨i, hi, rfl⟩ := List.mem_map.mp hn
    exact Or.inr (lt_of_mem_missingIds h hi)

/-- The NACKs of a sorted list of frames are what a receiver may report. -/
theorem nackList_flatMap {l : List ℤ} (hl : l.Pairwise (· < ·))
    (h : ∀ g ∈ l, ∀ p ∈ packetsOf events g, p.2 < kAllPacketsLost) :
    NackList (l.flatMap (nacksFor events)) where
  sorted := by
    refine List.pairwise_flatMap.mpr ⟨fun g _ => pairwise_nacksFor, hl.imp fun {f g} hlt => ?_⟩
    intro n hn m hm
    refine Or.inl ?_
    rw [frameId_of_mem_nacksFor hn, frameId_of_mem_nacksFor hm]
    exact hlt
  packetId n hn := by
    obtain ⟨g, hg, hn⟩ := List.mem_flatMap.mp hn
    rcases packetId_of_mem_nacksFor (h g hg) hn with ⟨-, hid⟩ | hlt
    · rw [hid, kAllPacketsLost]
    · exact hlt.le
  allLost n hn hall m hm heq := by
    obtain ⟨g, hg, hn⟩ := List.mem_flatMap.mp hn
    obtain ⟨g', -, hm⟩ := List.mem_flatMap.mp hm
    rw [frameId_of_mem_nacksFor hn, frameId_of_mem_nacksFor hm] at heq
    subst heq
    rcases packetId_of_mem_nacksFor (h g' hg) hn with ⟨hsingle, -⟩ | hlt
    · rw [hsingle] at hm
      exact List.mem_singleton.mp hm
    · exact absurd hall hlt.ne

theorem pairwise_intRange (a b : ℤ) : (Int.range a b).Pairwise (· < ·) := by
  unfold Int.range
  rw [List.pairwise_map]
  exact List.pairwise_lt_range.imp fun hlt => by omega

theorem nackLT_asymm (a b : PacketNack) (h : NackLT a b) : ¬NackLT b a := by
  unfold NackLT at h ⊢
  omega

/-- Lists that are made from the history pass the checks of the builder. -/
theorem reportsOn_of_eq {checkpoint latest : ℤ} {frameAcks : List ℤ} {packetNacks : List PacketNack}
    (hpackets : ∀ g, checkpoint < g → g ≤ latest → ∀ p ∈ packetsOf events g, p.2 < kAllPacketsLost)
    (hacks : frameAcks = (Int.range (checkpoint + 1) (latest + 1)).filter (isCollected events))
    (hnacks : packetNacks = ((Int.range (checkpoint + 1) (latest + 1)).filter
      (!isCollected events ·)).flatMap (nacksFor events)) :
    ReportsOn events checkpoint latest frameAcks packetNacks := by
  have hrange := pairwise_intRange (checkpoint + 1) (latest + 1)
  have hlist : NackList packetNacks := by
    rw [hnacks]
    refine nackList_flatMap (hrange.filter _) fun g hg => ?_
    have hmem := Int.mem_range_iff.mp (List.mem_filter.mp hg).1
    exact hpackets g (by omega) (by omega)
  have hdisjoint : ∀ n ∈ packetNacks, n.frameId ∉ frameAcks := by
    intro n hn hmem
    rw [hnacks] at hn
    rw [hacks] at hmem
    obtain ⟨g, hg, hn⟩ := List.mem_flatMap.mp hn
    rw [frameId_of_mem_nacksFor hn] at hmem
    have hcollected := (List.mem_filter.mp hmem).2
    have hmissing := (List.mem_filter.mp hg).2
    rw [hcollected] at hmissing
    cases hmissing
  refine ⟨hacks, hnacks, hdisjoint, ?_⟩
  have hsorted : frameAcks.Pairwise (· < ·) := hacks ▸ hrange.filter _
  simp only [CompoundRtcpBuilder.feedbackChecks, Bool.and_eq_true]
  exact ⟨⟨⟨CompoundRtcpBuilder.areElementsSortedAndUnique_of_pairwise nackLT_asymm hlist.sorted,
    CompoundRtcpBuilder.areElementsSortedAndUnique_of_pairwise (fun a b => lt_asymm) hsorted⟩,
    CompoundRtcpBuilder.areConsistent_of_disjoint hdisjoint⟩,
    CompoundRtcpBuilder.areNotRedundant_of_nackList hlist⟩

end

/-! ### `SendRtcp` -/

namespace ReceiverView

variable {c : ReceiverConfig} {v : ReceiverView}

/-- The loop of `SendRtcp`, over frames whose collectors are described by the history. -/
theorem foldlM_examineFrame {q : FrameQueue} {events : List ReceiverEvent} {l : List ℤ}
    (hcomplete : ∀ g ∈ l, q.isComplete g = isCollected events g)
    (hmissing : ∀ g ∈ l, q.isComplete g = false →
      (q.getQueueEntry g).collector.getMissingPackets = .ok (nacksFor events g))
    (feedback : Receiver.Feedback) :
    ∃ result, l.foldlM (Receiver.examineFrame c q) feedback = .ok result ∧
      result.frameAcks = feedback.frameAcks ++ l.filter (isCollected events) ∧
      result.packetNacks = feedback.packetNacks ++
        (l.filter (!isCollected events ·)).flatMap (nacksFor events) := by
  induction l generalizing feedback with
  | nil => exact ⟨feedback, rfl, by simp, by simp⟩
  | cons g l ih =>
    have hrest := ih (fun g' hg' => hcomplete g' (List.mem_cons_of_mem _ hg'))
      (fun g' hg' => hmissing g' (List.mem_cons_of_mem _ hg'))
    have hg := hcomplete g List.mem_cons_self
    cases hcollected : isCollected events g with
    | true =>
      have hexamine : Receiver.examineFrame c q feedback g = .ok _ :=
        if_pos (hg.trans hcollected)
      obtain ⟨result, hresult, hacks, hnacks⟩ := hrest _
      refine ⟨result, by rw [List.foldlM_cons, hexamine]; exact hresult, ?_, ?_⟩
      · rw [hacks]
        simp [hcollected]
      · rw [hnacks]
        simp [hcollected]
    | false =>
      have hincomplete := hg.trans hcollected
      have hexamine : Receiver.examineFrame c q feedback g = .ok
          { feedback with packetNacks := feedback.packetNacks ++ nacksFor events g } := by
        have hnot : ¬(q.getQueueEntry g).collector.isComplete = true :=
          Bool.eq_false_iff.mp hincomplete
        unfold Receiver.examineFrame
        dsimp only
        rw [if_neg hnot, hmissing g List.mem_cons_self hincomplete]
        rfl
      obtain ⟨result, hresult, hacks, hnacks⟩ := hrest _
      refine ⟨result, by rw [List.foldlM_cons, hexamine]; exact hresult, ?_, ?_⟩
      · rw [hacks]
        simp [hcollected]
      · rw [hnacks]
        simp [hcollected]

/-- **The feedback is what there is to report.** -/
theorem Invariant.collectFeedback (h : v.Invariant c) :
    ∃ feedback, v.collectFeedback c = .ok feedback ∧
      ReportsOn v.events v.checkpointFrame v.latestFrameExpected feedback.frameAcks
        feedback.packetNacks := by
  have hconsumed := h.ring.consumed_le
  have hholds : ∀ g, v.checkpointFrame < g → g ≤ v.latestFrameExpected →
      (v.getQueueEntry g).collector.Holds (packetsOf v.events g) := fun g hg hg' =>
    h.packets.holds g (by omega) hg'
  have hmem : ∀ g ∈ Int.range (v.checkpointFrame + 1) (v.latestFrameExpected + 1),
      v.checkpointFrame < g ∧ g ≤ v.latestFrameExpected := fun g hg => by
    have := Int.mem_range_iff.mp hg
    omega
  obtain ⟨feedback, hfeedback, hacks, hnacks⟩ := foldlM_examineFrame (c := c)
    (q := v.toFrameQueue)
    (fun g hg => (hholds g (hmem g hg).1 (hmem g hg).2).isComplete_eq)
    (fun g hg hincomplete => (hholds g (hmem g hg).1 (hmem g hg).2).getMissingPackets_eq
      (h.ring.owned g (by have := hmem g hg; omega) (hmem g hg).2) hincomplete)
    { pendingFrameAcks := v.pendingFrameAcks }
  exact ⟨feedback, hfeedback,
    reportsOn_of_eq (fun g hg hg' => (hholds g hg hg').lt) hacks hnacks⟩

end ReceiverView

namespace Receiver

open ReceiverView

variable {c : ReceiverConfig} {s : Receiver} {as : List (ℤ × ReceiverOp × ReceiverOutput)}

/-- **Feedback is sound and complete**: in every state the lists can be made and are what there is
to report, and they were in every `SendRtcp` so far. -/
theorem reports_of_run (h : Run (Step c) (new c) as s) :
    (∃ feedback, s.collectFeedback c = .ok feedback ∧
      ReportsOn s.events s.checkpointFrame s.latestFrameExpected feedback.frameAcks
        feedback.packetNacks) ∧
    ∀ pre sent post, s.events = pre ++ .sentRtcp sent :: post →
      ReportsOn pre sent.checkpointFrame sent.latestFrameExpected sent.frameAcks
        sent.packetNacks := by
  refine ⟨(invariant_of_run h).collectFeedback, fun pre sent post heq => ?_⟩
  refine emitted_of_run (Q := fun pre => ReportsOn pre sent.checkpointFrame
    sent.latestFrameExpected sent.frameAcks sent.packetNacks) rfl (fun v hv he => ?_) h heq
  cases he with
  | sentRtcp sendTime packet hfeedback =>
    obtain ⟨feedback, hfeedback', hreports⟩ := hv.collectFeedback
    obtain rfl : feedback = _ := Except.ok.inj (hfeedback'.symm.trans hfeedback)
    exact hreports

theorem outcome_exampleFeedback :
    Outcome (fun r => (r.2.events.getLast?.bind ReceiverEvent.sent?).map (fun sent =>
        (sent.frameAcks, sent.packetNacks)) = some ([1], [⟨0, kAllPacketsLost⟩, ⟨2, 0⟩]))
      (fun _ => False)
      (runOps (exampleConfig false) (new (exampleConfig false))
        [exampleReport 1000, examplePacket 2000 1 0 0, examplePacket 2000 2 1 1,
          exampleReport 3000]) := by
  decide +kernel

/-- Frame 1 is complete, packet 0 of frame 2 is missing, and nothing of frame 0 has arrived. -/
theorem reports_threeFrames :
    ∃ s as pre sent, Run (Step (exampleConfig false)) (new (exampleConfig false)) as s ∧
      s.events = pre ++ [.sentRtcp sent] ∧ sent.frameAcks = [1] ∧
      sent.packetNacks = [⟨0, kAllPacketsLost⟩, ⟨2, 0⟩] ∧
      ReportsOn pre sent.checkpointFrame sent.latestFrameExpected sent.frameAcks
        sent.packetNacks := by
  obtain ⟨⟨as, s⟩, hrun, hlast⟩ := outcome_exampleFeedback.exists_ok
  obtain ⟨pre, sent, hpre, hlists⟩ := exists_sentRtcp_of_getLast? hlast
  simp only [Prod.mk.injEq] at hlists
  exact ⟨s, as, pre, sent, run_of_runOps hrun, hpre, hlists.1, hlists.2,
    (reports_of_run (run_of_runOps hrun)).2 pre sent [] hpre⟩

end Receiver

end StreamerPlus
