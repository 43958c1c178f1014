import StreamerPlus.Streaming.Sender

/-!
# Histories of a sender

What the events of a sender say about its frames. `Reports` is the grammar of the histories in
which each frame that is removed is reported once, with the queue of those not yet reported.
-/

namespace StreamerPlus

/-- The frames that were enqueued, removed and reported. -/
def enqueuedIds (events : List SenderEvent) : List ℤ :=
  events.filterMap fun | .enqueued id => some id | _ => none

@[inherit_doc enqueuedIds]
def removedIds (events : List SenderEvent) : List ℤ :=
  events.filterMap fun | .removed id _ => some id | _ => none

@[inherit_doc enqueuedIds]
def reportedIds (events : List SenderEvent) : List ℤ :=
  events.filterMap fun | .onFrameCanceled id => some id | _ => none

@[simp]
theorem enqueuedIds_append (l₁ l₂ : List SenderEvent) :
    enqueuedIds (l₁ ++ l₂) = enqueuedIds l₁ ++ enqueuedIds l₂ := List.filterMap_append

@[simp]
theorem removedIds_append (l₁ l₂ : List SenderEvent) :
    removedIds (l₁ ++ l₂) = removedIds l₁ ++ removedIds l₂ := List.filterMap_append

@[simp]
theorem reportedIds_append (l₁ l₂ : List SenderEvent) :
    reportedIds (l₁ ++ l₂) = reportedIds l₁ ++ reportedIds l₂ := List.filterMap_append

/-- The histories in which frames are reported in the order in which they are removed, and a
dispatch ends with nothing left to report. The list is what is left to report. -/
inductive Reports : List SenderEvent → List ℤ → Prop
  | nil : Reports [] []
  | removed {events waiting} (id : ℤ) (wasAcked : Bool) :
      Reports events waiting → Reports (events ++ [.removed id wasAcked]) (waiting ++ [id])
  | reported {events waiting} (id : ℤ) :
      Reports events (id :: waiting) → Reports (events ++ [.onFrameCanceled id]) waiting
  | dispatched {events} : Reports events [] → Reports (events ++ [.dispatched]) []
  | other {events waiting} (event : SenderEvent) (hremoved : removedIds [event] = [])
      (hreported : reportedIds [event] = []) (hdispatched : event ≠ .dispatched) :
      Reports events waiting → Reports (events ++ [event]) waiting

namespace Reports

variable {events pre : List SenderEvent} {waiting : List ℤ}

/-- What is removed has been reported or waits for it. -/
theorem removedIds_eq (h : Reports events waiting) :
    removedIds events = reportedIds events ++ waiting := by
  induction h with
  | nil => rfl
  | removed id wasAcked _ ih =>
    rw [removedIds_append, reportedIds_append, ih, List.append_assoc, List.append_assoc]
    rfl
  | reported id _ ih =>
    rw [removedIds_append, reportedIds_append, ih, List.append_assoc, List.append_assoc]
    exact congrArg _ (List.append_nil _)
  | dispatched _ ih =>
    rw [removedIds_append, reportedIds_append, ih]
    simp [removedIds, reportedIds]
  | other event h₁ h₂ _ _ ih => simp [ih, h₁, h₂]

/-- No frame is reported before it is removed. -/
theorem reported_of_pre (h : Reports events waiting) (hpre : pre <+: events) :
    ∃ waiting, Reports pre waiting := by
  induction h with
  | nil => exact ⟨[], List.prefix_nil.mp hpre ▸ .nil⟩
  | removed id wasAcked h ih =>
    rcases List.prefix_concat_iff.mp hpre with rfl | hpre
    exacts [⟨_, h.removed id wasAcked⟩, ih hpre]
  | reported id h ih =>
    rcases List.prefix_concat_iff.mp hpre with rfl | hpre
    exacts [⟨_, h.reported id⟩, ih hpre]
  | dispatched h ih =>
    rcases List.prefix_concat_iff.mp hpre with rfl | hpre
    exacts [⟨_, h.dispatched⟩, ih hpre]
  | other event h₁ h₂ h₃ h ih =>
    rcases List.prefix_concat_iff.mp hpre with rfl | hpre
    exacts [⟨_, h.other event h₁ h₂ h₃⟩, ih hpre]

/-- When a dispatch ends, every frame removed until then is reported. -/
theorem reportedIds_of_dispatched (h : Reports events waiting)
    (hpre : pre ++ [.dispatched] <+: events) : reportedIds pre = removedIds pre := by
  obtain ⟨waiting', h'⟩ := h.reported_of_pre hpre
  generalize hl : pre ++ [SenderEvent.dispatched] = l at h'
  cases h' with
  | nil => simp at hl
  | removed id wasAcked _ => simp at hl
  | reported id _ => simp at hl
  | dispatched h =>
    obtain ⟨rfl, -⟩ := List.append_inj' hl rfl
    rw [h.removedIds_eq, List.append_nil]
  | other event _ _ hne _ =>
    obtain ⟨-, heq⟩ := List.append_inj' hl rfl
    exact absurd (List.cons.inj heq).1.symm hne

end Reports

end StreamerPlus
