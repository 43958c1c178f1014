import Mathlib
import StreamerPlus.Lib.Outcome
import StreamerPlus.Lib.Run

/-!
# `Alarm`

An alarm (`util/alarm.h`) runs one task at a time in the future, and lets its client cancel the task
or schedule another one. It posts a functor to the task runner, and keeps a pointer to it that the
functor updates when it is moved. A functor that runs early posts another one, and one that was
canceled does nothing.

The state is the alarm, the functors in memory at their addresses, and the history of what happened
to its tasks, which are numbered as they are scheduled. The steps are the calls of the client, also
between the start and the end of a functor, when the task itself runs, and those of the task runner,
which moves, runs and destroys functors. Which steps there are depends on no clock but that of the
step itself: what follows holds for a clock that goes backwards, too.

## Main results

* `sound_of_run`: a task runs at most once, only if it was scheduled last and not canceled, and not
  before its time; a functor is queued for it, and runs it if it is due; and no assertion fails.
-/

namespace StreamerPlus

open Checked TransitionSystem Function

/-- The assertions of the alarm, and a pointer to something that was destroyed. -/
inductive AlarmFault
  | queuedFire | notQueued | dangling
  deriving DecidableEq, Repr

/-- `CancelableFunctor`, which knows its `alarm_` until it is canceled. The task runner has it in
its queue, to be run at `due` or later, unless it was moved from or has run. -/
structure CancelableFunctor where
  alarm : Bool
  due : Option ℤ
  deriving DecidableEq, Repr

/-- What happens to the tasks of an alarm. -/
inductive AlarmEvent
  | scheduled (task : ℕ) (desired : ℤ)
  | canceled
  | destroyed
  | ran (task : ℕ) (now : ℤ)
  deriving DecidableEq, Repr

/-- An alarm, the functors at their addresses, and the one that is running. -/
structure Alarm where
  alive : Bool := true
  scheduledTask : Option ℕ := none
  alarmTime : ℤ := 0
  queuedFire : Option ℕ := none
  nextFireTime : ℤ := 0
  functors : ℕ → Option CancelableFunctor := fun _ => none
  running : Option ℕ := none
  issued : ℕ := 0
  history : List AlarmEvent := []

/-- The calls of the client, and what the task runner does with functors. A functor that is posted
is constructed at `address`, and `posted` is the time that the task runner adds the delay to. -/
inductive AlarmOp
  | schedule (desired now posted : ℤ) (address : ℕ)
  | cancel
  | destroy
  | construct (source target : ℕ)
  | assign (source target : ℕ)
  | free (address : ℕ)
  | run (fired : ℕ) (now posted : ℤ) (address : ℕ)
  | finish (fired : ℕ)
  deriving DecidableEq, Repr

namespace Alarm

/-! ### Functors -/

variable (s : Alarm)

/-- `CancelableFunctor::Cancel()`, which is also its destructor. -/
def cancelFunctor (address : ℕ) : Except AlarmFault Alarm :=
  match s.functors address with
  | none => .error .dangling
  | some functor =>
    if functor.alarm then do
      require (s.alive = true) .dangling
      require (s.queuedFire = some address) .notQueued
      return { s with
        queuedFire := none
        functors := update s.functors address (some { functor with alarm := false }) }
    else .ok s

/-- The move constructor of a functor. -/
def moveFunctor (source target : ℕ) : Except AlarmFault Alarm :=
  match s.functors source with
  | none => .error .dangling
  | some functor => do
    let functors := update (update s.functors source (some ⟨false, none⟩)) target (some functor)
    if functor.alarm then
      require (s.alive = true) .dangling
      require (s.queuedFire = some source) .notQueued
      return { s with queuedFire := some target, functors }
    else return { s with functors }

/-- The move assignment of a functor. -/
def assignFunctor (source target : ℕ) : Except AlarmFault Alarm := do
  let s ← s.cancelFunctor target
  s.moveFunctor source target

/-! ### The alarm -/

/-- `queued_fire_->Cancel()`, with the assertion after it. -/
def cancelQueued : Except AlarmFault Alarm :=
  match s.queuedFire with
  | none => .ok s
  | some address => do
    let s ← s.cancelFunctor address
    require (s.queuedFire = none) .queuedFire
    return s

/-- `InvokeLater(now, fire_time)`. -/
def invokeLater (now fireTime posted : ℤ) (address : ℕ) : Except AlarmFault Alarm := do
  require (s.queuedFire = none) .queuedFire
  return { s with
    nextFireTime := fireTime
    queuedFire := some address
    functors := update s.functors address (some ⟨true, some (posted + (fireTime - now))⟩) }

/-- The task becomes the scheduled one. -/
def setTask (desired now : ℤ) : Alarm :=
  { s with
    scheduledTask := some s.issued
    alarmTime := max now desired
    issued := s.issued + 1
    history := s.history ++ [.scheduled s.issued desired] }

/-- `ScheduleWithTask(task, desired_alarm_time)`. -/
def scheduleWithTask (desired now posted : ℤ) (address : ℕ) :
    Except AlarmFault Alarm := do
  let s := s.setTask desired now
  if s.queuedFire ≠ none ∧ s.nextFireTime ≤ s.alarmTime then return s
  let s ← s.cancelQueued
  s.invokeLater now s.alarmTime posted address

/-- `Cancel()`. -/
def cancel : Alarm :=
  { s with scheduledTask := none, history := s.history ++ [.canceled] }

/-- The destructor of an alarm. -/
def destroy : Except AlarmFault Alarm := do
  let s ← s.cancelQueued
  return { s with alive := false, scheduledTask := none, history := s.history ++ [.destroyed] }

/-- `TryInvoke()`. What the task does then are steps of their own. -/
def tryInvoke (now posted : ℤ) (address : ℕ) : Except AlarmFault Alarm :=
  match s.scheduledTask with
  | none => .ok s
  | some task =>
    if now < s.alarmTime then s.invokeLater now s.alarmTime posted address
    else .ok { s with scheduledTask := none, history := s.history ++ [.ran task now] }

/-- The call operator of a functor, up to where `TryInvoke()` returns or runs the task. -/
def runFunctor (fired : ℕ) (now posted : ℤ) (address : ℕ) : Except AlarmFault Alarm :=
  match s.functors fired with
  | none => .error .dangling
  | some functor =>
    let s := { s with
      running := some fired
      functors := update s.functors fired (some { functor with due := none }) }
    if functor.alarm then do
      require (s.alive = true) .dangling
      require (s.queuedFire = some fired) .notQueued
      tryInvoke { s with queuedFire := none } now posted address
    else .ok s

/-- One step. -/
def step : AlarmOp → Except AlarmFault Alarm
  | .schedule desired now posted address => s.scheduleWithTask desired now posted address
  | .cancel => .ok s.cancel
  | .destroy => s.destroy
  | .construct source target => s.moveFunctor source target
  | .assign source target => s.assignFunctor source target
  | .free address => do
    let s ← s.cancelFunctor address
    return { s with functors := update s.functors address none }
  | .run fired now posted address => s.runFunctor fired now posted address
  -- the call operator forgets the alarm, which may be gone
  | .finish fired =>
    .ok { s with running := none, functors := update s.functors fired (some ⟨false, none⟩) }

/-- There is a functor at the address that is not running, and not in the queue any more. -/
def isDone (address : ℕ) : Prop :=
  (s.functors address).any (·.due.isNone) = true ∧ s.running ≠ some address

instance (address : ℕ) : Decidable (s.isDone address) :=
  inferInstanceAs (Decidable (_ ∧ _))

/-- What can happen: the client uses an alarm that exists, functors are constructed where there are
none, and the task runner runs each of them once, when it is due, and keeps it in memory until it
has run. -/
def Allows : AlarmOp → Prop
  | .schedule _ now posted address =>
    s.alive = true ∧ now ≤ posted ∧ s.functors address = none
  | .cancel | .destroy => s.alive = true
  | .construct source target =>
    (s.functors source).isSome = true ∧ s.running ≠ some source ∧ s.functors target = none
  | .assign source target =>
    (s.functors source).isSome = true ∧ s.running ≠ some source ∧ s.isDone target ∧ source ≠ target
  | .free address => s.isDone address
  | .run fired now posted address =>
    (s.functors fired).any (·.due.any (· ≤ now)) = true ∧ s.running = none ∧ now ≤ posted ∧
      s.functors address = none
  | .finish fired => s.running = some fired

instance (op : AlarmOp) : Decidable (s.Allows op) := by
  cases op <;> unfold Allows <;> infer_instance

/-! ### The pointers -/

variable {s t : Alarm} {now posted : ℤ} {address source target : ℕ} {functor : CancelableFunctor}

/-- What may be at an address: nothing, the functor that is queued, the one that runs, or one that
belongs to no alarm. Only the functor that runs may point to an alarm that does not know it. -/
inductive Held (alive : Bool) (nextFireTime : ℤ) (slot : Option CancelableFunctor)
    (queued running : Prop) : Prop
  | free : slot = none → ¬queued → ¬running → Held alive nextFireTime slot queued running
  | queued (due : ℤ) : slot = some ⟨true, some due⟩ → queued → ¬running → alive = true →
      nextFireTime ≤ due → Held alive nextFireTime slot queued running
  | running (alarm : Bool) : slot = some ⟨alarm, none⟩ → ¬queued → running →
      Held alive nextFireTime slot queued running
  | canceled (due : Option ℤ) : slot = some ⟨false, due⟩ → ¬queued → ¬running →
      Held alive nextFireTime slot queued running

/-- Where no functor is queued, the alarm does not matter. -/
theorem Held.of_not_queued {alive alive' : Bool} {time time' : ℤ}
    {slot : Option CancelableFunctor} {running : Prop} (h : Held alive time slot False running) :
    Held alive' time' slot False running := by
  cases h with
  | free hslot _ hrunning => exact .free hslot id hrunning
  | queued _ _ hqueued => exact hqueued.elim
  | running alarm hslot _ hrunning => exact .running alarm hslot id hrunning
  | canceled due hslot _ hrunning => exact .canceled due hslot id hrunning

/-- The alarm and its functor point to each other. -/
structure Linked (s : Alarm) : Prop where
  held : ∀ a, Held s.alive s.nextFireTime (s.functors a) (s.queuedFire = some a)
    (s.running = some a)

section

variable (h : s.Linked)
include h

theorem Linked.queued (hqueued : s.queuedFire = some address) :
    s.alive = true ∧ s.running ≠ some address ∧
      ∃ due, s.functors address = some ⟨true, some due⟩ ∧ s.nextFireTime ≤ due := by
  cases h.held address with
  | free _ hother => exact absurd hqueued hother
  | queued due hfunctor _ hrunning halive hdue => exact ⟨halive, hrunning, due, hfunctor, hdue⟩
  | running _ _ hother => exact absurd hqueued hother
  | canceled _ _ hother => exact absurd hqueued hother

/-- A functor in memory that is not running belongs to the queue pointer, or to no alarm. -/
theorem Linked.queuedFire_of_alarm
    (hfunctor : s.functors address = some functor) (halarm : functor.alarm = true)
    (hrunning : s.running ≠ some address) : s.queuedFire = some address := by
  cases h.held address with
  | free hnone => cases hfunctor.symm.trans hnone
  | queued _ _ hqueued => exact hqueued
  | running _ _ _ hother => exact absurd hother hrunning
  | canceled _ hcanceled =>
    cases hfunctor.symm.trans hcanceled
    cases halarm

/-- Where no functor is, none is queued, and none runs. -/
theorem Linked.ne_of_free (hfree : s.functors address = none) :
    s.queuedFire ≠ some address ∧ s.running ≠ some address := by
  cases h.held address with
  | free _ hqueued hrunning => exact ⟨hqueued, hrunning⟩
  | queued _ hfunctor => cases hfree.symm.trans hfunctor
  | running _ hfunctor => cases hfree.symm.trans hfunctor
  | canceled _ hfunctor => cases hfree.symm.trans hfunctor

/-- Canceling the functor that is queued. -/
theorem Linked.cancelFunctor (hqueued : s.queuedFire = some address) :
    ∃ functor, s.cancelFunctor address = .ok { s with
        queuedFire := none
        functors := update s.functors address (some functor) } ∧
      Linked { s with
        queuedFire := none
        functors := update s.functors address (some functor) } := by
  obtain ⟨halive, hrunning, due, hfunctor, -⟩ := h.queued hqueued
  refine ⟨⟨false, some due⟩, ?_, ⟨fun a => ?_⟩⟩
  · simp only [Alarm.cancelFunctor, hfunctor, ↓reduceIte, require_of halive, require_of hqueued]
    rfl
  · by_cases heq : a = address
    · subst heq
      exact .canceled (some due) (update_self _ _ _) nofun hrunning
    · simpa [heq, hqueued, Ne.symm heq] using h.held a

/-- Afterwards no functor is queued. -/
theorem Linked.cancelQueued :
    ∃ functors, s.cancelQueued = .ok { s with queuedFire := none, functors } ∧
      Linked { s with queuedFire := none, functors } ∧
      ∀ a, s.functors a = none → functors a = none := by
  rcases hqueued : s.queuedFire with _ | a
  · have hself : { s with queuedFire := none, functors := s.functors } = s := by rw [← hqueued]
    refine ⟨s.functors, ?_, ?_, fun _ => id⟩
    · simp only [hself, Alarm.cancelQueued, hqueued]
    · rwa [hself]
  · obtain ⟨functor, hcancel, hlinked⟩ := h.cancelFunctor hqueued
    refine ⟨_, ?_, hlinked, fun b hb => ?_⟩
    · simp only [Alarm.cancelQueued, hqueued]
      rw [hcancel, ok_bind, require_of rfl]
      rfl
    · have hne : b ≠ a := by
        rintro rfl
        exact (h.ne_of_free hb).1 hqueued
      exact (update_of_ne hne _ _).trans hb

/-- Posting a functor. -/
theorem Linked.invokeLater (fireTime : ℤ) (halive : s.alive = true) (hnone : s.queuedFire = none)
    (hfresh : s.functors address = none) (hposted : now ≤ posted) :
    ∃ functors, s.invokeLater now fireTime posted address = .ok { s with
        nextFireTime := fireTime
        queuedFire := some address
        functors } ∧
      Linked { s with nextFireTime := fireTime, queuedFire := some address, functors } := by
  refine ⟨update s.functors address (some ⟨true, some (posted + (fireTime - now))⟩), ?_,
    ⟨fun a => ?_⟩⟩
  · rw [Alarm.invokeLater, require_of hnone]
    rfl
  · by_cases heq : a = address
    · subst heq
      exact .queued _ (update_self _ _ _) rfl (h.ne_of_free hfresh).2 halive (by dsimp only; omega)
    · have hother := h.held a
      simp only [hnone, reduceCtorEq] at hother
      simpa [heq, Ne.symm heq] using hother.of_not_queued

/-- Moving a functor to where there is none, or one that belongs to no alarm. -/
theorem Linked.moveFunctor (hsource : (s.functors source).isSome = true)
    (hrunning : s.running ≠ some source) (hne : source ≠ target) (htarget : s.running ≠ some target)
    (hdead : s.queuedFire ≠ some target) :
    ∃ queuedFire functors, s.moveFunctor source target = .ok { s with queuedFire, functors } ∧
      Linked { s with queuedFire, functors } ∧ (s.queuedFire ≠ none → queuedFire ≠ none) := by
  obtain ⟨functor, hfunctor⟩ := Option.isSome_iff_exists.mp hsource
  have hmoved : ∀ queuedFire, (∀ a, a ≠ source → a ≠ target →
        (queuedFire = some a ↔ s.queuedFire = some a)) → queuedFire ≠ some source →
      Held s.alive s.nextFireTime (some functor) (queuedFire = some target) False →
      Linked { s with
        queuedFire
        functors := update (update s.functors source (some ⟨false, none⟩)) target
          (some functor) } := by
    intro queuedFire hqueued hleft hheld
    refine ⟨fun a => ?_⟩
    by_cases hat : a = target
    · subst hat
      simpa [htarget] using hheld
    by_cases hfrom : a = source
    · subst hfrom
      refine .canceled none ?_ hleft hrunning
      simp [hat]
    · simpa [hat, hfrom, hqueued a hfrom hat] using h.held a
  cases halarm : functor.alarm with
  | false =>
    have hother : s.queuedFire ≠ some source := by
      intro hqueued
      obtain ⟨-, -, due, hfunctor', -⟩ := h.queued hqueued
      cases hfunctor.symm.trans hfunctor'
      cases halarm
    refine ⟨_, _, ?_, hmoved s.queuedFire (fun _ _ _ => .rfl) hother
      (.canceled functor.due (by rw [← halarm]) hdead id), id⟩
    simp only [Alarm.moveFunctor, hfunctor, halarm, Bool.false_eq_true, ↓reduceIte]
    rfl
  | true =>
    have hqueued := h.queuedFire_of_alarm hfunctor halarm hrunning
    obtain ⟨halive, -, due, hfunctor', hdue⟩ := h.queued hqueued
    cases hfunctor.symm.trans hfunctor'
    refine ⟨_, _, ?_, hmoved (some target) (fun a ha hb => ?_) ?_
      (.queued due rfl rfl id halive hdue), nofun⟩
    · simp only [Alarm.moveFunctor, hfunctor, ↓reduceIte, require_of halive, require_of hqueued]
      rfl
    · simp [hqueued, Ne.symm ha, Ne.symm hb]
    · simpa using hne.symm

/-- A functor that is done belongs to no alarm. -/
theorem Linked.canceled_of_isDone (hdone : s.isDone address) :
    ∃ due, s.functors address = some ⟨false, due⟩ ∧ s.queuedFire ≠ some address := by
  obtain ⟨functor, hfunctor, hdue⟩ := (Option.any_eq_true _ _).mp hdone.1
  cases h.held address with
  | free hfree => cases hfunctor.symm.trans hfree
  | queued _ hqueued =>
    cases hfunctor.symm.trans hqueued
    cases hdue
  | running _ _ _ hrunning => exact absurd hrunning hdone.2
  | canceled due hcanceled hqueued => exact ⟨due, hcanceled, hqueued⟩

/-- Canceling it again changes nothing. -/
theorem Linked.cancelFunctor_of_isDone (hdone : s.isDone address) :
    s.cancelFunctor address = .ok s := by
  obtain ⟨due, hfunctor, -⟩ := h.canceled_of_isDone hdone
  simp only [Alarm.cancelFunctor, hfunctor, Bool.false_eq_true, ↓reduceIte]

/-- Its memory is freed. -/
theorem Linked.free (hdone : s.isDone address) :
    Linked { s with functors := update s.functors address none } := by
  refine ⟨fun a => ?_⟩
  by_cases heq : a = address
  · subst heq
    obtain ⟨-, -, hqueued⟩ := h.canceled_of_isDone hdone
    exact .free (update_self _ _ _) hqueued hdone.2
  · simpa [heq] using h.held a

/-- A functor starts to run. -/
theorem Linked.start (hidle : s.running = none) (address : ℕ) (functor : CancelableFunctor) :
    Linked { s with
      queuedFire := if s.queuedFire = some address then none else s.queuedFire
      running := some address
      functors := update s.functors address (some { functor with due := none }) } := by
  refine ⟨fun a => ?_⟩
  by_cases heq : a = address
  · subst heq
    refine .running functor.alarm (update_self _ _ _) ?_ rfl
    split_ifs with hqueued
    · nofun
    · exact hqueued
  · have hqueued : (if s.queuedFire = some address then none else s.queuedFire) = some a ↔
        s.queuedFire = some a := by
      split_ifs with hqueued
      · simp [hqueued, Ne.symm heq]
      · rfl
    simpa [heq, hqueued, hidle, Ne.symm heq] using h.held a

/-- A functor has run. -/
theorem Linked.finish (hrunning : s.running = some address) :
    Linked { s with
      running := none
      functors := update s.functors address (some ⟨false, none⟩) } := by
  refine ⟨fun a => ?_⟩
  by_cases heq : a = address
  · subst heq
    refine .canceled none (update_self _ _ _) (fun hqueued => ?_) nofun
    exact (h.queued hqueued).2.1 hrunning
  · simpa [heq, hrunning, Ne.symm heq] using h.held a

end

end Alarm

/-! ### The tasks -/

namespace AlarmEvent

/-- The task that was scheduled. -/
def scheduledTask? : AlarmEvent → Option ℕ
  | scheduled task _ => some task
  | _ => none

/-- The task that ran. -/
def ranTask? : AlarmEvent → Option ℕ
  | ran task _ => some task
  | _ => none

/-- A task runs only if the last that happened is that it was scheduled, for a time that has
come. -/
def Follows (history : List AlarmEvent) : AlarmEvent → Prop
  | ran task now => ∃ desired ≤ now, history.getLast? = some (scheduled task desired)
  | _ => True

end AlarmEvent

namespace Alarm

variable {s t : Alarm} {op : AlarmOp} {now posted : ℤ} {address fired task : ℕ}

/-- The tasks that ran, and the one that is scheduled. -/
def tasks (s : Alarm) : List ℕ := s.history.filterMap AlarmEvent.ranTask? ++ s.scheduledTask.toList

/-- **What an alarm guarantees**: tasks are numbered as they are scheduled, each of them runs at
most once, as the last one that was scheduled and not before its time, and while one is scheduled
there is a functor in the queue of the task runner, for its time or for an earlier one. -/
structure Sound (s : Alarm) : Prop where
  numbered : s.history.filterMap AlarmEvent.scheduledTask? = List.range s.issued
  once : (s.history.filterMap AlarmEvent.ranTask?).Nodup
  follows : Explained AlarmEvent.Follows s.history
  queued : s.scheduledTask ≠ none → s.nextFireTime ≤ s.alarmTime ∧
    ∃ a due, s.queuedFire = some a ∧ s.functors a = some ⟨true, some due⟩ ∧ s.nextFireTime ≤ due

/-- What is kept about the tasks, whatever is queued. -/
structure Tracked (s : Alarm) : Prop where
  numbered : s.history.filterMap AlarmEvent.scheduledTask? = List.range s.issued
  distinct : s.tasks.Nodup ∧ ∀ task ∈ s.tasks, task < s.issued
  follows : Explained AlarmEvent.Follows s.history
  latest : ∀ task ∈ s.scheduledTask, ∃ desired ≤ s.alarmTime,
    s.history.getLast? = some (.scheduled task desired)

/-- The invariant: the pointers are right, and there is a functor for the task. -/
structure Invariant (s : Alarm) : Prop extends Linked s, Tracked s where
  pending : s.scheduledTask ≠ none → s.queuedFire ≠ none ∧ s.nextFireTime ≤ s.alarmTime

theorem Invariant.sound (h : s.Invariant) : s.Sound := by
  refine ⟨h.numbered, (List.nodup_append.mp h.distinct.1).1, h.follows, fun htask => ?_⟩
  obtain ⟨hqueued, hle⟩ := h.pending htask
  obtain ⟨a, ha⟩ := Option.ne_none_iff_exists'.mp hqueued
  obtain ⟨-, -, due, hfunctor, hdue⟩ := h.queued ha
  exact ⟨hle, a, due, ha, hfunctor, hdue⟩

theorem invariant_empty : Invariant {} where
  held _ := .free rfl nofun nofun
  numbered := rfl
  distinct := ⟨.nil, nofun⟩
  follows := explained_nil
  latest := nofun
  pending h := absurd rfl h

/-- Another task is scheduled. -/
theorem Tracked.setTask (h : s.Tracked) (desired now : ℤ) : (s.setTask desired now).Tracked := by
  have hran : (s.history ++ [AlarmEvent.scheduled s.issued desired]).filterMap AlarmEvent.ranTask? =
      s.history.filterMap AlarmEvent.ranTask? := by
    rw [List.filterMap_append]
    exact List.append_nil _
  have hlt : ∀ task ∈ s.history.filterMap AlarmEvent.ranTask?, task < s.issued := fun task htask =>
    h.distinct.2 task (List.mem_append_left _ htask)
  refine ⟨?_, ⟨?_, ?_⟩, explained_append_singleton.mpr ⟨h.follows, trivial⟩, fun task htask => ?_⟩
  · rw [Alarm.setTask, List.filterMap_append, h.numbered, List.range_succ]
    rfl
  · rw [tasks, Alarm.setTask, hran]
    refine List.nodup_append.mpr ⟨(List.nodup_append.mp h.distinct.1).1, List.nodup_singleton _,
      fun task htask other hother => ?_⟩
    rw [List.mem_singleton.mp hother]
    exact (hlt task htask).ne
  · rw [tasks, Alarm.setTask, hran]
    exact List.forall_mem_append.mpr ⟨fun task htask => (hlt task htask).trans (Nat.lt_succ_self _),
      List.forall_mem_singleton.mpr (Nat.lt_succ_self _)⟩
  · cases htask
    exact ⟨desired, le_max_right _ _, List.getLast?_concat⟩

/-- The task is given up. -/
theorem Tracked.drop (h : s.Tracked) (event : AlarmEvent) (hscheduled : event.scheduledTask? = none)
    (hran : event.ranTask? = none) (hfollows : event.Follows s.history) :
    Tracked { s with scheduledTask := none, history := s.history ++ [event] } := by
  have hsub : (tasks { s with scheduledTask := none, history := s.history ++ [event] }).Sublist
      s.tasks := by
    simp only [tasks, List.filterMap_append, List.filterMap_cons, hran, List.filterMap_nil,
      List.append_nil, Option.toList_none]
    exact List.sublist_append_left _ _
  refine ⟨?_, ⟨h.distinct.1.sublist hsub, fun task htask => h.distinct.2 task (hsub.subset htask)⟩,
    explained_append_singleton.mpr ⟨h.follows, hfollows⟩, nofun⟩
  simp only [List.filterMap_append, List.filterMap_cons, hscheduled, List.filterMap_nil,
    List.append_nil, h.numbered]

/-- The task runs. -/
theorem Tracked.ran (h : s.Tracked) (htask : s.scheduledTask = some task)
    (hnow : s.alarmTime ≤ now) :
    Tracked { s with scheduledTask := none, history := s.history ++ [.ran task now] } := by
  have htasks : tasks { s with scheduledTask := none, history := s.history ++ [.ran task now] } =
      s.tasks := by
    rw [tasks, tasks, htask, List.filterMap_append]
    exact List.append_nil _
  obtain ⟨desired, hle, hlast⟩ := h.latest task htask
  refine ⟨?_, htasks ▸ h.distinct, explained_append_singleton.mpr
    ⟨h.follows, desired, hle.trans hnow, hlast⟩, nofun⟩
  rw [List.filterMap_append, h.numbered]
  exact List.append_nil _

/-- Nothing happens to the tasks. -/
theorem Tracked.congr (h : s.Tracked) (htask : t.scheduledTask = s.scheduledTask)
    (htime : t.alarmTime = s.alarmTime) (hissued : t.issued = s.issued)
    (hhistory : t.history = s.history) : t.Tracked := by
  obtain ⟨hnumbered, htasks, hfollows, hlatest⟩ := h
  refine ⟨?_, ?_, ?_, ?_⟩
  · rwa [hhistory, hissued]
  · rwa [tasks, hhistory, htask, hissued]
  · rwa [hhistory]
  · rwa [hhistory, htask, htime]

/-! ### What the steps keep -/

/-- `ScheduleWithTask`. -/
theorem Invariant.scheduleWithTask (h : s.Invariant) (halive : s.alive = true)
    (hposted : now ≤ posted) (hfresh : s.functors address = none) (desired : ℤ) :
    ∃ t, s.scheduleWithTask desired now posted address = .ok t ∧ t.Invariant := by
  have htracked := h.toTracked.setTask desired now
  have hlinked : (s.setTask desired now).Linked := ⟨h.held⟩
  unfold Alarm.scheduleWithTask
  dsimp only
  split_ifs with hkeep
  · -- the functor that is queued is early enough
    exact ⟨_, rfl, hlinked, htracked, fun _ => hkeep⟩
  · obtain ⟨functors, hcancel, hlinked, hnone⟩ := hlinked.cancelQueued
    obtain ⟨functors', hpost, hlinked⟩ := hlinked.invokeLater (s.setTask desired now).alarmTime
      halive rfl (hnone address hfresh) hposted
    rw [hcancel, ok_bind]
    exact ⟨_, hpost, hlinked, htracked.congr rfl rfl rfl rfl, fun _ => ⟨nofun, le_rfl⟩⟩

/-- The destructor. -/
theorem Invariant.destroy (h : s.Invariant) : ∃ t, s.destroy = .ok t ∧ t.Invariant := by
  obtain ⟨functors, hcancel, hlinked, -⟩ := h.toLinked.cancelQueued
  rw [Alarm.destroy, hcancel, ok_bind]
  have hheld := hlinked.held
  simp only [reduceCtorEq] at hheld
  exact ⟨_, rfl, ⟨fun a => by simpa using (hheld a).of_not_queued⟩,
    (h.toTracked.drop .destroyed rfl rfl trivial).congr rfl rfl rfl rfl,
    fun hne => absurd rfl hne⟩

/-- What becomes of the task when the functor that is queued for it runs: before its time another
functor is queued for that time, and otherwise the task runs. -/
def Fires (s : Alarm) (task : ℕ) (now : ℤ) (t : Alarm) : Prop :=
  if now < s.alarmTime then t.scheduledTask = some task ∧ t.alarmTime = s.alarmTime ∧
    t.nextFireTime = s.alarmTime ∧ t.history = s.history
  else t.history = s.history ++ [.ran task now]

/-- `TryInvoke`, when no functor is queued. -/
theorem Linked.tryInvoke (h : s.Linked) (htracked : s.Tracked) (halive : s.alive = true)
    (hnone : s.queuedFire = none) (hposted : now ≤ posted) (hfresh : s.functors address = none) :
    ∃ t, s.tryInvoke now posted address = .ok t ∧ t.Invariant ∧
      ∀ task ∈ s.scheduledTask, s.Fires task now t := by
  unfold Alarm.tryInvoke Fires
  split
  · rename_i htask
    refine ⟨s, rfl, ⟨h, htracked, fun hne => absurd htask hne⟩, fun task htask' => ?_⟩
    cases htask.symm.trans htask'
  · rename_i task htask
    split_ifs with hearly
    · -- too early, so another functor is posted
      obtain ⟨functors, hpost, hlinked⟩ := h.invokeLater s.alarmTime halive hnone hfresh
        hposted
      exact ⟨_, hpost, ⟨hlinked, htracked.congr rfl rfl rfl rfl, fun _ => ⟨nofun, le_rfl⟩⟩,
        fun task' htask' => ⟨htask', rfl, rfl, rfl⟩⟩
    · refine ⟨_, rfl, ⟨⟨h.held⟩, htracked.ran htask (not_lt.mp hearly),
        fun hne => absurd rfl hne⟩, fun task' htask' => ?_⟩
      cases htask.symm.trans htask'
      rfl

/-- What a functor does that runs. -/
theorem Invariant.runFunctor (h : s.Invariant) (hdue : (s.functors fired).isSome = true)
    (hidle : s.running = none) (hposted : now ≤ posted) (hfresh : s.functors address = none) :
    ∃ t, s.runFunctor fired now posted address = .ok t ∧ t.Invariant ∧
      ∀ task ∈ s.scheduledTask, s.queuedFire = some fired → s.Fires task now t := by
  obtain ⟨functor, hfunctor⟩ := Option.isSome_iff_exists.mp hdue
  have hlinked := h.toLinked.start hidle fired functor
  simp only [Alarm.runFunctor, hfunctor]
  cases halarm : functor.alarm with
  | false =>
    -- it was canceled
    have hother : s.queuedFire ≠ some fired := by
      intro hqueued
      obtain ⟨-, -, due, hfunctor', -⟩ := h.queued hqueued
      cases hfunctor.symm.trans hfunctor'
      cases halarm
    rw [if_neg hother, halarm] at hlinked
    simp only [Bool.false_eq_true, ↓reduceIte]
    exact ⟨_, rfl, ⟨hlinked, h.toTracked.congr rfl rfl rfl rfl, h.pending⟩,
      fun task _ hqueued => absurd hqueued hother⟩
  | true =>
    have hqueued := h.queuedFire_of_alarm hfunctor halarm (by rw [hidle]; nofun)
    obtain ⟨halive, -⟩ := h.queued hqueued
    have hne : address ≠ fired := by
      rintro rfl
      cases hfresh.symm.trans hfunctor
    rw [if_pos hqueued, halarm] at hlinked
    simp only [↓reduceIte, require_of halive, require_of hqueued, ok_bind]
    obtain ⟨t, ht, hinv, hresult⟩ := hlinked.tryInvoke (h.toTracked.congr rfl rfl rfl rfl)
      halive rfl
      hposted ((update_of_ne hne _ _).trans hfresh)
    exact ⟨t, ht, hinv, fun task htask _ => hresult task htask⟩

/-- **One step** that can happen keeps the invariant, and no assertion fails. -/
theorem Invariant.step (h : s.Invariant) (hop : s.Allows op) :
    ∃ t, s.step op = .ok t ∧ t.Invariant := by
  cases op with
  | schedule desired now posted address =>
    exact h.scheduleWithTask hop.1 hop.2.1 hop.2.2 desired
  | cancel =>
    exact ⟨_, rfl, ⟨h.held⟩, h.toTracked.drop _ rfl rfl trivial,
      fun hne => absurd rfl hne⟩
  | destroy => exact h.destroy
  | construct source target =>
    obtain ⟨hsource, hrunning, htarget⟩ := hop
    have hne : source ≠ target := by
      rintro rfl
      rw [htarget] at hsource
      cases hsource
    obtain ⟨hfree, hidle⟩ := h.ne_of_free htarget
    obtain ⟨queuedFire, functors, hmove, hlinked, hqueued⟩ :=
      h.toLinked.moveFunctor hsource hrunning hne hidle hfree
    exact ⟨_, hmove, hlinked, h.toTracked.congr rfl rfl rfl rfl,
      fun htask => ⟨hqueued (h.pending htask).1, (h.pending htask).2⟩⟩
  | assign source target =>
    obtain ⟨hsource, hrunning, htarget, hne⟩ := hop
    obtain ⟨-, -, hother⟩ := h.canceled_of_isDone htarget
    obtain ⟨queuedFire, functors, hmove, hlinked, hqueued⟩ :=
      h.toLinked.moveFunctor hsource hrunning hne htarget.2 hother
    refine ⟨_, ?_, hlinked, h.toTracked.congr rfl rfl rfl rfl,
      fun htask => ⟨hqueued (h.pending htask).1, (h.pending htask).2⟩⟩
    rw [Alarm.step, assignFunctor, h.toLinked.cancelFunctor_of_isDone htarget, ok_bind, hmove]
  | free address =>
    refine ⟨_, ?_, h.toLinked.free hop, h.toTracked.congr rfl rfl rfl rfl, h.pending⟩
    rw [Alarm.step, h.toLinked.cancelFunctor_of_isDone hop, ok_bind]
    rfl
  | run fired now posted address =>
    obtain ⟨hdue, hidle, hposted, hfresh⟩ := hop
    obtain ⟨functor, hfunctor, -⟩ := (Option.any_eq_true _ _).mp hdue
    obtain ⟨t, hrun, ht, -⟩ := h.runFunctor (Option.isSome_iff_exists.mpr ⟨functor, hfunctor⟩) hidle
      hposted hfresh
    exact ⟨t, hrun, ht⟩
  | finish fired =>
    exact ⟨_, rfl, h.toLinked.finish hop, h.toTracked.congr rfl rfl rfl rfl, h.pending⟩

/-! ### Runs -/

/-- **The semantics of an alarm.** In every run of its client and of the task runner it keeps its
guarantees, and no assertion fails in any next step. When the functor that is queued for a task runs
before the time of the task, another one is queued for that time, and otherwise, as always if the
functor was queued for that time, the task runs. -/
theorem sound_of_run {ops : List AlarmOp}
    (hrun : Run (fun s op t => Alarm.Allows s op ∧ s.step op = .ok t) {} ops s) :
    s.Sound ∧ (∀ op, s.Allows op → ∃ t, s.step op = .ok t) ∧
      ∀ task ∈ s.scheduledTask, ∀ fired ∈ s.queuedFire, ∀ now posted address t,
        s.Allows (.run fired now posted address) → s.step (.run fired now posted address) = .ok t →
        (now < s.alarmTime → t.scheduledTask = some task ∧ t.alarmTime = s.alarmTime ∧
          t.nextFireTime = s.alarmTime ∧ t.history = s.history) ∧
        (s.alarmTime ≤ now ∨ s.nextFireTime = s.alarmTime →
          t.history = s.history ++ [.ran task now]) := by
  have h : s.Invariant := hrun.invariant (fun s op t hs hstep => by
    obtain ⟨u, hu, hinv⟩ := hs.step hstep.1
    cases hu.symm.trans hstep.2
    exact hinv) invariant_empty
  refine ⟨h.sound, fun op hop => ?_, fun task htask fired hfired now posted address t hop
    hstep => ?_⟩
  · obtain ⟨t, ht, -⟩ := h.step hop
    exact ⟨t, ht⟩
  · obtain ⟨hdue, hidle, hposted, hfresh⟩ := hop
    obtain ⟨functor, hfunctor, hdue⟩ := (Option.any_eq_true _ _).mp hdue
    obtain ⟨u, hu, -, hresult⟩ :=
      h.runFunctor (Option.isSome_iff_exists.mpr ⟨functor, hfunctor⟩) hidle
      hposted hfresh
    cases hu.symm.trans hstep
    have hresult := hresult task htask hfired
    unfold Fires at hresult
    -- the functor is not run before its own time
    have hfire : s.nextFireTime ≤ now := by
      obtain ⟨-, -, due, hfunctor', hle⟩ := h.queued hfired
      cases hfunctor.symm.trans hfunctor'
      exact hle.trans (of_decide_eq_true hdue)
    refine ⟨fun hearly => ?_, fun hlate => ?_⟩
    · rwa [if_pos hearly] at hresult
    · rwa [if_neg (by rcases hlate with hlate | hlate <;> omega)] at hresult

/-- A task that is scheduled again runs once, when a functor runs at its time. -/
theorem sound_scheduledAgain :
    ∃ s, Run (fun s op t => Alarm.Allows s op ∧ s.step op = .ok t) {}
        [.schedule 10 0 0 0, .schedule 20 5 5 1, .run 0 12 12 1, .finish 0, .run 1 20 20 2] s ∧
      s.Sound ∧ s.history = [.scheduled 0 10, .scheduled 1 20, .ran 1 20] := by
  have hrun : Run (fun s op t => Alarm.Allows s op ∧ s.step op = .ok t) {}
      [.schedule 10 0 0 0, .schedule 20 5 5 1, .run 0 12 12 1, .finish 0, .run 1 20 20 2] _ :=
    ((((Run.nil.snoc ⟨by decide, rfl⟩).snoc ⟨by decide, rfl⟩).snoc ⟨by decide, rfl⟩).snoc
      ⟨by decide, rfl⟩).snoc ⟨by decide, rfl⟩
  exact ⟨_, hrun, (sound_of_run hrun).1, rfl⟩

end Alarm

end StreamerPlus
