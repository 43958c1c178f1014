import Mathlib.Data.List.Nodup
import Mathlib.Data.List.Range
import StreamerPlus.Lib.Multimap
import StreamerPlus.Lib.Outcome
import StreamerPlus.Lib.Run

/-!
# `TaskRunnerImpl`

The task runner (`platform/impl/task_runner.cc`) takes tasks from any thread, and runs them on the
one that is in `RunUntilStopped()`. Tasks wait in three containers: those that can be run, those
that are delayed, and the ones the loop has taken for its current round. What a thread does while it
holds the mutex is one step, and so is each task that is run, so that tasks may post further ones
between the steps of the loop.

The state also has the tasks that were posted and those that ran, with the time. The clock does not
go backwards.

## Main results

* `ordered_of_run`: tasks run once, in the order of their posts or of their due times, delayed ones
  not early; and when `RunUntilStopped()` returns, no task without a delay is left.
-/

namespace StreamerPlus.Platform

open Checked TransitionSystem

/-- A task, with the number of its post, the time it is due if it was posted with a delay, and
whether it is the one of `RequestStopSoon()`. -/
structure Task where
  id : ℕ
  due : Option ℤ
  stop : Bool
  deriving DecidableEq, Repr

/-- Where the thread in `RunUntilStopped()` is: outside, at the head of the main loop, before or
after it takes tasks there, and the same in the flushing phase. -/
inductive Phase
  | idle | head | grab | run | flushGrab | flushRun
  deriving DecidableEq, Repr

/-- The assertions of the loop. -/
inductive TaskRunnerFault
  | isRunning | runningTasks
  deriving DecidableEq, Repr

/-- The state of a task runner. -/
structure TaskRunner where
  phase : Phase := .idle
  isRunning : Bool := false
  tasks : List Task := []
  delayedTasks : Multimap ℤ Task := ∅
  runningTasks : List Task := []
  clock : ℤ := 0
  posted : List Task := []
  ran : List (Task × ℤ) := []

/-- A post from any thread, the call of `RunUntilStopped()`, and a step of the loop. -/
inductive RunnerOp
  | post (stop : Bool)
  | postWithDelay (now delay : ℤ)
  | start
  | advance (now : ℤ)
  deriving DecidableEq, Repr

namespace TaskRunner

variable (s : TaskRunner)

/-- The task is added to those that can be run. -/
def emplaceBack (stop : Bool) : TaskRunner :=
  let task : Task := ⟨s.posted.length, none, stop⟩
  { s with tasks := s.tasks ++ [task], posted := s.posted ++ [task] }

/-- `PostPackagedTaskWithDelay(task, delay)`. -/
def postPackagedTaskWithDelay (now delay : ℤ) : TaskRunner :=
  if delay ≤ 0 then s.emplaceBack false
  else
    let task : Task := ⟨s.posted.length, some (now + delay), false⟩
    { s with
      delayedTasks := s.delayedTasks.emplace (now + delay) task
      posted := s.posted ++ [task]
      clock := now }

/-- `ScheduleDelayedTasks()`. -/
def scheduleDelayedTasks (now : ℤ) : TaskRunner :=
  { s with
    tasks := s.tasks ++ (s.delayedTasks.upTo now).map Prod.snd
    delayedTasks := s.delayedTasks.eraseUpTo now
    clock := now }

/-- `GrabMoreRunnableTasks()`. When there are none it may wait, and others may post meanwhile. -/
def grabMoreRunnableTasks : Except TaskRunnerFault (Bool × TaskRunner) := do
  require (s.runningTasks = []) .runningTasks
  if s.tasks ≠ [] then return (true, { s with tasks := [], runningTasks := s.tasks })
  else return (false, s)

/-- One round of the loop of `RunRunnableTasks()`: the next task is run, or the loop ends. -/
def runRunnableTask (now : ℤ) (next : Phase) : TaskRunner :=
  match s.runningTasks with
  | [] => { s with phase := next }
  | task :: rest =>
    { s with
      runningTasks := rest
      isRunning := s.isRunning && !task.stop
      ran := s.ran ++ [(task, now)]
      clock := now }

/-- What the thread in `RunUntilStopped()` does next. -/
def advance (now : ℤ) : Except TaskRunnerFault TaskRunner :=
  match s.phase with
  | .idle => .ok s
  | .head =>
    if s.isRunning then .ok { s.scheduleDelayedTasks now with phase := .grab }
    else .ok { s with phase := .flushGrab }
  | .grab => do
    let (grabbed, s) ← s.grabMoreRunnableTasks
    return { s with phase := if grabbed then .run else .head }
  | .run => .ok (s.runRunnableTask now .head)
  | .flushGrab => do
    let (grabbed, s) ← s.grabMoreRunnableTasks
    return { s with phase := if grabbed then .flushRun else .idle }
  | .flushRun => .ok (s.runRunnableTask now .flushGrab)

/-- One step. -/
def step : RunnerOp → Except TaskRunnerFault TaskRunner
  | .post stop => .ok (s.emplaceBack stop)
  | .postWithDelay now delay => .ok (s.postPackagedTaskWithDelay now delay)
  | .start => do
    require (s.isRunning = false) .isRunning
    return { s with phase := .head, isRunning := true }
  | .advance now => s.advance now

/-- What can happen: one thread is in `RunUntilStopped()`, and the clock does not go backwards. -/
def Allows : RunnerOp → Prop
  | .post _ => True
  | .postWithDelay now _ => s.clock ≤ now
  | .start => s.phase = .idle
  | .advance now => s.phase ≠ .idle ∧ s.clock ≤ now

instance (op : RunnerOp) : Decidable (s.Allows op) := by
  cases op <;> unfold Allows <;> infer_instance

end TaskRunner

/-! ### The order of the tasks -/

/-- The first task may run before the second: both without delay and in the order of their posts, or
both delayed, and in the order of their due times and then of their posts. -/
def Task.Before (a b : Task) : Prop :=
  (a.due = none → b.due = none → a.id < b.id) ∧
    ∀ x ∈ a.due, ∀ y ∈ b.due, x < y ∨ x = y ∧ a.id < b.id

namespace TaskRunner

variable {s t : TaskRunner} {op : RunnerOp} {now delay : ℤ}

/-- The tasks in the order in which they ran and will run, before those that are still delayed. -/
def order (s : TaskRunner) : List Task := s.ran.map Prod.fst ++ s.runningTasks ++ s.tasks

/-- All tasks, the delayed ones at the end. -/
def queue (s : TaskRunner) : List Task := s.order ++ s.delayedTasks.entries.map Prod.snd

/-- **What a task runner guarantees**: tasks are numbered as they are posted and run at most once,
in order and not early, and those without a delay that were posted before one that ran have run. -/
structure Ordered (s : TaskRunner) : Prop where
  numbered : s.posted.map Task.id = List.range s.posted.length
  once : (s.ran.map Prod.fst).Nodup ∧ ∀ run ∈ s.ran, run.1 ∈ s.posted
  inOrder : (s.ran.map Prod.fst).Pairwise Task.Before
  notEarly : ∀ run ∈ s.ran, ∀ due ∈ run.1.due, due ≤ run.2
  noneSkipped : ∀ run ∈ s.ran, run.1.due = none → ∀ task ∈ s.posted, task.due = none →
    task.id < run.1.id → task ∈ s.ran.map Prod.fst

/-- What is kept about the containers. -/
structure Queued (s : TaskRunner) : Prop where
  numbered : s.posted.map Task.id = List.range s.posted.length
  perm : s.queue.Perm s.posted
  inOrder : s.queue.Pairwise Task.Before
  notEarly : ∀ run ∈ s.ran, ∀ due ∈ run.1.due, due ≤ run.2
  due : ∀ task ∈ s.order, ∀ due ∈ task.due, due ≤ s.clock
  delayed : ∀ entry ∈ s.delayedTasks.entries, entry.2.due = some entry.1

/-- What is kept about the loop: it holds no tasks of a round where it takes new ones, and is
stopped when it flushes. -/
structure Looping (s : TaskRunner) : Prop where
  runningTasks : s.phase ≠ .run → s.phase ≠ .flushRun → s.runningTasks = []
  stopped : s.phase = .idle ∨ s.phase = .flushGrab ∨ s.phase = .flushRun → s.isRunning = false

theorem Queued.lt_length {task : Task} (h : s.Queued) (htask : task ∈ s.queue) :
    task.id < s.posted.length := by
  have hmem := List.mem_map_of_mem (f := Task.id) (h.perm.mem_iff.mp htask)
  rw [h.numbered] at hmem
  exact List.mem_range.mp hmem

theorem Queued.nodup (h : s.Queued) : s.queue.Nodup := by
  refine h.perm.nodup_iff.mpr (List.Nodup.of_map Task.id ?_)
  rw [h.numbered]
  exact List.nodup_range

theorem Queued.ordered (h : s.Queued) : s.Ordered := by
  have hqueue : s.queue = s.ran.map Prod.fst ++
      (s.runningTasks ++ s.tasks ++ s.delayedTasks.entries.map Prod.snd) := by
    simp only [queue, order, List.append_assoc]
  have hnodup := h.nodup
  have hinOrder := h.inOrder
  rw [hqueue] at hnodup hinOrder
  have hran : ∀ run ∈ s.ran, run.1 ∈ s.queue := fun run hrun => by
    rw [hqueue]
    exact List.mem_append_left _ (List.mem_map_of_mem hrun)
  refine ⟨h.numbered,
    ⟨(List.nodup_append.mp hnodup).1, fun run hrun => h.perm.mem_iff.mp (hran run hrun)⟩,
    (List.pairwise_append.mp hinOrder).1, h.notEarly,
    fun run hrun hnone task htask hnone' hlt => ?_⟩
  -- a task that has not run yet stands behind the one that has
  have htask' := h.perm.mem_iff.mpr htask
  rw [hqueue] at htask'
  rcases List.mem_append.mp htask' with htask' | htask'
  · exact htask'
  · have hbefore := (List.pairwise_append.mp hinOrder).2.2 run.1
      (List.mem_map_of_mem hrun) task htask'
    exact absurd (hbefore.1 hnone hnone') hlt.not_gt

/-! ### Posts -/

theorem pairwise_insert {α : Type} {R : α → α → Prop} {l₁ l₂ : List α} {a : α}
    (h : (l₁ ++ l₂).Pairwise R) (hbefore : ∀ x ∈ l₁, R x a) (hafter : ∀ y ∈ l₂, R a y) :
    (l₁ ++ a :: l₂).Pairwise R := by
  obtain ⟨hfirst, hsecond, hboth⟩ := List.pairwise_append.mp h
  refine List.pairwise_append.mpr
    ⟨hfirst, List.pairwise_cons.mpr ⟨hafter, hsecond⟩, fun x hx y hy => ?_⟩
  rcases List.mem_cons.mp hy with rfl | hy
  exacts [hbefore x hx, hboth x hx y hy]

/-- A new task has its place in the queue. -/
theorem Queued.insert {l₁ l₂ : List Task} {due : Option ℤ} {stop : Bool} (h : s.Queued)
    (hold : s.queue = l₁ ++ l₂) (hnew : t.queue = l₁ ++ ⟨s.posted.length, due, stop⟩ :: l₂)
    (hposted : t.posted = s.posted ++ [⟨s.posted.length, due, stop⟩])
    (hbefore : ∀ task ∈ l₁, task.Before ⟨s.posted.length, due, stop⟩)
    (hafter : ∀ task ∈ l₂, Task.Before ⟨s.posted.length, due, stop⟩ task) (hran : t.ran = s.ran)
    (hdue : ∀ task ∈ t.order, ∀ due ∈ task.due, due ≤ t.clock)
    (hdelayed : ∀ entry ∈ t.delayedTasks.entries, entry.2.due = some entry.1) : t.Queued := by
  refine ⟨?_, ?_, ?_, hran ▸ h.notEarly, hdue, hdelayed⟩
  · rw [hposted, List.map_append, h.numbered, List.length_append, List.length_singleton,
      List.range_succ]
    rfl
  · rw [hnew, hposted]
    calc (l₁ ++ ⟨s.posted.length, due, stop⟩ :: l₂).Perm (_ :: (l₁ ++ l₂)) := List.perm_middle
      _ = _ :: s.queue := by rw [hold]
      List.Perm _ (_ :: s.posted) := h.perm.cons _
      List.Perm _ (s.posted ++ [_]) := (List.perm_append_singleton _ _).symm
  · rw [hnew]
    exact pairwise_insert (hold ▸ h.inOrder) hbefore hafter

/-- A task without delay stands before those that are delayed. -/
theorem Queued.emplaceBack (h : s.Queued) (stop : Bool) : (s.emplaceBack stop).Queued := by
  have horder : (s.emplaceBack stop).order = s.order ++ [⟨s.posted.length, none, stop⟩] :=
    (List.append_assoc _ _ _).symm
  refine h.insert rfl ?_ rfl (fun other hother => ?_) (fun other hother => ?_) rfl
    (fun task htask => ?_) h.delayed
  · rw [queue, horder, List.append_assoc]
    rfl
  · exact ⟨fun _ _ => h.lt_length (List.mem_append_left _ hother), fun _ _ _ => nofun⟩
  · obtain ⟨entry, hentry, rfl⟩ := List.mem_map.mp hother
    refine ⟨fun _ hnone => ?_, nofun⟩
    cases (h.delayed entry hentry).symm.trans hnone
  · rw [horder] at htask
    rcases List.mem_append.mp htask with htask | htask
    · exact h.due task htask
    · rw [List.mem_singleton.mp htask]
      nofun

/-- A task with a delay. It is due later than all that can be run already. -/
theorem Queued.postPackagedTaskWithDelay (h : s.Queued) (hnow : s.clock ≤ now) (delay : ℤ) :
    (s.postPackagedTaskWithDelay now delay).Queued := by
  unfold TaskRunner.postPackagedTaskWithDelay
  split_ifs with hdelay
  · exact h.emplaceBack false
  let task : Task := ⟨s.posted.length, some (now + delay), false⟩
  let before := (s.delayedTasks.upTo (now + delay)).map Prod.snd
  let after := (s.delayedTasks.after (now + delay)).map Prod.snd
  have hold : s.queue = s.order ++ before ++ after := by
    rw [queue, ← s.delayedTasks.upTo_append_after (now + delay), List.map_append,
      List.append_assoc]
  have hnew : s.order ++ (s.delayedTasks.emplace (now + delay) task).entries.map Prod.snd =
      s.order ++ before ++ task :: after := by
    rw [Multimap.entries_emplace, List.map_append, List.map_cons, List.append_assoc]
  refine h.insert hold hnew rfl (fun first hfirst => ?_) (fun other hother => ?_) rfl
    (fun task' htask' due hdue => (h.due task' htask' due hdue).trans hnow) fun entry hentry => ?_
  · refine ⟨fun _ => nofun, fun x hx y hy => ?_⟩
    cases hy
    rcases List.mem_append.mp hfirst with hfirst | hfirst
    · have hle := h.due first hfirst x hx
      omega
    · -- those before it are due earlier, or at the same time
      obtain ⟨entry, hentry, rfl⟩ := List.mem_map.mp hfirst
      obtain ⟨hentry, hle⟩ := (s.delayedTasks.mem_upTo _).mp hentry
      cases (h.delayed entry hentry).symm.trans hx
      exact hle.lt_or_eq.imp id fun heq => ⟨heq,
        h.lt_length (List.mem_append_right _ (List.mem_map_of_mem hentry))⟩
  · -- those behind it are due later
    obtain ⟨entry, hentry, rfl⟩ := List.mem_map.mp hother
    obtain ⟨hentry, hlt⟩ := (s.delayedTasks.mem_after _).mp hentry
    refine ⟨nofun, fun x hx y hy => .inl ?_⟩
    cases hx
    cases (h.delayed entry hentry).symm.trans hy
    exact hlt
  · rw [Multimap.entries_emplace] at hentry
    rcases List.mem_append.mp hentry with hentry | hentry
    · exact h.delayed entry ((s.delayedTasks.mem_upTo _).mp hentry).1
    rcases List.mem_cons.mp hentry with rfl | hentry
    · rfl
    · exact h.delayed entry ((s.delayedTasks.mem_after _).mp hentry).1

/-! ### The loop -/

/-- Delayed tasks that are due by now can be run. Their place in the queue stays the same. -/
theorem Queued.scheduleDelayedTasks (h : s.Queued) (hnow : s.clock ≤ now) :
    (s.scheduleDelayedTasks now).Queued := by
  have horder : (s.scheduleDelayedTasks now).order =
      s.order ++ (s.delayedTasks.upTo now).map Prod.snd := (List.append_assoc _ _ _).symm
  have hqueue : (s.scheduleDelayedTasks now).queue = s.queue := by
    rw [queue, horder, List.append_assoc, queue, ← s.delayedTasks.upTo_append_after now,
      List.map_append]
    rfl
  refine ⟨h.numbered, hqueue ▸ h.perm, hqueue ▸ h.inOrder, h.notEarly,
    fun task htask due hdue => ?_,
    fun entry hentry => h.delayed entry ((s.delayedTasks.mem_after now).mp hentry).1⟩
  rw [horder] at htask
  rcases List.mem_append.mp htask with htask | htask
  · exact (h.due task htask due hdue).trans hnow
  · obtain ⟨entry, hentry, rfl⟩ := List.mem_map.mp htask
    obtain ⟨hentry, hle⟩ := (s.delayedTasks.mem_upTo now).mp hentry
    cases (h.delayed entry hentry).symm.trans hdue
    exact hle

/-- A step of the loop that leaves the queue as it is. -/
theorem Queued.congr (h : s.Queued) (horder : t.order = s.order)
    (hdelayed : t.delayedTasks = s.delayedTasks) (hposted : t.posted = s.posted)
    (hclock : s.clock ≤ t.clock) (hran : ∀ run ∈ t.ran, ∀ due ∈ run.1.due, due ≤ run.2) :
    t.Queued := by
  have hqueue : t.queue = s.queue := by rw [queue, horder, hdelayed, queue]
  refine ⟨?_, ?_, hqueue ▸ h.inOrder, hran, fun task htask due hdue => ?_, ?_⟩
  · rw [hposted, h.numbered]
  · rw [hqueue, hposted]
    exact h.perm
  · exact (h.due task (horder ▸ htask) due hdue).trans hclock
  · rw [hdelayed]
    exact h.delayed

/-- Tasks are taken for a round. -/
theorem Queued.grabMoreRunnableTasks (h : s.Queued) (hnone : s.runningTasks = [])
    (phase : Bool → Phase) :
    ∃ grabbed u, s.grabMoreRunnableTasks = .ok (grabbed, u) ∧
      { u with phase := phase grabbed }.Queued ∧ u.isRunning = s.isRunning ∧
      (grabbed = false → u.runningTasks = [] ∧ u.tasks = []) := by
  unfold TaskRunner.grabMoreRunnableTasks
  rw [require_of hnone, ok_bind]
  split_ifs with htasks
  · refine ⟨true, _, rfl, h.congr ?_ rfl rfl le_rfl h.notEarly, rfl, nofun⟩
    simp only [order, hnone, List.append_nil]
  · exact ⟨false, s, rfl, h.congr rfl rfl rfl le_rfl h.notEarly, rfl,
      fun _ => ⟨hnone, not_not.mp htasks⟩⟩

/-- A task is run. -/
theorem Queued.runRunnableTask (h : s.Queued) (hnow : s.clock ≤ now) (next : Phase) :
    (s.runRunnableTask now next).Queued := by
  unfold TaskRunner.runRunnableTask
  split
  · exact h.congr rfl rfl rfl le_rfl h.notEarly
  · rename_i task rest hrunning
    refine h.congr ?_ rfl rfl hnow fun run hrun due hdue => ?_
    · simp only [order, hrunning, List.map_append, List.map_cons, List.map_nil, List.append_assoc,
        List.cons_append, List.nil_append]
    · rcases List.mem_append.mp hrun with hrun | hrun
      · exact h.notEarly run hrun due hdue
      · rw [List.mem_singleton.mp hrun] at hdue ⊢
        refine (h.due task ?_ due hdue).trans hnow
        simp [order, hrunning]

/-- A step of a round. -/
theorem Looping.runRunnableTask (h : s.Looping) (now : ℤ) {next : Phase}
    (hround : s.phase = .run ∧ next = .head ∨ s.phase = .flushRun ∧ next = .flushGrab) :
    (s.runRunnableTask now next).Looping ∧ (s.runRunnableTask now next).phase ≠ .idle := by
  unfold TaskRunner.runRunnableTask
  split
  · rename_i hrunning
    refine ⟨⟨fun _ _ => hrunning, fun hnext => ?_⟩, ?_⟩
    · rcases hround with ⟨-, rfl⟩ | ⟨hphase, -⟩
      · simp at hnext
      · exact h.stopped (.inr (.inr hphase))
    · rcases hround with ⟨-, rfl⟩ | ⟨-, rfl⟩ <;> nofun
  · refine ⟨⟨fun hrun hflush => ?_, fun hphase => ?_⟩, ?_⟩
    · exact (hround.elim (fun hround => hrun hround.1) fun hround => hflush hround.1).elim
    · rw [h.stopped hphase, Bool.false_and]
    · rcases hround with ⟨hphase, -⟩ | ⟨hphase, -⟩ <;> rw [hphase] <;> nofun

/-- When nothing is left to be taken, every task without delay has run. -/
theorem Queued.mem_ran {task : Task} (h : s.Queued) (hrunning : s.runningTasks = [])
    (htasks : s.tasks = []) (htask : task ∈ s.posted) (hnone : task.due = none) :
    task ∈ s.ran.map Prod.fst := by
  have hmem := h.perm.mem_iff.mpr htask
  rw [queue, order, hrunning, htasks, List.append_nil, List.append_nil] at hmem
  rcases List.mem_append.mp hmem with hmem | hmem
  · exact hmem
  · obtain ⟨entry, hentry, rfl⟩ := List.mem_map.mp hmem
    cases (h.delayed entry hentry).symm.trans hnone

/-- **One step** that can happen keeps what is known, and no assertion fails. When the loop is left,
no task without delay is left. -/
theorem Queued.step (h : s.Queued) (hloop : s.Looping) (hop : s.Allows op) :
    ∃ t, s.step op = .ok t ∧ t.Queued ∧ t.Looping ∧
      ∀ now, op = .advance now → t.phase = .idle →
        ∀ task ∈ t.posted, task.due = none → task ∈ t.ran.map Prod.fst := by
  cases op with
  | post stop =>
    exact ⟨_, rfl, h.emplaceBack stop, ⟨hloop.runningTasks, hloop.stopped⟩, nofun⟩
  | postWithDelay now delay =>
    refine ⟨_, rfl, h.postPackagedTaskWithDelay hop delay, ?_, nofun⟩
    unfold TaskRunner.postPackagedTaskWithDelay
    split_ifs
    · exact ⟨hloop.runningTasks, hloop.stopped⟩
    · exact ⟨hloop.runningTasks, hloop.stopped⟩
  | start =>
    refine ⟨{ s with phase := .head, isRunning := true }, ?_,
      h.congr rfl rfl rfl le_rfl h.notEarly, ⟨fun _ _ => ?_, by simp⟩, nofun⟩
    · simp only [TaskRunner.step, require_of (hloop.stopped (.inl hop))]
      rfl
    · exact hloop.runningTasks (by rw [hop]; nofun) (by rw [hop]; nofun)
  | advance now =>
    obtain ⟨hphase, hnow⟩ := hop
    simp only [TaskRunner.step, TaskRunner.advance]
    cases hp : s.phase with
    | idle => exact absurd hp hphase
    | head =>
      have hnone := hloop.runningTasks (by rw [hp]; nofun) (by rw [hp]; nofun)
      dsimp only
      split_ifs with hrunning
      · exact ⟨_, rfl, (h.scheduleDelayedTasks hnow).congr rfl rfl rfl le_rfl
          (h.scheduleDelayedTasks hnow).notEarly, ⟨fun _ _ => hnone, by simp⟩, fun _ _ => nofun⟩
      · exact ⟨_, rfl, h.congr rfl rfl rfl le_rfl h.notEarly,
          ⟨fun _ _ => hnone, fun _ => Bool.not_eq_true _ ▸ hrunning⟩, fun _ _ => nofun⟩
    | grab =>
      have hnone := hloop.runningTasks (by rw [hp]; nofun) (by rw [hp]; nofun)
      obtain ⟨grabbed, u, hgrab, hu, -, hfalse⟩ := h.grabMoreRunnableTasks hnone
        fun grabbed => if grabbed then .run else .head
      dsimp only
      rw [hgrab, ok_bind]
      cases grabbed with
      | false => exact ⟨_, rfl, hu, ⟨fun _ _ => (hfalse rfl).1, by simp⟩, fun _ _ => nofun⟩
      | true => exact ⟨_, rfl, hu, ⟨fun hrun => absurd rfl hrun, by simp⟩, fun _ _ => nofun⟩
    | run =>
      obtain ⟨hloop', hidle⟩ := hloop.runRunnableTask now (.inl ⟨hp, rfl⟩)
      exact ⟨_, rfl, h.runRunnableTask hnow _, hloop', fun _ _ hidle' => absurd hidle' hidle⟩
    | flushGrab =>
      have hnone := hloop.runningTasks (by rw [hp]; nofun) (by rw [hp]; nofun)
      have hstopped := hloop.stopped (.inr (.inl hp))
      obtain ⟨grabbed, u, hgrab, hu, hsame, hfalse⟩ := h.grabMoreRunnableTasks hnone
        fun grabbed => if grabbed then .flushRun else .idle
      dsimp only
      rw [hgrab, ok_bind]
      cases grabbed with
      | false =>
        exact ⟨_, rfl, hu, ⟨fun _ _ => (hfalse rfl).1, fun _ => hsame.trans hstopped⟩,
          fun _ _ _ task => hu.mem_ran (hfalse rfl).1 (hfalse rfl).2⟩
      | true =>
        exact ⟨_, rfl, hu, ⟨fun _ hflush => absurd rfl hflush, fun _ => hsame.trans hstopped⟩,
          fun _ _ => nofun⟩
    | flushRun =>
      obtain ⟨hloop', hidle⟩ := hloop.runRunnableTask now (.inr ⟨hp, rfl⟩)
      exact ⟨_, rfl, h.runRunnableTask hnow _, hloop', fun _ _ hidle' => absurd hidle' hidle⟩

/-- Only the loop runs tasks. -/
theorem ran_of_step (hstep : s.step op = .ok t) (hop : ∀ now, op ≠ .advance now) :
    t.ran = s.ran := by
  cases op with
  | post stop =>
    cases hstep
    rfl
  | postWithDelay now delay =>
    cases hstep
    unfold postPackagedTaskWithDelay
    split_ifs <;> rfl
  | start =>
    simp only [TaskRunner.step, require_bind_eq_ok] at hstep
    cases hstep.2
    rfl
  | advance now => exact absurd rfl (hop now)

/-! ### Runs -/

/-- **The order of tasks.** In every run of posts from any threads and steps of the loop, tasks run
once, in order, and not early; only the loop runs them, and no assertion fails. When the loop is
left, every task without delay that was posted by then has run. -/
theorem ordered_of_run {ops : List RunnerOp}
    (hrun : Run (fun s op t => TaskRunner.Allows s op ∧ s.step op = .ok t) {} ops s) :
    s.Ordered ∧ ∀ op, s.Allows op → ∃ t, s.step op = .ok t ∧
      ((∀ now, op ≠ .advance now) → t.ran = s.ran) ∧
      ∀ now, op = .advance now → t.phase = .idle →
        ∀ task ∈ t.posted, task.due = none → task ∈ t.ran.map Prod.fst := by
  have hstart : Queued {} ∧ Looping {} :=
    ⟨⟨rfl, .nil, .nil, nofun, nofun, nofun⟩, ⟨fun _ _ => rfl, fun _ => rfl⟩⟩
  have h : s.Queued ∧ s.Looping := hrun.invariant (P := fun s => s.Queued ∧ s.Looping)
    (fun s op t hs hstep => by
      obtain ⟨u, hu, hqueued, hlooping, -⟩ := hs.1.step hs.2 hstep.1
      cases hu.symm.trans hstep.2
      exact ⟨hqueued, hlooping⟩) hstart
  refine ⟨h.1.ordered, fun op hop => ?_⟩
  obtain ⟨t, ht, -, -, hleft⟩ := h.1.step h.2 hop
  exact ⟨t, ht, ran_of_step ht, hleft⟩

/-- A delayed task that is promoted runs before one that is posted later without delay, and a task
that is posted behind the stop task still runs. -/
def flushedRun : List RunnerOp :=
  [.postWithDelay 0 5, .start, .post true, .advance 7, .post false, .advance 7, .advance 7,
    .advance 8, .advance 9, .advance 9, .advance 9, .advance 9]

theorem ordered_flushed :
    ∃ s, Run (fun s op t => TaskRunner.Allows s op ∧ s.step op = .ok t) {} flushedRun s ∧
      s.Ordered ∧ s.phase = .idle ∧ s.ran.map (·.1.id) = [1, 0, 2] := by
  have hrun : Run (fun s op t => TaskRunner.Allows s op ∧ s.step op = .ok t) {} flushedRun _ :=
    (((((((((((Run.nil.snoc ⟨by decide, rfl⟩).snoc ⟨by decide, rfl⟩).snoc ⟨by decide, rfl⟩).snoc
      ⟨by decide, rfl⟩).snoc ⟨by decide, rfl⟩).snoc ⟨by decide, rfl⟩).snoc ⟨by decide, rfl⟩).snoc
      ⟨by decide, rfl⟩).snoc ⟨by decide, rfl⟩).snoc ⟨by decide, rfl⟩).snoc ⟨by decide, rfl⟩).snoc
      ⟨by decide, rfl⟩
  exact ⟨_, hrun, (ordered_of_run hrun).1, rfl, rfl⟩

end TaskRunner

end StreamerPlus.Platform
