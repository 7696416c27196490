import ChronosHFT.Lib.Dict
import ChronosHFT.Lib.Run
import ChronosHFT.Oms.Journal

/-!
# Keyed background tasks

The executor of `oms/background_tasks.py`: submissions are admitted against a bound of their
lane, put into its queue or, with a delay, into its heap, and run by the workers of the lane.  A
key has one task at a time; another submission of it is coalesced with that task, or waits in the
rerun slot of the key until the task is done.

A step is one critical section of a thread, or one operation on a queue.  What the threads hold
between two of them is part of the state: a worker has taken a task and not started it, a
scheduler has taken a task from the heap and found the queue full.  `starts` and `marks` record
which handle was started by which worker and how it was marked done. -/

namespace ChronosHFT.Background

open Oms (LifecycleState)

/-! ## Lanes, handles and tasks -/

/-- `LANES`. -/
inductive Lane
  | default
  | safety
  | emergency
  deriving DecidableEq, Repr

namespace Lane

def text : Lane → String
  | default => "default"
  | safety => "safety"
  | emergency => "emergency"

/-- The lanes in the order in which their schedulers are started. -/
def all : List Lane := [default, safety, emergency]

end Lane

/-- The place of a worker: its lane, and its number there. -/
abbrev WorkerId := Lane × ℕ

/-- `BackgroundTaskHandle`; `id` stands for the identity of the object. -/
structure Handle where
  id : ℕ
  key : String
  name : String
  lane : Lane
  deriving DecidableEq, Repr

/-- `_Task`, without its callback. -/
structure Task where
  handle : Handle
  runAt : ℚ := 0
  deriving DecidableEq, Repr

/-- How a handle was marked done. -/
inductive Completion
  | returned
  | raised
  | cancelled
  deriving DecidableEq, Repr

/-- `BackgroundTaskSubmission`. -/
structure Submission where
  accepted : Bool
  created : Bool
  handle : Option Handle
  reason : String := ""
  deriving DecidableEq, Repr

/-! ## The settings of an executor -/

/-- The arguments of the constructor. -/
structure Arguments where
  maxWorkers : ℤ := 8
  safetyWorkers : ℤ := 2
  queueCapacity : ℤ := 64
  safetyQueueCapacity : ℤ := 16
  emergencyQueueCapacity : ℤ := 4
  maxPendingTasks : Option ℤ := none
  deriving DecidableEq, Repr

/-- What the constructor accepts. -/
structure Settings where
  maxWorkers : ℕ
  safetyWorkers : ℕ
  queueCapacity : ℕ
  safetyQueueCapacity : ℕ
  emergencyQueueCapacity : ℕ
  maxPendingTasks : ℕ
  two_le_workers : 2 ≤ maxWorkers
  safetyWorkers_pos : 1 ≤ safetyWorkers
  safetyWorkers_lt : safetyWorkers < maxWorkers
  queueCapacity_pos : 0 < queueCapacity
  safetyQueueCapacity_pos : 0 < safetyQueueCapacity
  emergencyQueueCapacity_pos : 0 < emergencyQueueCapacity
  workers_le_pending : maxWorkers ≤ maxPendingTasks

/-- `__init__`, up to the threads it starts: the settings, or the text of the `ValueError`. -/
def construct (a : Arguments) : Except String Settings :=
  if hworkers : a.maxWorkers < 2 then .error "max_workers must be at least two"
  else if hsafety : ¬(1 ≤ a.safetyWorkers ∧ a.safetyWorkers < a.maxWorkers) then
    .error "safety_workers must reserve at least one but not all workers"
  else if hcapacity : a.queueCapacity ≤ 0 ∨ a.safetyQueueCapacity ≤ 0 ∨
      a.emergencyQueueCapacity ≤ 0 then
    .error "background queue capacities must be positive"
  else if hpending : a.maxPendingTasks.getD
      (a.maxWorkers + a.queueCapacity + a.safetyQueueCapacity) < a.maxWorkers then
    .error "max_pending_tasks must cover every worker"
  else .ok {
    maxWorkers := a.maxWorkers.toNat
    safetyWorkers := a.safetyWorkers.toNat
    queueCapacity := a.queueCapacity.toNat
    safetyQueueCapacity := a.safetyQueueCapacity.toNat
    emergencyQueueCapacity := a.emergencyQueueCapacity.toNat
    maxPendingTasks := (a.maxPendingTasks.getD
      (a.maxWorkers + a.queueCapacity + a.safetyQueueCapacity)).toNat
    two_le_workers := by omega
    safetyWorkers_pos := by omega
    safetyWorkers_lt := by omega
    queueCapacity_pos := by omega
    safetyQueueCapacity_pos := by omega
    emergencyQueueCapacity_pos := by omega
    workers_le_pending := by omega }

namespace Settings

variable (st : Settings)

/-- The workers of a lane. -/
def workers : Lane → ℕ
  | .default => st.maxWorkers - st.safetyWorkers
  | .safety => st.safetyWorkers - 1
  | .emergency => 1

/-- The `maxsize` of the queue of a lane. -/
def capacity : Lane → ℕ
  | .default => st.queueCapacity
  | .safety => st.safetyQueueCapacity
  | .emergency => st.emergencyQueueCapacity

def emergencyLimit : ℕ :=
  min (st.workers .emergency + st.emergencyQueueCapacity)
    (max 1 (st.maxPendingTasks - st.workers .default - st.workers .safety))

def safetyLimit : ℕ :=
  min (if 0 < st.workers .safety then st.workers .safety + st.safetyQueueCapacity else 0)
    (st.maxPendingTasks - st.emergencyLimit - st.workers .default)

/-- `_pending_limits`. -/
def limit : Lane → ℕ
  | .default => st.maxPendingTasks - st.emergencyLimit - st.safetyLimit
  | .safety => st.safetyLimit
  | .emergency => st.emergencyLimit

/-- `str.startswith` of some texts. -/
def startsWithAny (heads : List String) (key : String) : Bool :=
  heads.any fun head => head.toList.isPrefixOf key.toList

/-- `_EMERGENCY_KEYS` and `_EMERGENCY_PREFIXES`. -/
def emergencyKey (key : String) : Bool :=
  key = "dms:safety-cancel" ||
    startsWithAny ["emergency:", "journal-failure:", "shutdown-cancel:"] key

/-- `_AUTO_SUCCESSOR_PREFIXES`. -/
def autoSuccessorKey (key : String) : Bool :=
  startsWithAny ["cancel-retry:", "cancel-all-retry:"] key

/-- `_effective_lane`. -/
def effectiveLane (key : String) (requested : Lane) : Lane :=
  if emergencyKey key then .emergency
  -- two workers: one for the default lane and one for emergencies
  else if requested = .safety ∧ st.workers .safety = 0 then .default
  else requested

end Settings

/-! ## The state -/

/-- What a worker is at: it waits for its queue, has taken a task, runs it, or has left. -/
inductive Worker
  | waiting
  | taken (task : Task)
  | running (task : Task)
  | exited
  deriving DecidableEq, Repr

/-- A lane: its queue, its heap with the serial numbers, least first, what its scheduler has in
its hand, and its workers. -/
structure LaneState where
  queue : List Task := []
  scheduled : List (ℕ × Task) := []
  hand : Option Task := none
  schedulerExited : Bool := false
  workers : List Worker := []
  deriving DecidableEq, Repr

/-- `OMSBackgroundTaskExecutor`. -/
structure Executor where
  lanes : Lane → LaneState
  serial : ℕ := 1
  activeByKey : Dict String Handle := ∅
  rerunByKey : Dict String Task := ∅
  accepting : Bool := true
  closing : Bool := false
  nextHandle : ℕ := 0
  starts : List (ℕ × WorkerId) := []
  marks : List (ℕ × Completion) := []

/-- Least deadline first, and of one deadline the earlier one. -/
def heapOrder (a b : ℕ × Task) : Prop :=
  a.2.runAt < b.2.runAt ∨ a.2.runAt = b.2.runAt ∧ a.1 ≤ b.1

instance : DecidableRel heapOrder := fun a b =>
  inferInstanceAs (Decidable (a.2.runAt < b.2.runAt ∨ a.2.runAt = b.2.runAt ∧ a.1 ≤ b.1))

namespace Executor

/-- The executor, when its threads have been started. -/
def start (st : Settings) : Executor where
  lanes lane := { workers := List.replicate (st.workers lane) .waiting }

/-- One lane of the executor is changed. -/
def updateLane (s : Executor) (lane : Lane) (f : LaneState → LaneState) : Executor :=
  { s with lanes := Function.update s.lanes lane (f (s.lanes lane)) }

def worker? (s : Executor) (w : WorkerId) : Option Worker := (s.lanes w.1).workers[w.2]?

def setWorker (s : Executor) (w : WorkerId) (worker : Worker) : Executor :=
  s.updateLane w.1 fun l => { l with workers := l.workers.set w.2 worker }

/-- `heapq.heappush`, with the next serial number. -/
def pushScheduled (s : Executor) (lane : Lane) (task : Task) : Executor :=
  { s.updateLane lane fun l =>
      { l with scheduled := l.scheduled.orderedInsert heapOrder (s.serial, task) } with
    serial := s.serial + 1 }

/-- `put_nowait`: `none` is `queue.Full`. -/
def putNowait? (st : Settings) (s : Executor) (lane : Lane) (task : Task) : Option Executor :=
  if (s.lanes lane).queue.length < st.capacity lane then
    some (s.updateLane lane fun l => { l with queue := l.queue ++ [task] })
  else none

/-- `_mark_done`. -/
def mark (s : Executor) (handle : Handle) (completion : Completion) : Executor :=
  { s with marks := s.marks ++ [(handle.id, completion)] }

/-- `done`. -/
def done (s : Executor) (handle : Handle) : Bool := handle.id ∈ s.marks.map Prod.fst

/-- `is_current`, for the thread that calls it. -/
def isCurrent (s : Executor) (caller : Option WorkerId) (handle : Handle) : Bool :=
  match caller with
  | none => false
  | some w => (handle.id, w) ∈ s.starts

/-! ## Admission -/

/-- `_pending_count_locked` of a lane. -/
def pendingCount (s : Executor) (lane : Lane) : ℕ :=
  s.activeByKey.values.countP (fun handle => handle.lane = lane) +
    s.rerunByKey.values.countP (fun task => task.handle.lane = lane)

/-- `_pending_count_locked` of all lanes. -/
def pendingTotal (s : Executor) : ℕ := s.activeByKey.values.length + s.rerunByKey.values.length

/-- `_admission_rejection_locked`. -/
def admissionRejection (st : Settings) (s : Executor) (lane : Lane) : Option String :=
  if st.limit lane ≤ s.pendingCount lane then some s!"background_{lane.text}_pending_limit"
  else if st.maxPendingTasks ≤ s.pendingTotal then some "background_pending_limit"
  else none

/-- The arguments of `submit`: a key with a text, and a delay that is not negative. -/
structure Request where
  key : String
  name : String := ""
  lane : Lane := .default
  delaySec : ℚ := 0
  resubmitAfterCurrent : Bool := false
  key_ne : key ≠ "" := by decide
  delay_nonneg : 0 ≤ delaySec := by norm_num

instance : DecidableEq Request := fun a b =>
  decidable_of_iff (a.key = b.key ∧ a.name = b.name ∧ a.lane = b.lane ∧ a.delaySec = b.delaySec ∧
    a.resubmitAfterCurrent = b.resubmitAfterCurrent)
    ⟨fun h => by cases a; cases b; simpa using h, fun h => by
      rw [h]; exact ⟨rfl, rfl, rfl, rfl, rfl⟩⟩

def Request.taskName (r : Request) : String := if r.name = "" then r.key else r.name

/-- The deadline of the task; an immediate one has none. -/
def Request.runAt (r : Request) (now : ℚ) : ℚ := if 0 < r.delaySec then now + r.delaySec else 0

def Submission.rejected (reason : String) : Submission := ⟨false, false, none, reason⟩

/-- `submit`, where the key has a task that is not done. -/
def submitExisting (st : Settings) (s : Executor) (caller : Option WorkerId) (now : ℚ)
    (r : Request) (lane : Lane) (existing : Handle) : Executor × Submission :=
  if ¬(r.resubmitAfterCurrent ∨ s.isCurrent caller existing ∧ Settings.autoSuccessorKey r.key)
    then
    (s, ⟨true, false, some existing, "background_task_coalesced"⟩)
  else if existing.lane ≠ lane then (s, Submission.rejected "background_key_lane_conflict")
  else
    match s.rerunByKey.get? r.key with
    | some rerun => (s, ⟨true, false, some rerun.handle, "background_rerun_coalesced"⟩)
    | none =>
      match s.admissionRejection st lane with
      | some reason => (s, Submission.rejected reason)
      | none =>
        let handle : Handle := ⟨s.nextHandle, r.key, r.taskName, lane⟩
        ({ s with
            rerunByKey := s.rerunByKey.set r.key ⟨handle, r.runAt now⟩
            nextHandle := s.nextHandle + 1 },
          ⟨true, true, some handle, "background_rerun_queued"⟩)

/-- `submit`, where the key has no task.  A handle whose task finds the queue full is dropped. -/
def submitNew (st : Settings) (s : Executor) (now : ℚ) (r : Request) (lane : Lane) :
    Executor × Submission :=
  match s.admissionRejection st lane with
  | some reason => (s, Submission.rejected reason)
  | none =>
    let handle : Handle := ⟨s.nextHandle, r.key, r.taskName, lane⟩
    let task : Task := ⟨handle, r.runAt now⟩
    let placed :=
      if r.delaySec ≤ 0 then s.putNowait? st lane task else some (s.pushScheduled lane task)
    match placed with
    | none => (s, Submission.rejected s!"background_{lane.text}_queue_full")
    | some s =>
      ({ s with
          activeByKey := s.activeByKey.set r.key handle
          nextHandle := s.nextHandle + 1 },
        ⟨true, true, some handle, ""⟩)

/-- **`submit`**, called by a worker or by another thread. -/
def submit (st : Settings) (s : Executor) (caller : Option WorkerId) (now : ℚ) (r : Request) :
    Executor × Submission :=
  let lane := st.effectiveLane r.key r.lane
  if s.accepting = false then (s, Submission.rejected "background_executor_closed")
  else
    match s.activeByKey.get? r.key with
    | some existing =>
      if s.done existing then s.submitNew st now r lane
      else s.submitExisting st caller now r lane existing
    | none => s.submitNew st now r lane

/-! ## Completion and cancellation -/

/-- `_finish_handle`: the task is done, and a rerun of its key takes its place. -/
def finishHandle (s : Executor) (handle : Handle) (completion : Completion) (now : ℚ) :
    Executor × Option Task :=
  let s := s.mark handle completion
  if s.activeByKey.get? handle.key = some handle then
    let rerun? := s.rerunByKey.get? handle.key
    let s := { s with rerunByKey := s.rerunByKey.erase handle.key }
    match rerun? with
    | none => ({ s with activeByKey := s.activeByKey.erase handle.key }, none)
    | some rerun =>
      if s.closing then
        (({ s with activeByKey := s.activeByKey.erase handle.key }).mark rerun.handle .cancelled,
          none)
      else
        let s := { s with activeByKey := s.activeByKey.set handle.key rerun.handle }
        if now < rerun.runAt then (s.pushScheduled rerun.handle.lane rerun, none)
        else (s, some rerun)
  else (s, none)

/-- `_cancel_task_locked`. -/
def cancelTask (s : Executor) (task : Task) : Executor :=
  let s :=
    if s.activeByKey.get? task.handle.key = some task.handle then
      { s with activeByKey := s.activeByKey.erase task.handle.key }
    else s
  s.mark task.handle .cancelled

/-- `_cancel_scheduled_lane_locked`. -/
def cancelScheduledLane (s : Executor) (lane : Lane) : Executor :=
  ((s.lanes lane).scheduled.map Prod.snd).foldl cancelTask
    (s.updateLane lane fun l => { l with scheduled := [] })

/-- `_cancel_reruns_locked`. -/
def cancelReruns (s : Executor) : Executor :=
  s.rerunByKey.values.foldl (fun s task => s.mark task.handle .cancelled)
    { s with rerunByKey := ∅ }

/-! ## The threads -/

/-- A worker's `get` returns the head of its queue. -/
def dequeue? (s : Executor) (w : WorkerId) : Option Executor :=
  match s.worker? w, (s.lanes w.1).queue with
  | some .waiting, task :: rest =>
    some ((s.updateLane w.1 fun l => { l with queue := rest }).setWorker w (.taken task))
  | _, _ => none

/-- A worker whose `get` has timed out leaves, when the executor closes and the queue is empty.
-/
def workerExit? (s : Executor) (w : WorkerId) : Option Executor :=
  match s.worker? w with
  | some .waiting =>
    if s.closing ∧ (s.lanes w.1).queue = [] then some (s.setWorker w .exited) else some s
  | _ => none

/-- `_mark_started`; the callback begins. -/
def startTask? (s : Executor) (w : WorkerId) : Option Executor :=
  match s.worker? w with
  | some (.taken task) =>
    some { s.setWorker w (.running task) with starts := s.starts ++ [(task.handle.id, w)] }
  | _ => none

/-- The callback returns or raises; the worker goes on with the successor of the task. -/
def finishTask? (s : Executor) (w : WorkerId) (raised : Bool) (now : ℚ) : Option Executor :=
  match s.worker? w with
  | some (.running task) =>
    let (s, successor) := s.finishHandle task.handle (if raised then .raised else .returned) now
    some (s.setWorker w ((successor.map Worker.taken).getD .waiting))
  | _ => none

/-- The scheduler of a lane leaves. -/
def exitScheduler (s : Executor) (lane : Lane) : Executor :=
  (s.cancelScheduledLane lane).updateLane lane fun l => { l with schedulerExited := true }

/-- A round of `_scheduler_loop`: it leaves, waits for the head of its heap, or takes it out and
puts it into the queue. -/
def schedule? (st : Settings) (s : Executor) (lane : Lane) (now : ℚ) : Option Executor :=
  if (s.lanes lane).schedulerExited ∨ (s.lanes lane).hand ≠ none then none
  else if s.closing then some (s.exitScheduler lane)
  else
    match (s.lanes lane).scheduled with
    | [] => some s
    | (_, task) :: rest =>
      if now < task.runAt then some s
      else
        let s := s.updateLane lane fun l => { l with scheduled := rest }
        some ((s.putNowait? st lane task).getD
          (s.updateLane lane fun l => { l with hand := some task }))

/-- A round of its inner loop, with a task that found the queue full. -/
def retryPut? (st : Settings) (s : Executor) (lane : Lane) : Option Executor :=
  match (s.lanes lane).hand with
  | none => none
  | some task =>
    let dropped := s.updateLane lane fun l => { l with hand := none }
    if s.closing then some ((dropped.cancelTask task).exitScheduler lane)
    else some ((dropped.putNowait? st lane task).getD s)

/-- `shutdown`, up to the joins. -/
def shutdown (s : Executor) : Executor :=
  { s with accepting := false, closing := true }.cancelReruns

/-! ## Steps -/

/-- One critical section of a thread. -/
inductive Action
  | submit (caller : Option WorkerId) (now : ℚ) (request : Request)
  | dequeue (w : WorkerId)
  | workerExit (w : WorkerId)
  | startTask (w : WorkerId)
  | finishTask (w : WorkerId) (raised : Bool) (now : ℚ)
  | schedule (lane : Lane) (now : ℚ)
  | retryPut (lane : Lane)
  | shutdown
  deriving DecidableEq

/-- The step of an action; `none` where its thread is not at it. -/
def step (st : Settings) (s : Executor) : Action → Option Executor
  | .submit caller now request => some (s.submit st caller now request).1
  | .dequeue w => s.dequeue? w
  | .workerExit w => s.workerExit? w
  | .startTask w => s.startTask? w
  | .finishTask w raised now => s.finishTask? w raised now
  | .schedule lane now => s.schedule? st lane now
  | .retryPut lane => s.retryPut? st lane
  | .shutdown => some s.shutdown

/-- `wait_for_idle` answers true. -/
def idle (s : Executor) : Bool := s.activeByKey.isEmpty && s.rerunByKey.isEmpty

end Executor

/-! ## The manager -/

/-- `OMSBackgroundTaskManager` with what it writes of its owner. -/
structure TaskManager where
  executor : Executor
  rejectionCount : ℕ := 0
  holds : List String := []
  lifecycleGeneration : ℕ := 0
  state : LifecycleState := .live
  manualRearmRequired : Bool := false
  lastHaltReason : String := ""
  lastFreezeReason : String := ""

namespace TaskManager

def failureReason (key reason : String) : String :=
  "background_task_unavailable:" ++ (if key = "" then "unknown" else key) ++ ":" ++
    (if reason = "" then "rejected" else reason)

/-- `_latch_background_task_failure`. -/
def latchFailure (m : TaskManager) (key reason : String) : TaskManager :=
  { m with
    rejectionCount := m.rejectionCount + 1
    holds := m.holds ++ ["background_task_failure"]
    lifecycleGeneration :=
      if m.state = .halted then m.lifecycleGeneration else m.lifecycleGeneration + 1
    state := .halted
    manualRearmRequired := true
    lastHaltReason := failureReason key reason
    lastFreezeReason := "" }

/-- **`_submit_background_task`**: a refusal is latched when the work has to be done. -/
def submitBackgroundTask (st : Settings) (m : TaskManager) (caller : Option WorkerId) (now : ℚ)
    (r : Executor.Request) (failClosed : Bool) : TaskManager × Option Handle :=
  let (executor, submission) := m.executor.submit st caller now r
  let m := { m with executor }
  if submission.accepted then (m, submission.handle)
  else if failClosed then (m.latchFailure r.key submission.reason, none)
  else (m, none)

end TaskManager

end ChronosHFT.Background
