import ChronosHFT.Oms.TaskStarts

/-!
# Every background task is done once

`Attended` says that no thread has left while a task waits for it, and that nothing was admitted
over the limits; from such a state the threads can finish every task (`drains`).
`keyed_tasks_sound` puts the invariants together, for every run of the executor: a key is run by
one worker at a time, a handle is marked done once, by its callback or by the shutdown, a
resubmission is run after it was made, a coalesced submission answers a handle that is not done,
and no lane has more pending tasks than its limit. -/

namespace ChronosHFT.Background

open List

/-! ## The limits -/

namespace Settings

variable (st : Settings)

theorem workers_add : st.workers .default + st.workers .safety + st.workers .emergency =
    st.maxWorkers := by
  have := st.safetyWorkers_pos
  have := st.safetyWorkers_lt
  simp only [workers]
  omega

theorem capacity_pos (lane : Lane) : 0 < st.capacity lane := by
  cases lane
  · exact st.queueCapacity_pos
  · exact st.safetyQueueCapacity_pos
  · exact st.emergencyQueueCapacity_pos

/-- **The limits share out the bound of all lanes.** -/
theorem limit_add : st.limit .default + st.limit .safety + st.limit .emergency =
    st.maxPendingTasks := by
  have hworkers := st.workers_add
  have hpending := st.workers_le_pending
  have hone : st.workers .emergency = 1 := rfl
  have hemergency : st.emergencyLimit ≤ st.maxPendingTasks - st.workers .default := by
    refine (min_le_right _ _).trans (max_le ?_ ?_) <;> omega
  have hsafety : st.safetyLimit ≤ st.maxPendingTasks - st.emergencyLimit :=
    (min_le_right _ _).trans (Nat.sub_le _ _)
  simp only [limit]
  omega

/-- A lane that a task can be submitted to has a worker. -/
theorem workers_effectiveLane (key : String) (requested : Lane) :
    0 < st.workers (st.effectiveLane key requested) := by
  have hlt := st.safetyWorkers_lt
  unfold effectiveLane
  split
  · exact Nat.one_pos
  split
  · exact Nat.sub_pos_of_lt hlt
  next hserved =>
    cases requested with
    | default => exact Nat.sub_pos_of_lt hlt
    | emergency => exact Nat.one_pos
    | safety => exact Nat.pos_of_ne_zero fun hnone => hserved ⟨rfl, hnone⟩

end Settings

/-! ## No thread leaves a task behind -/

/-- A lane with this many workers, where no thread that has left is missed. -/
structure LaneState.Attended (count : ℕ) (closing : Bool) (l : LaneState) : Prop where
  workers : l.workers.length = count
  exited : Worker.exited ∈ l.workers → closing = true ∧ l.queue = []
  schedulerExited : l.schedulerExited = true → closing = true ∧ l.scheduled = [] ∧ l.hand = none

namespace Executor

variable {st : Settings} {s s' : Executor}

/-- **No thread has left while a task waits for it**; cancellations are those of a shutdown, and
every lane is within its limit. -/
structure Attended (st : Settings) (s : Executor) : Prop where
  lanes : ∀ lane, (s.lanes lane).Attended (st.workers lane) s.closing
  closed : s.closing = true → s.accepting = false ∧ s.rerunByKey = ∅
  cancelled : ∀ m ∈ s.marks, m.2 = .cancelled → s.closing = true
  served : ∀ key handle, s.activeByKey.get? key = some handle → 0 < st.workers handle.lane
  limit : ∀ lane, s.pendingCount lane ≤ st.limit lane

theorem pendingCount_cancelTask_le (s : Executor) (task : Task) (lane : Lane) :
    (s.cancelTask task).pendingCount lane ≤ s.pendingCount lane := by
  unfold cancelTask
  split
  · next hget =>
    have hcount := (Dict.values_perm_erase hget).countP_eq fun handle => handle.lane = lane
    simp only [pendingCount, mark, hcount, countP_cons]
    omega
  · exact le_rfl

theorem pendingCount_cancelTasks_le (s : Executor) (tasks : List Task) (lane : Lane) :
    (tasks.foldl cancelTask s).pendingCount lane ≤ s.pendingCount lane := by
  induction tasks generalizing s with
  | nil => exact le_rfl
  | cons task rest ih => exact (ih _).trans (s.pendingCount_cancelTask_le task lane)

/-- The end of a task makes room, or its successor takes its place. -/
theorem pendingCount_finishHandle_le {handle : Handle}
    (hget : s.activeByKey.get? handle.key = some handle) (completion : Completion) (now : ℚ)
    (lane : Lane) :
    (s.finishHandle handle completion now).1.pendingCount lane ≤ s.pendingCount lane := by
  have hactive := (Dict.values_perm_erase hget).countP_eq fun handle => handle.lane = lane
  rcases finishHandle_cases hget completion now with
    ⟨hrerun, heq⟩ | ⟨rerun, hrerun, hcases⟩
  · rw [heq]
    simp only [pendingCount, retire, hactive, Dict.erase_of_get?_none hrerun, countP_cons]
    omega
  · have hreruns := (Dict.values_perm_erase hrerun).countP_eq fun task => task.handle.lane = lane
    have hset := (s.activeByKey.values_set_perm handle.key rerun.handle).countP_eq
      fun handle => handle.lane = lane
    rcases hcases with ⟨-, heq⟩ | ⟨-, heq⟩ | ⟨-, heq⟩ <;> rw [heq] <;>
      simp only [pendingCount, retire, succeed, mark, pushScheduled, updateLane, hactive,
        hreruns,
        hset, countP_cons] <;>
      omega

/-- What is admitted is below the limit of its lane. -/
theorem lt_limit_of_admitted {lane : Lane} (h : s.admissionRejection st lane = none) :
    s.pendingCount lane < st.limit lane := by
  unfold admissionRejection at h
  split at h
  · cases h
  · next hroom => exact not_le.mp hroom

namespace Attended

variable {lane : Lane} {w : WorkerId} {task : Task}

/-- A change of a lane that attends to its tasks. -/
theorem updateLane (h : Attended st s) {f : LaneState → LaneState}
    (hlane : (f (s.lanes lane)).Attended (st.workers lane) s.closing) :
    Attended st (s.updateLane lane f) := by
  refine ⟨fun other => ?_, h.closed, h.cancelled, h.served, h.limit⟩
  rw [updateLane_lanes]
  by_cases heq : other = lane
  · subst heq
    rw [Function.update_self]
    exact hlane
  · rw [Function.update_of_ne heq]
    exact h.lanes other

/-- A worker goes on. -/
theorem setWorker (h : Attended st s) {new : Worker} (hnew : new ≠ .exited) :
    Attended st (s.setWorker w new) := by
  obtain ⟨hworkers, hexited, hscheduler⟩ := h.lanes w.1
  refine h.updateLane ⟨(length_set ..).trans hworkers, fun hmem => ?_, hscheduler⟩
  rcases mem_or_eq_of_mem_set hmem with hold | heq
  · exact hexited hold
  · exact absurd heq.symm hnew

/-- A task is put into a queue while its workers are there. -/
theorem enqueue (h : Attended st s) (hopen : s.closing = false) :
    Attended st (s.updateLane lane fun l => { l with queue := l.queue ++ [task] }) := by
  obtain ⟨hworkers, hexited, hscheduler⟩ := h.lanes lane
  refine h.updateLane ⟨hworkers, fun hmem => ?_, hscheduler⟩
  rw [(hexited hmem).1] at hopen
  cases hopen

theorem pushScheduled (h : Attended st s) (hopen : s.closing = false) :
    Attended st (s.pushScheduled lane task) := by
  obtain ⟨hworkers, hexited, hscheduler⟩ := h.lanes lane
  have hpushed : Attended st (s.updateLane lane fun l =>
      { l with scheduled := l.scheduled.orderedInsert heapOrder (s.serial, task) }) := by
    refine h.updateLane ⟨hworkers, hexited, fun hleft => ?_⟩
    rw [(hscheduler hleft).1] at hopen
    cases hopen
  obtain ⟨hlanes, hclosed, hcancelled, hserved, hlimit⟩ := hpushed
  exact ⟨hlanes, hclosed, hcancelled, hserved, hlimit⟩

theorem cancelTasks (h : Attended st s) (hclosing : s.closing = true) (tasks : List Task) :
    Attended st (tasks.foldl cancelTask s) := by
  have hframe := cancelTasks_frame s tasks
  have hserved : ∀ (tasks : List Task) (s : Executor),
      (∀ key handle, s.activeByKey.get? key = some handle → 0 < st.workers handle.lane) →
      ∀ key handle, (tasks.foldl cancelTask s).activeByKey.get? key = some handle →
        0 < st.workers handle.lane := by
    intro tasks
    induction tasks with
    | nil => exact fun _ h => h
    | cons task rest ih =>
      intro s hs
      refine ih _ fun key handle hget => ?_
      unfold cancelTask at hget
      split at hget
      · exact hs key handle (Dict.get?_of_erase hget).2
      · exact hs key handle hget
  refine ⟨?_, ?_, ?_, hserved tasks s h.served, ?_⟩
  · rw [hframe.lanes, hframe.closing]
    exact h.lanes
  · rw [hframe.closing, hframe.accepting, hframe.rerunByKey]
    exact h.closed
  · intro m _ _
    rw [hframe.closing]
    exact hclosing
  · exact fun lane => (s.pendingCount_cancelTasks_le tasks lane).trans (h.limit lane)

/-- A scheduler leaves with nothing in its heap and nothing in its hand. -/
theorem exitScheduler (h : Attended st s) (hclosing : s.closing = true)
    (hhand : (s.lanes lane).hand = none) : Attended st (s.exitScheduler lane) := by
  obtain ⟨hworkers, hexited, -⟩ := h.lanes lane
  have hcleared : Attended st (s.updateLane lane fun l => { l with scheduled := [] }) :=
    h.updateLane ⟨hworkers, hexited, fun _ => ⟨hclosing, rfl, hhand⟩⟩
  have hframe := cancelTasks_frame (s.updateLane lane fun l => { l with scheduled := [] })
    ((s.lanes lane).scheduled.map Prod.snd)
  have hcancelled : Attended st (s.cancelScheduledLane lane) := hcleared.cancelTasks hclosing _
  have hlane : (s.cancelScheduledLane lane).lanes lane =
      { s.lanes lane with scheduled := [] } := by
    refine (congrFun hframe.lanes lane).trans ?_
    rw [updateLane_lanes, Function.update_self]
  refine hcancelled.updateLane ?_
  rw [hlane]
  refine ⟨hworkers, fun hmem => ?_, fun _ => ?_⟩
  · exact ⟨hframe.closing.trans hclosing, (hexited hmem).2⟩
  · exact ⟨hframe.closing.trans hclosing, rfl, hhand⟩

theorem start (st : Settings) : Attended st (Executor.start st) := by
  refine ⟨fun lane => ⟨length_replicate, fun hmem => ?_, nofun⟩, nofun, nofun, nofun,
    fun _ => Nat.zero_le _⟩
  cases eq_of_mem_replicate hmem

theorem submit (h : Attended st s) (hplaced : Placed s []) (caller : Option WorkerId) (now : ℚ)
    (r : Request) : Attended st (s.submit st caller now r).1 := by
  have hsubmitted := submit_submitted st hplaced caller now r
  have hserved := st.workers_effectiveLane r.key r.lane
  have hopen : s.accepting = true → s.closing = false := fun haccepting =>
    Bool.eq_false_iff.mpr fun hclosing => by
      rw [(h.closed hclosing).1] at haccepting
      cases haccepting
  have hactivated : s.accepting = true → s.activeByKey.get? r.key = none →
      s.admissionRejection st (st.effectiveLane r.key r.lane) = none →
      Attended st (s.activate r (st.effectiveLane r.key r.lane)) := by
    intro haccepting hactive hadmitted
    refine ⟨h.lanes, h.closed, h.cancelled, ?_, fun lane => ?_⟩
    · intro key handle hget
      change (s.activeByKey.set r.key _).get? key = some handle at hget
      rw [Dict.get?_set] at hget
      split at hget
      · cases hget
        exact hserved
      · exact h.served key handle hget
    · have hlimit := h.limit lane
      have hlt := lt_limit_of_admitted hadmitted
      have hset := (Dict.values_set_perm_of_none
        (s.newHandle r (st.effectiveLane r.key r.lane)) hactive).countP_eq
          fun handle => handle.lane = lane
      simp only [pendingCount, Executor.activate, hset, countP_cons, decide_eq_true_eq]
        at hlimit hlt ⊢
      split
      · next heq =>
        change st.effectiveLane r.key r.lane = lane at heq
        rw [heq] at hlt
        omega
      · exact hlimit
  generalize s.submit st caller now r = result at hsubmitted ⊢
  cases hsubmitted with
  | rejected | coalesced | rerunCoalesced => exact h
  | rerun existing haccepting hactive hlane hrerun hadmitted =>
    refine ⟨h.lanes, fun hclosing => ?_, h.cancelled, h.served, fun lane => ?_⟩
    · rw [show s.closing = true from hclosing] at hopen
      cases hopen haccepting
    have hlimit := h.limit lane
    have hlt := lt_limit_of_admitted hadmitted
    have hset := (Dict.values_set_perm_of_none (⟨s.newHandle r
      (st.effectiveLane r.key r.lane), r.runAt now⟩ : Task) hrerun).countP_eq
        fun task => task.handle.lane = lane
    simp only [pendingCount, queueRerun, hset, countP_cons, decide_eq_true_eq]
      at hlimit hlt ⊢
    split
    · next heq =>
      change st.effectiveLane r.key r.lane = lane at heq
      rw [heq] at hlt
      omega
    · exact hlimit
  | queued s' haccepting hactive hadmitted hput =>
    obtain ⟨-, rfl⟩ := putNowait?_eq_some.mp hput
    exact (hactivated haccepting hactive hadmitted).enqueue (hopen haccepting)
  | delayed haccepting hactive hadmitted =>
    exact (hactivated haccepting hactive hadmitted).pushScheduled (hopen haccepting)

theorem finishTask (h : Attended st s) (hplaced : Placed s [])
    (hworker : s.worker? w = some (.running task)) {completion : Completion}
    (hran : completion ≠ .cancelled) (now : ℚ) :
    Attended st ((s.finishHandle task.handle completion now).1.setWorker w
      (((s.finishHandle task.handle completion now).2.map Worker.taken).getD .waiting)) := by
  have hactive := hplaced.get?_worker hworker rfl
  have hlimit := fun lane => (pendingCount_finishHandle_le hactive completion now lane).trans
    (h.limit lane)
  have herased : ∀ key handle, (s.activeByKey.erase task.handle.key).get? key = some handle →
      0 < st.workers handle.lane := fun key handle hget =>
    h.served key handle (Dict.get?_of_erase hget).2
  have hkeep : ∀ m ∈ s.marks ++ [(task.handle.id, completion)], m.2 = .cancelled →
      s.closing = true := by
    intro m hm hcancelled
    rcases mem_append.mp hm with hold | hnew
    · exact h.cancelled m hold hcancelled
    · rw [mem_singleton.mp hnew] at hcancelled
      exact absurd hcancelled hran
  rcases finishHandle_cases hactive completion now with
    ⟨hnone, heq⟩ | ⟨rerun, hrerun, ⟨hclosing, -⟩ | hsucceed⟩
  · rw [heq] at hlimit ⊢
    have hfinished : Attended st (s.retire task.handle completion) := by
      refine ⟨h.lanes, fun hclosing => ⟨(h.closed hclosing).1, ?_⟩, hkeep, herased, hlimit⟩
      exact (Dict.erase_of_get?_none hnone).trans (h.closed hclosing).2
    exact hfinished.setWorker nofun
  · -- a shutdown has cancelled the reruns
    rw [(h.closed hclosing).2] at hrerun
    cases hrerun
  · obtain ⟨-, existing, hexisting, hlane⟩ := hplaced.rerunKey _ _ hrerun
    have hserved : 0 < st.workers rerun.handle.lane := hlane ▸ h.served _ existing hexisting
    have hopen : s.closing = false := by
      rcases hsucceed with ⟨hopen, -⟩ | ⟨hopen, -⟩ <;> exact hopen
    have hfinished : (∀ lane, (s.succeed task.handle completion rerun).pendingCount lane ≤
        st.limit lane) → Attended st (s.succeed task.handle completion rerun) := by
      refine fun hlimit => ⟨h.lanes, fun hclosing => ?_, hkeep, ?_, hlimit⟩
      · rw [show s.closing = true from hclosing] at hopen
        cases hopen
      intro key handle hget
      change (s.activeByKey.set task.handle.key rerun.handle).get? key = some handle at hget
      rw [Dict.get?_set] at hget
      split at hget
      · cases hget
        exact hserved
      · exact h.served key handle hget
    rcases hsucceed with ⟨-, heq⟩ | ⟨-, heq⟩ <;> rw [heq] at hlimit ⊢
    · exact ((hfinished hlimit).pushScheduled hopen).setWorker nofun
    · exact (hfinished hlimit).setWorker nofun

theorem workerExit (h : Attended st s) (hclosing : s.closing = true)
    (hqueue : (s.lanes w.1).queue = []) : Attended st (s.setWorker w .exited) := by
  obtain ⟨hworkers, -, hscheduler⟩ := h.lanes w.1
  exact h.updateLane ⟨(length_set ..).trans hworkers, fun _ => ⟨hclosing, hqueue⟩, hscheduler⟩

theorem dequeue (h : Attended st s) {rest : List Task}
    (hqueue : (s.lanes w.1).queue = task :: rest) : Attended st
      ((s.updateLane w.1 fun l => { l with queue := rest }).setWorker w (.taken task)) := by
  obtain ⟨hworkers, hexited, hscheduler⟩ := h.lanes w.1
  refine Attended.setWorker (h.updateLane ⟨hworkers, fun hmem => ?_, hscheduler⟩) nofun
  rw [hqueue] at hexited
  cases (hexited hmem).2

theorem startTask (h : Attended st s) : Attended st { s.setWorker w (.running task) with
      starts := s.starts ++ [(task.handle.id, w)] } := by
  have hrunning : Attended st (s.setWorker w (.running task)) := h.setWorker nofun
  obtain ⟨hlanes, hclosed, hcancelled, hserved, hlimit⟩ := hrunning
  exact ⟨hlanes, hclosed, hcancelled, hserved, hlimit⟩

/-- A scheduler that is there hands a task over. -/
theorem handOver (h : Attended st s) (hopen : s.closing = false) :
    Attended st ((s.putNowait? st lane task).getD
      (s.updateLane lane fun l => { l with hand := some task })) := by
  cases hput : s.putNowait? st lane task with
  | some queued =>
    obtain ⟨-, rfl⟩ := putNowait?_eq_some.mp hput
    exact h.enqueue hopen
  | none =>
    rw [Option.getD_none]
    have hlane := h.lanes lane
    refine h.updateLane ⟨hlane.workers, hlane.exited, fun hleft => ?_⟩
    rw [(hlane.schedulerExited hleft).1] at hopen
    cases hopen

/-- What the scheduler has in its hand is taken out. -/
theorem dropped (h : Attended st s) (lane : Lane) :
    Attended st (s.updateLane lane fun l => { l with hand := none }) := by
  have hlane := h.lanes lane
  refine h.updateLane ⟨hlane.workers, hlane.exited, fun hleft => ?_⟩
  exact (hlane.schedulerExited hleft).imp_right fun hnone => ⟨hnone.1, rfl⟩

theorem cancelHand (h : Attended st s) (hclosing : s.closing = true) (lane : Lane)
    (task : Task) :
    Attended st (((s.updateLane lane fun l => { l with hand := none }).cancelTask
      task).exitScheduler lane) := by
  have hframe := cancelTask_frame (s.updateLane lane fun l => { l with hand := none }) task
  refine ((h.dropped lane).cancelTasks hclosing [task]).exitScheduler
    (hframe.closing.trans hclosing) ?_
  refine (congrArg LaneState.hand (congrFun hframe.lanes lane)).trans ?_
  rw [updateLane_lanes, Function.update_self]

theorem shutdown (h : Attended st s) : Attended st s.shutdown := by
  unfold Executor.shutdown
  rw [cancelReruns_eq]
  refine ⟨fun lane => ?_, fun _ => ⟨rfl, rfl⟩, fun _ _ _ => rfl, h.served, fun lane => ?_⟩
  · obtain ⟨hworkers, hexited, hscheduler⟩ := h.lanes lane
    exact ⟨hworkers, fun hmem => ⟨rfl, (hexited hmem).2⟩,
      fun hleft => ⟨rfl, (hscheduler hleft).2⟩⟩
  · refine le_trans ?_ (h.limit lane)
    simp only [pendingCount, Dict.values_empty, countP_nil]
    omega

/-- **Every step keeps it.** -/
theorem step (h : Attended st s) (hplaced : Placed s []) {a : Action}
    (hs : Executor.step st s a = some s') : Attended st s' := by
  cases step_stepped hs with
  | submit caller now request => exact h.submit hplaced caller now request
  | idle => exact h
  | dequeue _ hqueue => exact h.dequeue hqueue
  | workerExit _ hclosing hqueue => exact h.workerExit hclosing hqueue
  | startTask => exact h.startTask
  | finishTask now hworker hran => exact h.finishTask hplaced hworker hran now
  | exitScheduler hclosing hhand => exact h.exitScheduler hclosing hhand
  | @handOver lane _ _ _ rest hopen hstays hhand hscheduled =>
    have hlane := h.lanes lane
    have hpopped : Attended st (s.updateLane lane fun l => { l with scheduled := rest }) := by
      refine h.updateLane ⟨hlane.workers, hlane.exited, fun hleft => ?_⟩
      rw [show (s.lanes lane).schedulerExited = true from hleft] at hstays
      cases hstays
    exact hpopped.handOver hopen
  | cancelHand hclosing _ => exact h.cancelHand hclosing _ _
  | @retryPut lane _ _ hopen _ hput =>
    obtain ⟨-, rfl⟩ := putNowait?_eq_some.mp hput
    exact (h.dropped lane).enqueue hopen
  | shutdown => exact h.shutdown

end Attended

/-! ## The threads can finish every task -/

/-- An action of a worker or of a scheduler. -/
def Action.ofThread : Action → Bool
  | .submit .. | .shutdown => false
  | _ => true

end Executor

/-- What is left to do in a lane: a task has the more before it the farther it is from its end.
-/
def LaneState.load (l : LaneState) : ℕ :=
  5 * l.scheduled.length + 4 * l.hand.toList.length + 3 * l.queue.length +
    (l.workers.filterMap Worker.taken?).length + (l.workers.filterMap Worker.task?).length

namespace Executor

variable {st : Settings} {s s' : Executor}

/-- What is left to do. -/
def load (s : Executor) : ℕ :=
  (Lane.all.map fun lane => (s.lanes lane).load).sum + 6 * s.rerunByKey.values.length

theorem load_updateLane (s : Executor) (lane : Lane) (f : LaneState → LaneState) :
    (s.updateLane lane f).load + (s.lanes lane).load = s.load + (f (s.lanes lane)).load := by
  unfold load
  rw [updateLane_lanes, updateLane_rerunByKey]
  cases lane <;>
    simp only [Lane.all, map_cons, map_nil, sum_cons, sum_nil,
      Function.update_self, ne_eq, reduceCtorEq, not_false_eq_true, Function.update_of_ne] <;>
    omega

theorem load_setWorker {w : WorkerId} {old : Worker} (h : s.worker? w = some old)
    (new : Worker) :
    (s.setWorker w new).load + (old.taken?.toList.length + old.task?.toList.length) =
      s.load + (new.taken?.toList.length + new.task?.toList.length) := by
  have hload := s.load_updateLane w.1 fun l => { l with workers := l.workers.set w.2 new }
  have htaken := (LaneState.filterMap_set_perm h new Worker.taken?).length_eq
  have htask := (LaneState.filterMap_set_perm h new Worker.task?).length_eq
  unfold setWorker
  simp only [LaneState.load, length_append] at hload htaken htask ⊢
  omega

theorem load_pushScheduled (s : Executor) (lane : Lane) (task : Task) :
    (s.pushScheduled lane task).load = s.load + 5 := by
  have hload := s.load_updateLane lane fun l =>
    { l with scheduled := l.scheduled.orderedInsert heapOrder (s.serial, task) }
  have hsame : (s.pushScheduled lane task).load = (s.updateLane lane fun l =>
      { l with scheduled := l.scheduled.orderedInsert heapOrder (s.serial, task) }).load := rfl
  simp only [LaneState.load, orderedInsert_length] at hload
  omega

theorem load_cancelTasks (s : Executor) (tasks : List Task) :
    (tasks.foldl cancelTask s).load = s.load := by
  have hframe := cancelTasks_frame s tasks
  unfold load
  rw [hframe.lanes, hframe.rerunByKey]

/-- A scheduler that leaves has no scheduled task any more. -/
theorem load_exitScheduler (s : Executor) (lane : Lane) :
    (s.exitScheduler lane).load + 5 * (s.lanes lane).scheduled.length = s.load := by
  have hcleared := s.load_updateLane lane fun l => { l with scheduled := [] }
  have hcancelled := (s.updateLane lane fun l => { l with scheduled := [] }).load_cancelTasks
    ((s.lanes lane).scheduled.map Prod.snd)
  have hleft := (s.cancelScheduledLane lane).load_updateLane lane fun l =>
    { l with schedulerExited := true }
  unfold exitScheduler
  unfold cancelScheduledLane at hleft ⊢
  simp only [LaneState.load, length_nil] at hcleared hleft
  omega

/-- A task that is put into the queue, or into the hand of the scheduler, has come nearer. -/
theorem load_handOver_le (st : Settings) (s : Executor) {lane : Lane}
    (hhand : (s.lanes lane).hand = none)
    (task : Task) : ((s.putNowait? st lane task).getD
      (s.updateLane lane fun l => { l with hand := some task })).load ≤ s.load + 4 := by
  cases hput : s.putNowait? st lane task with
  | some queued =>
    obtain ⟨-, rfl⟩ := putNowait?_eq_some.mp hput
    have hload := s.load_updateLane lane fun l => { l with queue := l.queue ++ [task] }
    rw [Option.getD_some]
    simp only [LaneState.load, length_append, length_singleton] at hload
    omega
  | none =>
    have hload := s.load_updateLane lane fun l => { l with hand := some task }
    rw [Option.getD_none]
    simp only [LaneState.load, hhand, Option.toList_some, Option.toList_none, length_nil,
      length_singleton] at hload
    omega

theorem load_finishHandle {handle : Handle} (hget : s.activeByKey.get? handle.key = some handle)
    (completion : Completion) (now : ℚ) :
    (s.finishHandle handle completion now).1.load +
      2 * (s.finishHandle handle completion now).2.toList.length ≤ s.load := by
  have hretired : (s.retire handle completion).load ≤ s.load := by
    refine Nat.add_le_add_left (Nat.mul_le_mul_left 6 ?_) _
    cases hrerun : s.rerunByKey.get? handle.key with
    | none => exact (congrArg (fun d => d.values.length) (Dict.erase_of_get?_none hrerun)).le
    | some rerun =>
      have hlength := (Dict.values_perm_erase hrerun).length_eq
      rw [length_cons] at hlength
      exact (Nat.le_succ _).trans hlength.ge
  have hsucceeded : ∀ rerun, s.rerunByKey.get? handle.key = some rerun →
      (s.succeed handle completion rerun).load + 6 = s.load := by
    intro rerun hrerun
    have hlength := (Dict.values_perm_erase hrerun).length_eq
    simp only [load, succeed, length_cons] at hlength ⊢
    omega
  rcases finishHandle_cases hget completion now with
    ⟨-, heq⟩ | ⟨rerun, hrerun, ⟨-, heq⟩ | ⟨-, heq⟩ | ⟨-, heq⟩⟩
  · rw [heq]
    exact hretired
  · rw [heq]
    exact hretired
  · have hload := (s.succeed handle completion rerun).load_pushScheduled rerun.handle.lane rerun
    have hless := hsucceeded rerun hrerun
    rw [heq]
    simp only [Option.toList_none, length_nil]
    omega
  · have hless := hsucceeded rerun hrerun
    rw [heq]
    simp only [Option.toList_some, length_singleton]
    omega

/-- A lane whose queue is not empty has a worker that can go on. -/
theorem queue_progress (h : Attended st s) {lane : Lane} (hqueue : (s.lanes lane).queue ≠ [])
    (hserved : 0 < st.workers lane)
    (hbusy : ∀ w worker task, s.worker? w = some worker → worker.task? ≠ some task) :
    ∃ a s', a.ofThread = true ∧ step st s a = some s' ∧ s'.load < s.load := by
  have hlane := h.lanes lane
  have hlength : 0 < (s.lanes lane).workers.length := hlane.workers ▸ hserved
  obtain ⟨worker, hworker⟩ : ∃ worker, s.worker? (lane, 0) = some worker :=
    ⟨_, List.getElem?_eq_getElem hlength⟩
  cases hat : worker with
  | taken task | running task =>
    rw [hat] at hworker
    exact absurd rfl (hbusy _ _ task hworker)
  | exited =>
    rw [hat] at hworker
    exact absurd (hlane.exited (mem_of_getElem? hworker)).2 hqueue
  | waiting =>
    rw [hat] at hworker
    cases hcase : (s.lanes lane).queue with
    | nil => exact absurd hcase hqueue
    | cons task rest =>
      refine ⟨.dequeue (lane, 0), (s.updateLane lane fun l => { l with queue := rest }).setWorker
        (lane, 0) (.taken task), rfl, ?_, ?_⟩
      · simp only [step, dequeue?, hworker, hcase]
      have hpopped := s.load_updateLane lane fun l => { l with queue := rest }
      have htaken := load_setWorker ((@worker?_updateLane s lane (fun l =>
        { l with queue := rest }) rfl (lane, 0)).trans hworker) (.taken task)
      simp only [LaneState.load, hcase, length_cons, Worker.taken?, Worker.task?,
        Option.toList_some, Option.toList_none, length_nil] at hpopped htaken
      omega

/-- What the hand of a scheduler holds is cancelled or goes into the queue; where the queue is
full, its workers go on. -/
theorem hand_progress (h : Attended st s) {lane : Lane} {task : Task}
    (hhand : (s.lanes lane).hand = some task) (hserved : 0 < st.workers lane)
    (hbusy : ∀ w worker task, s.worker? w = some worker → worker.task? ≠ some task) :
    ∃ a s', a.ofThread = true ∧ step st s a = some s' ∧ s'.load < s.load := by
  have hdropped := s.load_updateLane lane fun l => { l with hand := none }
  simp only [LaneState.load, hhand, Option.toList_some, Option.toList_none, length_nil,
    length_singleton] at hdropped
  by_cases hclosing : s.closing = true
  · refine ⟨.retryPut lane, ((s.updateLane lane fun l => { l with hand := none }).cancelTask
      task).exitScheduler lane, rfl, ?_, ?_⟩
    · simp only [step, retryPut?, hhand, if_pos hclosing]
    have hcancelled := (s.updateLane lane fun l =>
      { l with hand := none }).load_cancelTasks [task]
    have hexit := ((s.updateLane lane fun l => { l with hand := none }).cancelTask
      task).load_exitScheduler lane
    rw [foldl_cons, foldl_nil] at hcancelled
    omega
  · by_cases hroom : (s.lanes lane).queue.length < st.capacity lane
    · have hput : (s.updateLane lane fun l => { l with hand := none }).putNowait? st lane task =
          some ((s.updateLane lane fun l => { l with hand := none }).updateLane lane fun l =>
            { l with queue := l.queue ++ [task] }) := by
        refine putNowait?_eq_some.mpr ⟨?_, rfl⟩
        rwa [updateLane_lanes, Function.update_self]
      refine ⟨.retryPut lane, (s.updateLane lane fun l =>
        { l with hand := none }).updateLane lane
        fun l => { l with queue := l.queue ++ [task] }, rfl, ?_, ?_⟩
      · simp only [step, retryPut?, hhand, if_neg hclosing, hput, Option.getD_some]
      have hqueued := (s.updateLane lane fun l => { l with hand := none }).load_updateLane lane
        fun l => { l with queue := l.queue ++ [task] }
      simp only [LaneState.load, length_append, length_singleton] at hqueued
      omega
    · refine queue_progress h (fun hempty => ?_) hserved hbusy
      rw [hempty, length_nil] at hroom
      exact hroom (st.capacity_pos lane)

/-- **While a task is not done, some thread can take a step towards its end.** -/
theorem progress (hplaced : Placed s []) (h : Attended st s) (hidle : s.idle = false) :
    ∃ a s', a.ofThread = true ∧ step st s a = some s' ∧ s'.load < s.load := by
  by_cases hbusy : ∃ w worker task, s.worker? w = some worker ∧ worker.task? = some task
  · obtain ⟨w, worker, task, hworker, htask⟩ := hbusy
    cases worker with
    | waiting | exited => cases htask
    | taken taken =>
      refine ⟨.startTask w, { s.setWorker w (.running taken) with
        starts := s.starts ++ [(taken.handle.id, w)] }, rfl, ?_, ?_⟩
      · simp only [step, startTask?, hworker]
      have hload := load_setWorker hworker (.running taken)
      have hsame : ({ s.setWorker w (.running taken) with
        starts := s.starts ++ [(taken.handle.id, w)] } : Executor).load =
          (s.setWorker w (.running taken)).load := rfl
      simp only [Worker.taken?, Worker.task?, Option.toList_some, Option.toList_none,
        length_nil, length_singleton] at hload
      omega
    | running running =>
      have hactive := hplaced.get?_worker hworker rfl
      refine ⟨.finishTask w false 0, (s.finishHandle running.handle .returned 0).1.setWorker w
        (((s.finishHandle running.handle .returned 0).2.map Worker.taken).getD .waiting), rfl,
        ?_, ?_⟩
      · simp only [step, finishTask?, hworker]
        rfl
      have hfinished := load_finishHandle hactive .returned 0
      have hworker' := (finishHandle_worker? hactive .returned 0 w).trans hworker
      have hload := load_setWorker hworker'
        (((s.finishHandle running.handle .returned 0).2.map Worker.taken).getD .waiting)
      cases hnext : (s.finishHandle running.handle .returned 0).2 with
      | none | some next =>
        rw [hnext] at hfinished hload
        simp only [Option.map_none, Option.map_some, Option.getD_none, Option.getD_some,
          Worker.taken?, Worker.task?, Option.toList_some, Option.toList_none,
          length_nil, length_singleton] at hfinished hload ⊢
        omega
  · have hfree : ∀ w worker task, s.worker? w = some worker → worker.task? ≠ some task :=
      fun w worker task hworker htask => hbusy ⟨w, worker, task, hworker, htask⟩
    obtain ⟨task, htask⟩ : ∃ task, task ∈ s.tasks := by
      have hactive : s.activeByKey.values ≠ [] := by
        intro hnone
        have hempty : s.activeByKey = ∅ := Dict.ext_items (map_eq_nil_iff.mp hnone)
        have hrerun : s.rerunByKey = ∅ := Dict.eq_empty_iff.mpr fun key => by
          cases hget : s.rerunByKey.get? key with
          | none => rfl
          | some rerun =>
            obtain ⟨-, handle, hhandle, -⟩ := hplaced.rerunKey key rerun hget
            rw [hempty] at hhandle
            cases hhandle
        unfold idle at hidle
        rw [hempty, hrerun] at hidle
        cases hidle
      have hlength := hplaced.tasks.length_eq
      rw [append_nil, length_map] at hlength
      exact exists_mem_of_length_pos (hlength ▸ length_pos_of_ne_nil hactive)
    have hserved := h.served _ _ (hplaced.get?_active (mem_append_left _ htask))
    obtain ⟨lane, hlane⟩ := mem_tasks.mp htask
    rw [hplaced.lanes lane task hlane] at hserved
    cases hhand : (s.lanes lane).hand with
    | some held => exact hand_progress h hhand hserved hfree
    | none =>
      unfold LaneState.tasks at hlane
      simp only [hhand, Option.toList_none, nil_append, mem_append] at hlane
      rcases hlane with hqueue | hscheduled | hworkers
      · exact queue_progress h (ne_nil_of_mem hqueue) hserved hfree
      · cases hheap : (s.lanes lane).scheduled with
        | nil =>
          rw [hheap] at hscheduled
          cases hscheduled
        | cons entry rest =>
          obtain ⟨serial, first⟩ := entry
          have hthere : ¬((s.lanes lane).schedulerExited = true ∨
              (s.lanes lane).hand ≠ none) := by
            rintro (hleft | hheld)
            · rw [((h.lanes lane).schedulerExited hleft).2.1] at hheap
              cases hheap
            · exact hheld hhand
          by_cases hclosing : s.closing = true
          · refine ⟨.schedule lane first.runAt, s.exitScheduler lane, rfl, ?_, ?_⟩
            · simp only [step, schedule?, if_neg hthere, if_pos hclosing]
            · have hexit := s.load_exitScheduler lane
              rw [hheap, length_cons] at hexit
              omega
          · refine ⟨.schedule lane first.runAt,
              ((s.updateLane lane fun l => { l with scheduled := rest }).putNowait? st lane
                first).getD ((s.updateLane lane fun l => { l with scheduled := rest }).updateLane
                  lane fun l => { l with hand := some first }), rfl, ?_, ?_⟩
            · simp only [step, schedule?, if_neg hthere, if_neg hclosing, hheap,
                lt_irrefl, if_false]
            have hpopped := s.load_updateLane lane fun l => { l with scheduled := rest }
            have hput := load_handOver_le st
              (s.updateLane lane fun l => { l with scheduled := rest })
              (show (_ : LaneState).hand = none by
                rwa [updateLane_lanes, Function.update_self]) first
            simp only [LaneState.load, hheap, length_cons] at hpopped
            omega
      · obtain ⟨worker, hworker, hat⟩ := mem_filterMap.mp hworkers
        obtain ⟨i, hi⟩ := List.getElem?_of_mem hworker
        exact absurd hat (hfree (lane, i) worker task hi)

/-! ## Later states -/

/-- What a later state keeps. -/
structure Extends (s s' : Executor) : Prop where
  starts : s.starts <+: s'.starts
  nextHandle : s.nextHandle ≤ s'.nextHandle

namespace Extends

theorem refl (s : Executor) : Extends s s := ⟨prefix_rfl, le_rfl⟩

theorem trans {t : Executor} (h : Extends s s') (h' : Extends s' t) : Extends s t :=
  ⟨h.starts.trans h'.starts, h.nextHandle.trans h'.nextHandle⟩

theorem of_eq (hstarts : s'.starts = s.starts) (hnext : s'.nextHandle = s.nextHandle) :
    Extends s s' := ⟨hstarts ▸ prefix_rfl, hnext.ge⟩

theorem exitScheduler (s : Executor) (lane : Lane) : Extends s (s.exitScheduler lane) := by
  have hframe := cancelTasks_frame (s.updateLane lane fun l => { l with scheduled := [] })
    ((s.lanes lane).scheduled.map Prod.snd)
  exact of_eq hframe.starts hframe.nextHandle

theorem handOver (s : Executor) (lane : Lane) (task : Task) :
    Extends s ((s.putNowait? st lane task).getD
      (s.updateLane lane fun l => { l with hand := some task })) := by
  cases hput : s.putNowait? st lane task with
  | some queued =>
    obtain ⟨-, rfl⟩ := putNowait?_eq_some.mp hput
    exact of_eq rfl rfl
  | none => exact of_eq rfl rfl

theorem submit (hplaced : Placed s []) (caller : Option WorkerId) (now : ℚ) (request : Request) :
    Extends s (s.submit st caller now request).1 := by
  have hsubmitted := submit_submitted st hplaced caller now request
  generalize s.submit st caller now request = result at hsubmitted ⊢
  cases hsubmitted with
  | rejected | coalesced | rerunCoalesced => exact refl s
  | rerun | delayed => exact ⟨prefix_rfl, Nat.le_succ _⟩
  | queued s' _ _ _ hput =>
    obtain ⟨-, rfl⟩ := putNowait?_eq_some.mp hput
    exact ⟨prefix_rfl, Nat.le_succ _⟩

theorem step (hplaced : Placed s []) {a : Action} (hs : Executor.step st s a = some s') :
    Extends s s' := by
  cases step_stepped hs with
  | submit caller now request => exact submit hplaced caller now request
  | idle => exact refl s
  | dequeue | workerExit => exact of_eq rfl rfl
  | startTask => exact ⟨prefix_append _ _, le_rfl⟩
  | @finishTask _ _ _ completion now hworker _ =>
    have hactive := hplaced.get?_worker hworker rfl
    rcases finishHandle_cases hactive completion now with
      ⟨-, heq⟩ | ⟨rerun, -, ⟨-, heq⟩ | ⟨-, heq⟩ | ⟨-, heq⟩⟩ <;>
      rw [heq] <;>
      exact of_eq rfl rfl
  | exitScheduler => exact exitScheduler s _
  | @handOver lane _ _ task rest =>
    have hpopped : Extends s (s.updateLane lane fun l => { l with scheduled := rest }) :=
      of_eq rfl rfl
    exact hpopped.trans (handOver _ lane task)
  | @cancelHand lane task =>
    have hframe := cancelTask_frame (s.updateLane lane fun l => { l with hand := none }) task
    have hcancelled : Extends s
        ((s.updateLane lane fun l => { l with hand := none }).cancelTask task) :=
      of_eq hframe.starts hframe.nextHandle
    exact hcancelled.trans (exitScheduler _ lane)
  | retryPut _ _ hput =>
    obtain ⟨-, rfl⟩ := putNowait?_eq_some.mp hput
    exact of_eq rfl rfl
  | shutdown =>
    unfold Executor.shutdown
    rw [cancelReruns_eq]
    exact of_eq rfl rfl

end Extends

/-! ## Runs -/

/-- The invariants together. -/
structure Sound (st : Settings) (s : Executor) : Prop where
  placed : Placed s []
  started : Started s
  attended : Attended st s

namespace Sound

theorem start (st : Settings) : Sound st (Executor.start st) :=
  ⟨Placed.start st, Started.start st, Attended.start st⟩

theorem step (h : Sound st s) {a : Action} (hs : Executor.step st s a = some s') : Sound st s' :=
  ⟨h.placed.step (fun hclosing => (h.attended.closed hclosing).2) hs,
    h.started.step h.placed hs, h.attended.step h.placed hs⟩

theorem run (h : Sound st s) {actions : List Action}
    (hrun : Run.exec (Executor.step st) s actions = some s') : Sound st s' :=
  Run.exec_preserves (fun _ _ _ h hs => h.step hs) h hrun

/-- A later state of a run. -/
theorem extends_run (h : Sound st s) {actions : List Action}
    (hrun : Run.exec (Executor.step st) s actions = some s') : Extends s s' := by
  have hboth := Run.exec_preserves (I := fun t => Sound st t ∧ Extends s t)
    (fun _ _ _ hI hs => ⟨hI.1.step hs, hI.2.trans (Extends.step hI.1.placed hs)⟩)
    ⟨h, Extends.refl s⟩ hrun
  exact hboth.2

/-- When nothing is active, every handle is marked. -/
theorem marked_of_inactive (h : Sound st s) (hactive : s.activeByKey = ∅) {id : ℕ}
    (hid : id < s.nextHandle) : id ∈ s.marks.map Prod.fst := by
  have hrerun : s.rerunByKey = ∅ := Dict.eq_empty_iff.mpr fun key => by
    cases hget : s.rerunByKey.get? key with
    | none => rfl
    | some rerun =>
      obtain ⟨-, handle, hhandle, -⟩ := h.placed.rerunKey key rerun hget
      rw [hactive] at hhandle
      cases hhandle
  have hmem := h.placed.ids.symm.subset (mem_range.mpr hid)
  rw [hactive, hrerun] at hmem
  exact hmem

/-- **The threads can finish every task.** -/
theorem drains (h : Sound st s) : ∃ rest t, (∀ a ∈ rest, a.ofThread = true) ∧
    Run.exec (Executor.step st) s rest = some t ∧ t.idle = true ∧
      ∀ id < s.nextHandle, id ∈ t.marks.map Prod.fst := by
  have hprogress : ∀ s, Sound st s → ¬s.idle = true → ∃ a s', a.ofThread = true ∧
      Executor.step st s a = some s' ∧ Sound st s' ∧ s'.load < s.load := by
    intro s h hbusy
    obtain ⟨a, s', hthread, hs, hless⟩ :=
      progress h.placed h.attended (Bool.eq_false_iff.mpr hbusy)
    exact ⟨a, s', hthread, hs, h.step hs, hless⟩
  obtain ⟨rest, t, hthreads, hrun, hsound, hidle⟩ := Run.exec_reaches load hprogress h
  refine ⟨rest, t, hthreads, hrun, hidle, fun id hid => ?_⟩
  have hactive : t.activeByKey = ∅ :=
    Dict.isEmpty_iff.mp (Bool.and_eq_true_iff.mp hidle).1
  exact hsound.marked_of_inactive hactive (hid.trans_le (h.extends_run hrun).nextHandle)

/-- When every thread has left, no task is left. -/
theorem inactive_of_left (h : Sound st s)
    (hschedulers : ∀ lane, (s.lanes lane).schedulerExited = true)
    (hworkers : ∀ lane, ∀ worker ∈ (s.lanes lane).workers, worker = .exited) :
    s.activeByKey = ∅ := by
  have hnone : s.tasks = [] := by
    refine eq_nil_iff_forall_not_mem.mpr fun task htask => ?_
    have hserved := h.attended.served _ _
      (h.placed.get?_active (mem_append_left _ htask))
    obtain ⟨lane, hlane⟩ := mem_tasks.mp htask
    rw [h.placed.lanes lane task hlane] at hserved
    have hattended := h.attended.lanes lane
    obtain ⟨-, hscheduled, hhand⟩ := hattended.schedulerExited (hschedulers lane)
    obtain ⟨worker, hworker⟩ := exists_mem_of_length_pos (hattended.workers ▸ hserved)
    have hexited : Worker.exited ∈ (s.lanes lane).workers :=
      hworkers lane worker hworker ▸ hworker
    unfold LaneState.tasks at hlane
    rw [(hattended.exited hexited).2, hscheduled, hhand] at hlane
    obtain ⟨other, hother, hat⟩ := mem_filterMap.mp hlane
    rw [hworkers lane other hother] at hat
    cases hat
  have hvalues := h.placed.tasks.symm
  rw [hnone] at hvalues
  exact Dict.ext_items (map_eq_nil_iff.mp hvalues.eq_nil)

/-- **One worker at a time** runs a key. -/
theorem one_at_a_time (h : Sound st s) {v w : WorkerId} {task other : Task}
    (hv : s.worker? v = some (.running task)) (hw : s.worker? w = some (.running other))
    (hkey : task.handle.key = other.handle.key) : v = w := by
  by_contra hne
  -- the first worker gives its task away: the other one has it still
  have htaken : Placed (s.setWorker v .waiting) [task] :=
    h.placed.setWorker hv .waiting (List.Perm.refl _) nofun
  have hother : (s.setWorker v .waiting).worker? w = some (.running other) := by
    unfold Executor.setWorker worker? at *
    rw [updateLane_lanes]
    by_cases hlane : w.1 = v.1
    · have hindex : v.2 ≠ w.2 := fun heq => hne (Prod.ext hlane.symm heq)
      rw [hlane, Function.update_self]
      rw [hlane] at hw
      exact (List.getElem?_set_ne hindex).trans hw
    · rw [Function.update_of_ne hlane]
      exact hw
  have hsame : task.handle = other.handle := by
    have hactive := h.placed.get?_worker hv rfl
    rw [hkey, h.placed.get?_worker hw rfl] at hactive
    exact (Option.some.inj hactive).symm
  have hnodup := htaken.nodup_tasks
  rw [map_append, nodup_append] at hnodup
  have hheld : other ∈ (s.setWorker v .waiting).tasks :=
    mem_tasks.mpr ⟨w.1, Placed.mem_of_worker hother rfl⟩
  exact hnodup.2.2 _ (mem_map_of_mem hheld) _ (mem_singleton_self _)
    (congrArg Handle.id hsame.symm)

/-- **What an accepted submission answers**: a handle of its key that is not done, and for a
resubmission one that was not started. -/
theorem submit_accepted (h : Sound st s) {caller : Option WorkerId} {now : ℚ} {r : Request}
    (haccepted : (s.submit st caller now r).2.accepted = true) :
    ∃ handle, (s.submit st caller now r).2.handle = some handle ∧ handle.key = r.key ∧
      s.done handle = false ∧
      (r.resubmitAfterCurrent = true → handle.id ∉ s.startedIds) := by
  have hsubmitted := submit_submitted st h.placed caller now r
  have hfresh : ∀ lane, s.done (s.newHandle r lane) = false := fun lane =>
    decide_eq_false fun hmarked => by
      have hid := h.placed.ids.subset (mem_append_right _ hmarked)
      exact lt_irrefl _ (mem_range.mp hid)
  generalize s.submit st caller now r = result at hsubmitted haccepted ⊢
  cases hsubmitted with
  | rejected => cases haccepted
  | coalesced existing hactive hresubmit =>
    refine ⟨existing, rfl, h.placed.activeKey _ _ hactive, h.placed.not_done hactive, ?_⟩
    rw [hresubmit]
    exact nofun
  | rerunCoalesced rerun hrerun =>
    exact ⟨rerun.handle, rfl, (h.placed.rerunKey _ _ hrerun).1, h.placed.rerun_not_done hrerun,
      fun _ => h.started.reruns _ _ hrerun⟩
  | rerun | delayed => exact ⟨_, rfl, rfl, hfresh _, fun _ => h.started.fresh⟩
  | queued => exact ⟨_, rfl, rfl, hfresh _, fun _ => h.started.fresh⟩

/-- A handle that was not started is done later by a later run, or by a shutdown. -/
theorem done_later {handle : Handle} (hfresh : handle.id ∉ s.startedIds)
    (hextends : Extends s s') (h' : Sound st s') (hdone : s'.done handle = true) :
    (∃ w, (handle.id, w) ∈ s'.starts.drop s.starts.length) ∨
      (handle.id, .cancelled) ∈ s'.marks ∧ s'.closing = true := by
  obtain ⟨⟨id, completion⟩, hm, hid⟩ := mem_map.mp (of_decide_eq_true hdone)
  change id = handle.id at hid
  subst hid
  by_cases hcancelled : completion = .cancelled
  · subst hcancelled
    exact .inr ⟨hm, h'.attended.cancelled _ hm rfl⟩
  have hstarted := (h'.started.marks _ hm).mp hcancelled
  obtain ⟨later, hlater⟩ := hextends.starts
  obtain ⟨⟨other, w⟩, hw, hother⟩ := mem_map.mp hstarted
  change other = handle.id at hother
  subst hother
  rw [← hlater] at hw
  refine .inl ⟨w, ?_⟩
  rw [← hlater, drop_left]
  rcases mem_append.mp hw with hold | hnew
  · exact absurd (mem_map_of_mem hold) hfresh
  · exact hnew

end Sound

/-- **Keyed background tasks.**  In every state that any steps of the callers and the threads
reach: no two workers run the same key; no handle is marked twice or started twice, and what is
marked was run, or was cancelled by a shutdown and not run; the threads can finish every handle,
and have when nothing is active or when they have all left; an accepted submission answers a
handle of its key that is not done, and a resubmission one that is run afterwards, if a shutdown
does not cancel it; and the lanes are within their limits, which share out `maxPendingTasks`. -/
theorem keyed_tasks_sound {actions : List Action}
    (hrun : Run.exec (step st) (Executor.start st) actions = some s) :
    (∀ v w task other, s.worker? v = some (.running task) → s.worker? w = some (.running other) →
      task.handle.key = other.handle.key → v = w) ∧
    (s.marks.map Prod.fst).Nodup ∧ s.startedIds.Nodup ∧
    (∀ m ∈ s.marks, m.2 ≠ .cancelled ∧ m.1 ∈ s.startedIds ∨
      m.2 = .cancelled ∧ m.1 ∉ s.startedIds ∧ s.closing = true) ∧
    (∃ rest t, (∀ a ∈ rest, a.ofThread = true) ∧ Run.exec (step st) s rest = some t ∧
      t.idle = true ∧ ∀ id < s.nextHandle, id ∈ t.marks.map Prod.fst) ∧
    (s.idle = true ∨ ((∀ lane, (s.lanes lane).schedulerExited = true) ∧
        ∀ lane, ∀ worker ∈ (s.lanes lane).workers, worker = .exited) →
      ∀ id < s.nextHandle, id ∈ s.marks.map Prod.fst) ∧
    (∀ caller now r, (s.submit st caller now r).2.accepted = true →
      ∃ handle, (s.submit st caller now r).2.handle = some handle ∧ handle.key = r.key ∧
        s.done handle = false ∧
        (r.resubmitAfterCurrent = true → handle.id ∉ s.startedIds ∧
          ∀ rest t, Run.exec (step st) (s.submit st caller now r).1 rest = some t →
            t.done handle = true → (∃ w, (handle.id, w) ∈ t.starts.drop s.starts.length) ∨
              (handle.id, .cancelled) ∈ t.marks ∧ t.closing = true)) ∧
    (∀ lane, s.pendingCount lane ≤ st.limit lane) ∧
    st.limit .default + st.limit .safety + st.limit .emergency = st.maxPendingTasks := by
  have h : Sound st s := (Sound.start st).run hrun
  refine ⟨fun _ _ _ _ => h.one_at_a_time, ?_, h.started.nodup, ?_, h.drains, ?_, ?_,
    h.attended.limit, st.limit_add⟩
  · exact (nodup_append.mp h.placed.nodup_ids).2.1
  · intro m hm
    have hstarted := h.started.marks m hm
    by_cases hcancelled : m.2 = .cancelled
    · exact .inr ⟨hcancelled, fun hmem => hstarted.mpr hmem hcancelled,
        h.attended.cancelled m hm hcancelled⟩
    · exact .inl ⟨hcancelled, hstarted.mp hcancelled⟩
  · rintro (hidle | ⟨hschedulers, hworkers⟩) id hid
    · exact h.marked_of_inactive (Dict.isEmpty_iff.mp (Bool.and_eq_true_iff.mp hidle).1) hid
    · exact h.marked_of_inactive (h.inactive_of_left hschedulers hworkers) hid
  · intro caller now r haccepted
    obtain ⟨handle, hhandle, hkey, hdone, hfresh⟩ := h.submit_accepted haccepted
    refine ⟨handle, hhandle, hkey, hdone, fun hresubmit => ⟨hfresh hresubmit, ?_⟩⟩
    intro rest t hrest hmarked
    have hsubmit : step st s (.submit caller now r) = some (s.submit st caller now r).1 := rfl
    have hnext := h.step hsubmit
    exact Sound.done_later (hfresh hresubmit)
      ((Extends.step h.placed hsubmit).trans (hnext.extends_run hrest)) (hnext.run hrest) hmarked

/-- The settings of the default arguments. -/
def defaults : Settings where
  maxWorkers := 8
  safetyWorkers := 2
  queueCapacity := 64
  safetyQueueCapacity := 16
  emergencyQueueCapacity := 4
  maxPendingTasks := 88
  two_le_workers := by decide
  safetyWorkers_pos := by decide
  safetyWorkers_lt := by decide
  queueCapacity_pos := by decide
  safetyQueueCapacity_pos := by decide
  emergencyQueueCapacity_pos := by decide
  workers_le_pending := by decide

example : construct {} = .ok defaults := rfl

/-- A cancellation is submitted again while it runs: its rerun stays with the worker, which runs
it next. -/
theorem keyed_tasks_sound_resubmitted : ∃ s : Executor,
    Run.exec (step defaults) (Executor.start defaults)
      [.submit none 0 { key := "cancel-retry:BTCUSDT" }, .dequeue (.default, 3),
        .startTask (.default, 3),
        .submit (some (.default, 3)) 1 { key := "cancel-retry:BTCUSDT" },
        .finishTask (.default, 3) true 2, .startTask (.default, 3)] = some s ∧
    s.marks = [(0, .raised)] ∧ s.startedIds = [0, 1] ∧
    (s.marks.map Prod.fst).Nodup ∧ ∀ lane, s.pendingCount lane ≤ defaults.limit lane := by
  obtain ⟨s, hs⟩ := Option.isSome_iff_exists.mp (show (Run.exec (step defaults)
    (Executor.start defaults)
      [.submit none 0 { key := "cancel-retry:BTCUSDT" }, .dequeue (.default, 3),
        .startTask (.default, 3),
        .submit (some (.default, 3)) 1 { key := "cancel-retry:BTCUSDT" },
        .finishTask (.default, 3) true 2, .startTask (.default, 3)]).isSome = true by
          decide +kernel)
  have hsound := keyed_tasks_sound hs
  have hfacts : (Run.exec (step defaults) (Executor.start defaults)
      [.submit none 0 { key := "cancel-retry:BTCUSDT" }, .dequeue (.default, 3),
        .startTask (.default, 3),
        .submit (some (.default, 3)) 1 { key := "cancel-retry:BTCUSDT" },
        .finishTask (.default, 3) true 2, .startTask (.default, 3)]).map
          (fun s => (s.marks, s.startedIds)) = some ([(0, .raised)], [0, 1]) := by
    decide +kernel
  rw [hs] at hfacts
  have hpair := Option.some.inj hfacts
  exact ⟨s, hs, congrArg Prod.fst hpair, congrArg Prod.snd hpair, hsound.2.1,
    hsound.2.2.2.2.2.2.2.1⟩

end Executor

end ChronosHFT.Background
