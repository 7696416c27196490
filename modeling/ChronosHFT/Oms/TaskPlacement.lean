import ChronosHFT.Oms.BackgroundTasks

/-!
# Where a background task is

A task that has been submitted is in one place: in the queue or the heap of its lane, in the hand
of the scheduler, with a worker, or in the rerun slot of its key.  `Placed` says so of a state,
with a list of `loose` tasks that the thread inside its critical section has taken out of one
place and not yet put into another; every operation moves tasks between places and this list, and
between two critical sections the list is empty. -/

namespace ChronosHFT.Background

open Function List

/-! ## The tasks of a state -/

namespace Worker

/-- The task with a worker. -/
def task? : Worker → Option Task
  | taken task | running task => some task
  | _ => none

/-- The task a worker has taken and not started. -/
def taken? : Worker → Option Task
  | taken task => some task
  | _ => none

/-- The task a worker runs. -/
def running? : Worker → Option Task
  | running task => some task
  | _ => none

end Worker

namespace LaneState

/-- The tasks that wait to be started. -/
def unstarted (l : LaneState) : List Task :=
  l.queue ++ (l.scheduled.map Prod.snd ++ (l.hand.toList ++ l.workers.filterMap Worker.taken?))

/-- The tasks of a lane. -/
def tasks (l : LaneState) : List Task :=
  l.queue ++ (l.scheduled.map Prod.snd ++ (l.hand.toList ++ l.workers.filterMap Worker.task?))

theorem workers_perm (workers : List Worker) :
    (workers.filterMap Worker.task?).Perm
      (workers.filterMap Worker.taken? ++ workers.filterMap Worker.running?) := by
  induction workers with
  | nil => exact List.Perm.refl _
  | cons worker rest ih =>
    cases worker with
    | waiting | exited => exact ih
    | taken task => exact ih.cons task
    | running task => exact (ih.cons task).trans perm_middle.symm

/-- Every task of a lane waits or runs. -/
theorem tasks_perm (l : LaneState) :
    l.tasks.Perm (l.unstarted ++ l.workers.filterMap Worker.running?) := by
  unfold tasks unstarted
  simp only [append_assoc]
  exact (((workers_perm l.workers).append_left _).append_left _).append_left _

/-- What a worker of the list has is taken from it, and given to it. -/
theorem filterMap_set_perm {workers : List Worker} {i : ℕ} {old : Worker}
    (h : workers[i]? = some old) (new : Worker) (f : Worker → Option Task) :
    ((workers.set i new).filterMap f ++ (f old).toList).Perm
      (workers.filterMap f ++ (f new).toList) := by
  induction workers generalizing i with
  | nil => cases h
  | cons worker rest ih =>
    cases i with
    | zero =>
      obtain rfl := Option.some.inj h
      rw [set_cons_zero, filterMap_cons, filterMap_cons]
      cases f worker <;> cases f new <;>
        simp only [Option.toList, append_nil, List.Perm.refl, cons_append]
      · exact perm_append_singleton _ _ |>.symm
      · exact perm_append_singleton _ _
      · exact ((perm_append_singleton _ _).cons _).trans
          ((List.Perm.swap _ _ _).trans ((perm_append_singleton _ _).symm.cons _))
    | succ i =>
      rw [List.getElem?_cons_succ] at h
      rw [set_cons_succ, filterMap_cons, filterMap_cons]
      cases f worker with
      | none => exact ih h
      | some task => exact (ih h).cons task

end LaneState

namespace Executor

variable {st : Settings} {s s' : Executor}

/-- The tasks of all lanes. -/
def tasks (s : Executor) : List Task := Lane.all.flatMap fun lane => (s.lanes lane).tasks

/-- The tasks that wait to be started, of all lanes. -/
def unstarted (s : Executor) : List Task := Lane.all.flatMap fun lane => (s.lanes lane).unstarted

/-- The tasks that run. -/
def running (s : Executor) : List Task :=
  Lane.all.flatMap fun lane => (s.lanes lane).workers.filterMap Worker.running?

theorem mem_all (lane : Lane) : lane ∈ Lane.all := by
  cases lane <;> decide

theorem mem_tasks {task : Task} : task ∈ s.tasks ↔ ∃ lane, task ∈ (s.lanes lane).tasks := by
  unfold tasks
  rw [mem_flatMap]
  exact exists_congr fun lane => and_iff_right (mem_all lane)

theorem mem_unstarted {task : Task} :
    task ∈ s.unstarted ↔ ∃ lane, task ∈ (s.lanes lane).unstarted := by
  unfold unstarted
  rw [mem_flatMap]
  exact exists_congr fun lane => and_iff_right (mem_all lane)

theorem tasks_perm (s : Executor) : s.tasks.Perm (s.unstarted ++ s.running) := by
  unfold tasks unstarted running
  induction Lane.all with
  | nil => exact List.Perm.refl _
  | cons lane rest ih =>
    simp only [flatMap_cons]
    refine ((s.lanes lane).tasks_perm.append ih).trans ?_
    simp only [append_assoc]
    exact (perm_append_comm_assoc _ _ _).append_left _

section UpdateLane

variable (s) (lane : Lane) (f : LaneState → LaneState)

@[simp] theorem updateLane_lanes : (s.updateLane lane f).lanes =
    Function.update s.lanes lane (f (s.lanes lane)) := rfl

@[simp] theorem updateLane_activeByKey : (s.updateLane lane f).activeByKey = s.activeByKey := rfl

@[simp] theorem updateLane_rerunByKey : (s.updateLane lane f).rerunByKey = s.rerunByKey := rfl

@[simp] theorem updateLane_closing : (s.updateLane lane f).closing = s.closing := rfl

@[simp] theorem updateLane_accepting : (s.updateLane lane f).accepting = s.accepting := rfl

@[simp] theorem updateLane_nextHandle : (s.updateLane lane f).nextHandle = s.nextHandle := rfl

@[simp] theorem updateLane_starts : (s.updateLane lane f).starts = s.starts := rfl

@[simp] theorem updateLane_marks : (s.updateLane lane f).marks = s.marks := rfl

end UpdateLane

variable {lane : Lane} {f : LaneState → LaneState}

theorem worker?_updateLane
    (hworkers : (f (s.lanes lane)).workers = (s.lanes lane).workers) (w : WorkerId) :
    (s.updateLane lane f).worker? w = s.worker? w := by
  unfold worker?
  rw [updateLane_lanes]
  by_cases heq : w.1 = lane
  · rw [heq, update_self, hworkers]
  · rw [update_of_ne heq]

/-- Two changes of lanes that do not meet can be made in either order. -/
theorem updateLane_comm {a b : Lane} {g : LaneState → LaneState}
    (hcomm : ∀ l, f (g l) = g (f l)) :
    (s.updateLane a f).updateLane b g = (s.updateLane b g).updateLane a f := by
  unfold updateLane
  by_cases heq : a = b
  · subst heq
    simp only [update_self, update_idem, hcomm]
  · simp only [update_of_ne heq, update_of_ne (Ne.symm heq), Executor.mk.injEq,
      and_true]
    exact update_comm heq _ _ _

theorem setWorker_setWorker (w : WorkerId) (x y : Worker) :
    (s.setWorker w x).setWorker w y = s.setWorker w y := by
  unfold setWorker updateLane
  simp only [update_self, update_idem, List.set_set]

theorem worker?_setWorker {w : WorkerId} {old : Worker} (h : s.worker? w = some old)
    (new : Worker) : (s.setWorker w new).worker? w = some new := by
  unfold worker? at h
  unfold setWorker worker?
  rw [updateLane_lanes, update_self]
  exact List.getElem?_set_self (List.getElem?_eq_some_iff.mp h).1

theorem setWorker_pushScheduled (w : WorkerId) (x : Worker) (lane : Lane) (task : Task) :
    (s.setWorker w x).pushScheduled lane task = (s.pushScheduled lane task).setWorker w x := by
  have hcomm := updateLane_comm (s := s) (a := w.1) (b := lane)
    (f := fun l => { l with workers := l.workers.set w.2 x })
    (g := fun l => { l with scheduled := l.scheduled.orderedInsert heapOrder (s.serial, task) })
    fun _ => rfl
  exact congrArg (fun t : Executor => { t with serial := s.serial + 1 }) hcomm

/-- What is moved within a lane or out of it is moved within the executor or out of it. -/
theorem tasks_updateLane {out inc : List Task}
    (h : ((f (s.lanes lane)).tasks ++ out).Perm ((s.lanes lane).tasks ++ inc)) :
    ((s.updateLane lane f).tasks ++ out).Perm (s.tasks ++ inc) := by
  rw [perm_iff_count] at h ⊢
  intro task
  have htask := h task
  unfold tasks
  rw [updateLane_lanes]
  cases lane <;>
    simp only [Lane.all, flatMap_cons, flatMap_nil, append_nil, count_append,
      update_self, ne_eq, reduceCtorEq, not_false_eq_true, update_of_ne]
        at htask ⊢ <;>
    omega

/-- What a worker is at makes no difference to the end of a task. -/
theorem finishHandle_setWorker (w : WorkerId) (x : Worker) (handle : Handle)
    (completion : Completion) (now : ℚ) :
    (s.setWorker w x).finishHandle handle completion now =
      ((s.finishHandle handle completion now).1.setWorker w x,
        (s.finishHandle handle completion now).2) := by
  have hmark : (s.setWorker w x).mark handle completion =
      (s.mark handle completion).setWorker w x := rfl
  unfold finishHandle
  rw [hmark]
  generalize s.mark handle completion = t
  show (if t.activeByKey.get? handle.key = some handle then _ else _) = _
  by_cases hactive : t.activeByKey.get? handle.key = some handle
  · simp only [if_pos hactive]
    have hreruns : (t.setWorker w x).rerunByKey = t.rerunByKey := rfl
    rw [hreruns]
    cases t.rerunByKey.get? handle.key with
    | none => rfl
    | some rerun =>
      show (if t.closing = true then _ else if now < rerun.runAt then _ else _) = _
      by_cases hclosing : t.closing = true
      · simp only [if_pos hclosing]
        rfl
      by_cases hdelay : now < rerun.runAt
      · simp only [if_neg hclosing, if_pos hdelay]
        exact congrArg (·, none) (@setWorker_pushScheduled
          { t with
            activeByKey := t.activeByKey.set handle.key rerun.handle
            rerunByKey := t.rerunByKey.erase handle.key } w x rerun.handle.lane rerun)
      · simp only [if_neg hclosing, if_neg hdelay]
        rfl
  · simp only [if_neg hactive]

/-- A cancellation touches no lane and no rerun. -/
structure Frame (s s' : Executor) : Prop where
  lanes : s'.lanes = s.lanes
  rerunByKey : s'.rerunByKey = s.rerunByKey
  closing : s'.closing = s.closing
  accepting : s'.accepting = s.accepting
  nextHandle : s'.nextHandle = s.nextHandle
  starts : s'.starts = s.starts

theorem cancelTask_frame (s : Executor) (task : Task) : Frame s (s.cancelTask task) := by
  unfold cancelTask
  split <;> exact ⟨rfl, rfl, rfl, rfl, rfl, rfl⟩

theorem Frame.trans {t : Executor} (h : Frame s s') (h' : Frame s' t) : Frame s t :=
  ⟨h'.lanes.trans h.lanes, h'.rerunByKey.trans h.rerunByKey, h'.closing.trans h.closing,
    h'.accepting.trans h.accepting, h'.nextHandle.trans h.nextHandle, h'.starts.trans h.starts⟩

theorem cancelTasks_frame (s : Executor) (tasks : List Task) :
    Frame s (tasks.foldl cancelTask s) := by
  induction tasks generalizing s with
  | nil => exact ⟨rfl, rfl, rfl, rfl, rfl, rfl⟩
  | cons task rest ih => exact (cancelTask_frame s task).trans (ih _)

/-- The task of a key is done, and the key is free. -/
def retire (s : Executor) (handle : Handle) (completion : Completion) : Executor :=
  { s with
    activeByKey := s.activeByKey.erase handle.key
    rerunByKey := s.rerunByKey.erase handle.key
    marks := s.marks ++ [(handle.id, completion)] }

/-- The task of a key is done, and the rerun takes its place. -/
def succeed (s : Executor) (handle : Handle) (completion : Completion) (rerun : Task) :
    Executor :=
  { s with
    activeByKey := s.activeByKey.set handle.key rerun.handle
    rerunByKey := s.rerunByKey.erase handle.key
    marks := s.marks ++ [(handle.id, completion)] }

/-- **What the end of a task does**, by the rerun of its key. -/
theorem finishHandle_cases {handle : Handle} (hget : s.activeByKey.get? handle.key = some handle)
    (completion : Completion) (now : ℚ) :
    (s.rerunByKey.get? handle.key = none ∧
      s.finishHandle handle completion now = (s.retire handle completion, none)) ∨
    ∃ rerun, s.rerunByKey.get? handle.key = some rerun ∧
      ((s.closing = true ∧ s.finishHandle handle completion now =
          ((s.retire handle completion).mark rerun.handle .cancelled, none)) ∨
        (s.closing = false ∧ s.finishHandle handle completion now =
          ((s.succeed handle completion rerun).pushScheduled rerun.handle.lane rerun, none)) ∨
        (s.closing = false ∧ s.finishHandle handle completion now =
          (s.succeed handle completion rerun, some rerun))) := by
  have hactive : (s.mark handle completion).activeByKey.get? handle.key = some handle := hget
  unfold finishHandle
  simp only [hactive, if_true]
  cases hrerun : s.rerunByKey.get? handle.key with
  | none =>
    refine .inl ⟨rfl, ?_⟩
    have hnone : (s.mark handle completion).rerunByKey.get? handle.key = none := hrerun
    simp only [hnone]
    rfl
  | some rerun =>
    have hsome : (s.mark handle completion).rerunByKey.get? handle.key = some rerun := hrerun
    refine .inr ⟨rerun, rfl, ?_⟩
    simp only [hsome]
    cases hclosing : s.closing with
    | true => exact .inl ⟨rfl,
      if_pos (show (s.mark handle completion).closing = true from hclosing)⟩
    | false =>
      have hopen : ¬(s.mark handle completion).closing = true := by
        rw [show (s.mark handle completion).closing = false from hclosing]
        exact Bool.false_ne_true
      refine .inr ?_
      by_cases hdelay : now < rerun.runAt
      · exact .inl ⟨rfl, (if_neg hopen).trans (if_pos hdelay)⟩
      · exact .inr ⟨rfl, (if_neg hopen).trans (if_neg hdelay)⟩

theorem cancelReruns_eq (s : Executor) : s.cancelReruns = { s with
    rerunByKey := ∅
    marks := s.marks ++ s.rerunByKey.values.map fun t => (t.handle.id, .cancelled) } := by
  have hmarked : ∀ (tasks : List Task) (s : Executor),
      (tasks.foldl (fun s task => s.mark task.handle .cancelled) s) =
        { s with marks := s.marks ++ tasks.map fun t => (t.handle.id, .cancelled) } := by
    intro tasks
    induction tasks with
    | nil =>
      intro s
      rw [map_nil, append_nil]
      rfl
    | cons task rest ih =>
      intro s
      rw [foldl_cons, ih]
      simp only [mark, map_cons, append_assoc, singleton_append]
  exact hmarked _ _

/-! ## Every task has its place -/

/-- **Every handle is in its place, once**: those of the active keys are the handles of the tasks
in the lanes and in the hand of this thread, and every handle ever created is active, in the slot
of a rerun, or marked. -/
structure Placed (s : Executor) (loose : List Task) : Prop where
  tasks : ((s.tasks ++ loose).map Task.handle).Perm s.activeByKey.values
  lanes : ∀ lane, ∀ task ∈ (s.lanes lane).tasks, task.handle.lane = lane
  activeKey : ∀ key handle, s.activeByKey.get? key = some handle → handle.key = key
  rerunKey : ∀ key task, s.rerunByKey.get? key = some task → task.handle.key = key ∧
    ∃ handle, s.activeByKey.get? key = some handle ∧ handle.lane = task.handle.lane
  ids : (s.activeByKey.values.map Handle.id ++ s.rerunByKey.values.map (fun t => t.handle.id) ++
    s.marks.map Prod.fst).Perm (List.range s.nextHandle)

namespace Placed

variable {loose loose' : List Task} {task : Task}

theorem nodup_ids (h : Placed s loose) :
    (s.activeByKey.values.map Handle.id ++ s.rerunByKey.values.map (fun t => t.handle.id) ++
      s.marks.map Prod.fst).Nodup :=
  h.ids.nodup_iff.mpr nodup_range

theorem nodup_tasks (h : Placed s loose) :
    ((s.tasks ++ loose).map fun task => task.handle.id).Nodup := by
  have hids := (nodup_append.mp (nodup_append.mp h.nodup_ids).1).1
  have hperm := h.tasks.map Handle.id
  rw [map_map] at hperm
  exact hperm.nodup_iff.mpr hids

theorem get?_active (h : Placed s loose) {task : Task} (htask : task ∈ s.tasks ++ loose) :
    s.activeByKey.get? task.handle.key = some task.handle := by
  have hvalue : task.handle ∈ s.activeByKey.values :=
    h.tasks.subset (mem_map_of_mem htask)
  obtain ⟨key, hget⟩ := Dict.mem_values_iff.mp hvalue
  rwa [← h.activeKey key _ hget] at hget

/-- Tasks are moved within a lane, out of it, or into it. -/
theorem updateLane (h : Placed s loose) {lane : Lane} {f : LaneState → LaneState}
    (hmove : ((f (s.lanes lane)).tasks ++ loose').Perm ((s.lanes lane).tasks ++ loose))
    (hlane : ∀ task ∈ loose, task.handle.lane = lane) : Placed (s.updateLane lane f) loose' where
  tasks := ((tasks_updateLane hmove).map Task.handle).trans h.tasks
  lanes := by
    intro other task htask
    rw [updateLane_lanes] at htask
    by_cases heq : other = lane
    · subst heq
      rw [update_self] at htask
      rcases mem_append.mp (hmove.subset (mem_append_left _ htask)) with hin | hloose
      · exact h.lanes other task hin
      · exact hlane task hloose
    · rw [update_of_ne heq] at htask
      exact h.lanes other task htask
  activeKey := h.activeKey
  rerunKey := h.rerunKey
  ids := h.ids

theorem of_lanes_eq (h : Placed s loose) (hlanes : s'.lanes = s.lanes)
    (hactive : s'.activeByKey = s.activeByKey) (hrerun : s'.rerunByKey = s.rerunByKey)
    (hnext : s'.nextHandle = s.nextHandle) (hmarks : s'.marks = s.marks) : Placed s' loose := by
  obtain ⟨htasks, hplaces, hkey, hkeys, hids⟩ := h
  refine ⟨?_, ?_, ?_, ?_, ?_⟩
  · unfold Executor.tasks
    rw [hlanes, hactive]
    exact htasks
  · rw [hlanes]
    exact hplaces
  · rw [hactive]
    exact hkey
  · rw [hactive, hrerun]
    exact hkeys
  · rw [hactive, hrerun, hnext, hmarks]
    exact hids

theorem setWorker (h : Placed s loose) {w : WorkerId} {old : Worker}
    (hold : s.worker? w = some old) (new : Worker)
    (hmove : (new.task?.toList ++ loose').Perm (old.task?.toList ++ loose))
    (hlane : ∀ task ∈ loose, task.handle.lane = w.1) : Placed (s.setWorker w new) loose' := by
  refine h.updateLane ?_ hlane
  have hset := LaneState.filterMap_set_perm hold new Worker.task?
  rw [perm_iff_count] at hmove hset ⊢
  intro task
  have h₁ := hmove task
  have h₂ := hset task
  unfold LaneState.tasks
  simp only [count_append] at h₁ h₂ ⊢
  omega

/-- A task is put into the heap of its lane. -/
theorem pushScheduled {task : Task} (h : Placed s [task]) :
    Placed (s.pushScheduled task.handle.lane task) [] := by
  have hpushed : Placed (s.updateLane task.handle.lane fun l =>
      { l with scheduled := l.scheduled.orderedInsert heapOrder (s.serial, task) }) [] := by
    refine h.updateLane ?_ fun other hother => by rw [mem_singleton.mp hother]
    have hinsert := (perm_orderedInsert heapOrder (s.serial, task)
      (s.lanes task.handle.lane).scheduled).map Prod.snd
    rw [perm_iff_count] at hinsert ⊢
    intro other
    have hother := hinsert other
    unfold LaneState.tasks
    simp only [map_cons, count_append, count_cons, count_nil] at hother ⊢
    omega
  exact hpushed.of_lanes_eq rfl rfl rfl rfl rfl

/-- A task is put into the queue of its lane. -/
theorem putNowait {task : Task} {lane : Lane} (h : Placed s [task])
    (hlane : task.handle.lane = lane) (hs : s.putNowait? st lane task = some s') :
    Placed s' [] := by
  unfold putNowait? at hs
  split at hs
  · cases hs
    refine h.updateLane ?_ fun other hother => by rwa [mem_singleton.mp hother]
    rw [perm_iff_count]
    intro other
    unfold LaneState.tasks
    simp only [count_append, count_nil]
    omega
  · cases hs

/-- A task that is cancelled leaves its key. -/
theorem cancelTask {task : Task} (h : Placed s (task :: loose)) (hrerun : s.rerunByKey = ∅) :
    Placed (s.cancelTask task) loose := by
  have hget := h.get?_active (mem_append_right _ mem_cons_self)
  have hvalues := Dict.values_perm_erase hget
  unfold Executor.cancelTask
  rw [if_pos hget]
  refine ⟨?_, h.lanes, ?_, ?_, ?_⟩
  · have htasks := h.tasks.trans hvalues
    rw [map_append, map_cons] at htasks
    rw [map_append]
    exact (perm_middle.symm.trans htasks).cons_inv
  · intro key handle hkey
    exact h.activeKey key handle (Dict.get?_of_erase hkey).2
  · intro key other hkey
    change s.rerunByKey.get? key = some other at hkey
    rw [hrerun] at hkey
    cases hkey
  · have hids := h.ids
    have hmap := hvalues.map Handle.id
    rw [perm_iff_count] at hids hmap ⊢
    intro id
    have h₁ := hids id
    have h₂ := hmap id
    simp only [mark, map_append, map_cons, map_nil, count_append,
      count_cons, count_nil] at h₁ h₂ ⊢
    omega

theorem cancelTasks {tasks : List Task} (h : Placed s (tasks ++ loose))
    (hrerun : s.rerunByKey = ∅) : Placed (tasks.foldl Executor.cancelTask s) loose := by
  induction tasks generalizing s with
  | nil => exact h
  | cons task rest ih => exact ih (h.cancelTask hrerun) ((cancelTask_frame s task).rerunByKey ▸
    hrerun)

/-- A lane whose scheduler leaves has no scheduled task any more. -/
theorem exitScheduler {lane : Lane} (h : Placed s []) (hrerun : s.rerunByKey = ∅) :
    Placed (s.exitScheduler lane) [] := by
  have hcleared : Placed (s.updateLane lane fun l => { l with scheduled := [] })
      ((s.lanes lane).scheduled.map Prod.snd ++ []) := by
    refine h.updateLane ?_ nofun
    rw [perm_iff_count]
    intro task
    unfold LaneState.tasks
    simp only [count_append, map_nil, count_nil]
    omega
  exact (hcleared.cancelTasks hrerun).updateLane (List.Perm.refl _) nofun

/-- **A task is done**: its handle is marked, and the rerun of its key, if there is one that is
not cancelled, is active from now on. -/
theorem finishHandle {task : Task} (h : Placed s [task]) (completion : Completion) (now : ℚ) :
    Placed (s.finishHandle task.handle completion now).1
      (s.finishHandle task.handle completion now).2.toList := by
  have hget := h.get?_active (mem_append_right _ (mem_singleton_self task))
  have hvalues := Dict.values_perm_erase hget
  have hrest : (s.tasks.map Task.handle).Perm (s.activeByKey.erase task.handle.key).values := by
    have htasks := h.tasks.trans hvalues
    rw [map_append, map_cons, map_nil] at htasks
    exact ((perm_append_singleton _ _).symm.trans htasks).cons_inv
  have hids := h.ids
  have hhandles := hvalues.map Handle.id
  rw [perm_iff_count] at hids hhandles
  -- the key is free: no rerun is left without a task before it
  have hkeys : ∀ key other, (s.rerunByKey.erase task.handle.key).get? key = some other →
      other.handle.key = key ∧ ∃ handle,
        (s.activeByKey.erase task.handle.key).get? key = some handle ∧
          handle.lane = other.handle.lane := by
    intro key other hother
    obtain ⟨hne, hother⟩ := Dict.get?_of_erase hother
    obtain ⟨hkey, handle, hactive, hlane⟩ := h.rerunKey key other hother
    exact ⟨hkey, handle, (Dict.get?_erase_of_ne _ hne).trans hactive, hlane⟩
  have hactives : ∀ key handle, (s.activeByKey.erase task.handle.key).get? key = some handle →
      handle.key = key := fun key handle hkey =>
      h.activeKey key handle (Dict.get?_of_erase hkey).2
  rcases finishHandle_cases hget completion now with
    ⟨hnone, heq⟩ | ⟨rerun, hsome, ⟨-, heq⟩ | hsucceed⟩
  · rw [heq]
    refine ⟨by rwa [Option.toList_none, append_nil], h.lanes, hactives, hkeys, ?_⟩
    rw [perm_iff_count]
    intro id
    have h₁ := hids id
    have h₂ := hhandles id
    simp only [retire, Dict.erase_of_get?_none hnone, map_append, map_cons, map_nil,
      count_append, count_cons, count_nil] at h₁ h₂ ⊢
    omega
  · rw [heq]
    have hreruns := (Dict.values_perm_erase hsome).map fun t => t.handle.id
    rw [perm_iff_count] at hreruns
    refine ⟨by rwa [Option.toList_none, append_nil], h.lanes, hactives, hkeys, ?_⟩
    rw [perm_iff_count]
    intro id
    have h₁ := hids id
    have h₂ := hhandles id
    have h₃ := hreruns id
    simp only [retire, mark, map_append, map_cons, map_nil,
      count_append, count_cons, count_nil] at h₁ h₂ h₃ ⊢
    omega
  · have hreruns := (Dict.values_perm_erase hsome).map fun t => t.handle.id
    have hset := s.activeByKey.values_set_perm task.handle.key rerun.handle
    have hsets := hset.map Handle.id
    rw [perm_iff_count] at hreruns hsets
    have hplaced : Placed (s.succeed task.handle completion rerun) [rerun] := by
      refine ⟨?_, h.lanes, ?_, ?_, ?_⟩
      · refine List.Perm.trans ?_ hset.symm
        rw [map_append, map_cons, map_nil]
        exact (perm_append_singleton _ _).trans (hrest.cons _)
      · intro key handle hkey
        change (s.activeByKey.set task.handle.key rerun.handle).get? key = some handle at hkey
        rw [Dict.get?_set] at hkey
        split at hkey
        · next heq =>
          cases hkey
          rw [heq]
          exact (h.rerunKey _ rerun hsome).1
        · exact h.activeKey key handle hkey
      · intro key other hother
        obtain ⟨hne, hother'⟩ := Dict.get?_of_erase hother
        obtain ⟨hkey, handle, hactive, hlane⟩ := h.rerunKey key other hother'
        exact ⟨hkey, handle, (Dict.get?_set_of_ne _ _ hne).trans hactive, hlane⟩
      · rw [perm_iff_count]
        intro id
        have h₁ := hids id
        have h₂ := hhandles id
        have h₃ := hreruns id
        have h₄ := hsets id
        simp only [succeed, map_append, map_cons, map_nil,
          count_append, count_cons, count_nil] at h₁ h₂ h₃ h₄ ⊢
        omega
    rcases hsucceed with ⟨-, heq⟩ | ⟨-, heq⟩
    · rw [heq]
      exact hplaced.pushScheduled
    · rw [heq]
      exact hplaced

theorem not_done (h : Placed s loose) {key : String} {handle : Handle}
    (hget : s.activeByKey.get? key = some handle) : s.done handle = false := by
  have hid : handle.id ∈ s.activeByKey.values.map Handle.id :=
    mem_map_of_mem (Dict.mem_values_iff.mpr ⟨key, hget⟩)
  refine decide_eq_false fun hmarked => ?_
  exact (nodup_append.mp h.nodup_ids).2.2 _ (mem_append_left _ hid) _ hmarked rfl

theorem rerun_not_done (h : Placed s loose) {key : String} {task : Task}
    (hget : s.rerunByKey.get? key = some task) : s.done task.handle = false := by
  have hid : task.handle.id ∈ s.rerunByKey.values.map (fun t => t.handle.id) :=
    mem_map_of_mem (Dict.mem_values_iff.mpr ⟨key, hget⟩)
  refine decide_eq_false fun hmarked => ?_
  exact (nodup_append.mp h.nodup_ids).2.2 _ (mem_append_right _ hid) _ hmarked rfl

end Placed

/-! ## What a submission does -/

/-- The next handle. -/
def newHandle (s : Executor) (r : Request) (lane : Lane) : Handle :=
  ⟨s.nextHandle, r.key, r.taskName, lane⟩

/-- The next handle is that of the key. -/
def activate (s : Executor) (r : Request) (lane : Lane) : Executor :=
  { s with
    activeByKey := s.activeByKey.set r.key (s.newHandle r lane)
    nextHandle := s.nextHandle + 1 }

/-- The next handle waits for the task of its key. -/
def queueRerun (s : Executor) (now : ℚ) (r : Request) (lane : Lane) : Executor :=
  { s with
    rerunByKey := s.rerunByKey.set r.key ⟨s.newHandle r lane, r.runAt now⟩
    nextHandle := s.nextHandle + 1 }

/-- **The ways a submission ends.** -/
inductive Submitted (st : Settings) (s : Executor) (now : ℚ) (r : Request) (lane : Lane) :
    Executor × Submission → Prop
  | rejected (reason : String) : Submitted st s now r lane (s, Submission.rejected reason)
  | coalesced (existing : Handle) (hactive : s.activeByKey.get? r.key = some existing)
      (hresubmit : r.resubmitAfterCurrent = false) :
      Submitted st s now r lane (s, ⟨true, false, some existing, "background_task_coalesced"⟩)
  | rerunCoalesced (rerun : Task) (hrerun : s.rerunByKey.get? r.key = some rerun) :
      Submitted st s now r lane
        (s, ⟨true, false, some rerun.handle, "background_rerun_coalesced"⟩)
  | rerun (existing : Handle) (haccepting : s.accepting = true)
      (hactive : s.activeByKey.get? r.key = some existing) (hlane : existing.lane = lane)
      (hrerun : s.rerunByKey.get? r.key = none) (hadmitted : s.admissionRejection st lane =
        none) :
      Submitted st s now r lane
        (s.queueRerun now r lane,
          ⟨true, true, some (s.newHandle r lane), "background_rerun_queued"⟩)
  | queued (s' : Executor) (haccepting : s.accepting = true)
      (hactive : s.activeByKey.get? r.key = none) (hadmitted : s.admissionRejection st lane =
        none)
      (hput : (s.activate r lane).putNowait? st lane ⟨s.newHandle r lane, r.runAt now⟩ =
        some s') :
      Submitted st s now r lane (s', ⟨true, true, some (s.newHandle r lane), ""⟩)
  | delayed (haccepting : s.accepting = true) (hactive : s.activeByKey.get? r.key = none)
      (hadmitted : s.admissionRejection st lane = none) :
      Submitted st s now r lane
        ((s.activate r lane).pushScheduled lane ⟨s.newHandle r lane, r.runAt now⟩,
          ⟨true, true, some (s.newHandle r lane), ""⟩)

theorem submitNew_submitted {now : ℚ} {r : Request} (haccepting : s.accepting = true)
    (hactive : s.activeByKey.get? r.key = none) :
    Submitted st s now r lane (s.submitNew st now r lane) := by
  unfold submitNew
  cases hadmitted : s.admissionRejection st lane with
  | some reason => exact .rejected reason
  | none =>
    dsimp only
    by_cases hdelay : r.delaySec ≤ 0
    · rw [if_pos hdelay]
      unfold putNowait?
      by_cases hroom : (s.lanes lane).queue.length < st.capacity lane
      · rw [if_pos hroom]
        exact .queued _ haccepting hactive hadmitted (if_pos hroom)
      · rw [if_neg hroom]
        exact .rejected _
    · rw [if_neg hdelay]
      exact .delayed haccepting hactive hadmitted

theorem submit_submitted (st : Settings) (h : Placed s []) (caller : Option WorkerId) (now : ℚ)
    (r : Request) :
    Submitted st s now r (st.effectiveLane r.key r.lane) (s.submit st caller now r) := by
  unfold submit
  dsimp only
  cases haccepting : s.accepting with
  | false => exact .rejected _
  | true =>
    rw [if_neg Bool.noConfusion]
    cases hactive : s.activeByKey.get? r.key with
    | none => exact submitNew_submitted haccepting hactive
    | some existing =>
      dsimp only
      rw [h.not_done hactive, if_neg Bool.noConfusion]
      unfold submitExisting
      split
      · next hcoalesced =>
        refine .coalesced existing hactive ?_
        rw [not_or] at hcoalesced
        exact Bool.eq_false_iff.mpr hcoalesced.1
      · split
        · exact .rejected _
        next hlane =>
          cases hrerun : s.rerunByKey.get? r.key with
          | some rerun => exact .rerunCoalesced rerun hrerun
          | none =>
            dsimp only
            cases hadmitted : s.admissionRejection st (st.effectiveLane r.key r.lane) with
            | some reason => exact .rejected reason
            | none =>
              exact .rerun existing haccepting hactive (not_not.mp hlane) hrerun
                hadmitted

theorem putNowait?_eq_some {task : Task} :
    s.putNowait? st lane task = some s' ↔ (s.lanes lane).queue.length < st.capacity lane ∧
      s' = s.updateLane lane fun l => { l with queue := l.queue ++ [task] } := by
  unfold putNowait?
  split
  · next hroom => exact ⟨fun h => ⟨hroom, (Option.some.inj h).symm⟩,
      fun h => congrArg some h.2.symm⟩
  · next hfull => exact ⟨nofun, fun h => absurd h.1 hfull⟩

/-! ## What a step does -/

/-- **The ways a step goes.** -/
inductive Stepped (st : Settings) (s : Executor) : Action → Executor → Prop
  | submit (caller : Option WorkerId) (now : ℚ) (request : Request) :
      Stepped st s (.submit caller now request) (s.submit st caller now request).1
  /-- A thread waits. -/
  | idle (a : Action) : Stepped st s a s
  | dequeue {w : WorkerId} {task : Task} {rest : List Task}
      (hworker : s.worker? w = some .waiting) (hqueue : (s.lanes w.1).queue = task :: rest) :
      Stepped st s (.dequeue w)
        ((s.updateLane w.1 fun l => { l with queue := rest }).setWorker w (.taken task))
  | workerExit {w : WorkerId} (hworker : s.worker? w =
    some .waiting) (hclosing : s.closing = true)
      (hqueue : (s.lanes w.1).queue = []) : Stepped st s (.workerExit w) (s.setWorker w .exited)
  | startTask {w : WorkerId} {task : Task} (hworker : s.worker? w = some (.taken task)) :
      Stepped st s (.startTask w)
        { s.setWorker w (.running task) with starts := s.starts ++ [(task.handle.id, w)] }
  | finishTask {w : WorkerId} {task : Task} {raised : Bool} {completion : Completion} (now : ℚ)
      (hworker : s.worker? w = some (.running task)) (hran : completion ≠ .cancelled) :
      Stepped st s (.finishTask w raised now)
        ((s.finishHandle task.handle completion now).1.setWorker w
          (((s.finishHandle task.handle completion now).2.map Worker.taken).getD .waiting))
  | exitScheduler {lane : Lane} {now : ℚ} (hclosing : s.closing = true)
      (hhand : (s.lanes lane).hand = none) :
      Stepped st s (.schedule lane now) (s.exitScheduler lane)
  /-- The head of a heap is due. -/
  | handOver {lane : Lane} {now : ℚ} {serial : ℕ} {task : Task} {rest : List (ℕ × Task)}
      (hopen : s.closing = false) (hstays : (s.lanes lane).schedulerExited = false)
      (hhand : (s.lanes lane).hand = none)
      (hscheduled : (s.lanes lane).scheduled = (serial, task) :: rest) :
      Stepped st s (.schedule lane now)
        (((s.updateLane lane fun l => { l with scheduled := rest }).putNowait? st lane task).getD
          ((s.updateLane lane fun l => { l with scheduled := rest }).updateLane lane fun l =>
            { l with hand := some task }))
  | cancelHand {lane : Lane} {task : Task} (hclosing : s.closing = true)
      (hhand : (s.lanes lane).hand = some task) :
      Stepped st s (.retryPut lane)
        (((s.updateLane lane fun l => { l with hand := none }).cancelTask task).exitScheduler
          lane)
  | retryPut {lane : Lane} {task : Task} {queued : Executor} (hopen : s.closing = false)
      (hhand : (s.lanes lane).hand = some task)
      (hput : (s.updateLane lane fun l => { l with hand := none }).putNowait? st lane task =
        some queued) : Stepped st s (.retryPut lane) queued
  | shutdown : Stepped st s .shutdown s.shutdown

/-- Every step goes one of these ways. -/
theorem step_stepped {a : Action} (hs : step st s a = some s') : Stepped st s a s' := by
  cases a with
  | submit caller now request =>
    cases hs
    exact .submit caller now request
  | dequeue w =>
    simp only [step, dequeue?] at hs
    split at hs
    · cases hs
      exact .dequeue ‹_› ‹_›
    · cases hs
  | workerExit w =>
    simp only [step, workerExit?] at hs
    split at hs
    · next hworker =>
      split at hs
      · next hleaves =>
        cases hs
        exact .workerExit hworker hleaves.1 hleaves.2
      · cases hs
        exact .idle _
    · cases hs
  | startTask w =>
    simp only [step, startTask?] at hs
    split at hs
    · cases hs
      exact .startTask ‹_›
    · cases hs
  | finishTask w raised now =>
    simp only [step, finishTask?] at hs
    split at hs
    · cases hs
      exact .finishTask now ‹_› (by cases raised <;> (intro heq; cases heq))
    · cases hs
  | schedule lane now =>
    simp only [step, schedule?] at hs
    split at hs
    · cases hs
    next hthere =>
      rw [not_or, not_not, Bool.not_eq_true] at hthere
      split at hs
      · cases hs
        exact .exitScheduler ‹_› hthere.2
      next hopen =>
        split at hs
        · cases hs
          exact .idle _
        split at hs
        · cases hs
          exact .idle _
        · cases hs
          exact .handOver (Bool.eq_false_iff.mpr hopen) hthere.1 hthere.2 ‹_›
  | retryPut lane =>
    simp only [step, retryPut?] at hs
    split at hs
    · cases hs
    next task hhand =>
      split at hs
      · cases hs
        exact .cancelHand ‹_› hhand
      next hopen =>
        cases hs
        cases hput : (s.updateLane lane fun l => { l with hand := none }).putNowait? st lane
            task with
        | some queued => exact .retryPut (Bool.eq_false_iff.mpr hopen) hhand hput
        | none => exact .idle _
  | shutdown =>
    cases hs
    exact .shutdown

theorem finishHandle_worker? {handle : Handle}
    (hget : s.activeByKey.get? handle.key = some handle) (completion : Completion) (now : ℚ)
    (w : WorkerId) : (s.finishHandle handle completion now).1.worker? w = s.worker? w := by
  rcases finishHandle_cases hget completion now with
    ⟨-, heq⟩ | ⟨rerun, -, ⟨-, heq⟩ | ⟨-, heq⟩ | ⟨-, heq⟩⟩
  · rw [heq]
    rfl
  · rw [heq]
    rfl
  · rw [heq]
    exact @worker?_updateLane (s.succeed handle completion rerun) rerun.handle.lane (fun l =>
      { l with scheduled := l.scheduled.orderedInsert heapOrder (s.serial, rerun) }) rfl w
  · rw [heq]
    rfl

namespace Placed

theorem activate {now : ℚ} {r : Request} {lane : Lane} (h : Placed s [])
    (hactive : s.activeByKey.get? r.key = none) :
    Placed (s.activate r lane) [⟨s.newHandle r lane, r.runAt now⟩] := by
  have hset := Dict.values_set_perm_of_none (s.newHandle r lane) hactive
  refine ⟨?_, h.lanes, ?_, ?_, ?_⟩
  · refine List.Perm.trans ?_ hset.symm
    have htasks := h.tasks
    rw [append_nil] at htasks
    rw [map_append, map_cons, map_nil]
    exact (perm_append_singleton _ _).trans (htasks.cons _)
  · intro key handle hkey
    change (s.activeByKey.set r.key (s.newHandle r lane)).get? key = some handle at hkey
    rw [Dict.get?_set] at hkey
    split at hkey
    · next heq =>
      cases hkey
      exact heq.symm
    · exact h.activeKey key handle hkey
  · intro key task htask
    obtain ⟨hkey, handle, hget, hlane⟩ := h.rerunKey key task htask
    refine ⟨hkey, handle, ?_, hlane⟩
    have hne : key ≠ r.key := by
      rintro rfl
      rw [hactive] at hget
      cases hget
    exact (Dict.get?_set_of_ne _ _ hne).trans hget
  · have hids := h.ids
    have hhandles := hset.map Handle.id
    rw [perm_iff_count] at hids hhandles ⊢
    intro id
    have h₁ := hids id
    have h₂ := hhandles id
    simp only [Executor.activate, newHandle, range_succ, map_cons, count_append,
      count_cons, count_nil] at h₁ h₂ ⊢
    omega

theorem queueRerun {now : ℚ} {r : Request} {lane : Lane} {existing : Handle} (h : Placed s [])
    (hactive : s.activeByKey.get? r.key = some existing) (hlane : existing.lane = lane)
    (hrerun : s.rerunByKey.get? r.key = none) : Placed (s.queueRerun now r lane) [] := by
  have hset := Dict.values_set_perm_of_none
    (⟨s.newHandle r lane, r.runAt now⟩ : Task) hrerun
  refine ⟨h.tasks, h.lanes, h.activeKey, ?_, ?_⟩
  · intro key task htask
    change (s.rerunByKey.set r.key _).get? key = some task at htask
    rw [Dict.get?_set] at htask
    split at htask
    · next heq =>
      cases htask
      exact ⟨heq.symm, existing, heq ▸ hactive, hlane⟩
    · exact h.rerunKey key task htask
  · have hids := h.ids
    have hhandles := hset.map fun t => t.handle.id
    rw [perm_iff_count] at hids hhandles ⊢
    intro id
    have h₁ := hids id
    have h₂ := hhandles id
    simp only [Executor.queueRerun, newHandle, range_succ, map_cons, count_append,
      count_cons, count_nil] at h₁ h₂ ⊢
    omega

theorem submit (h : Placed s []) (caller : Option WorkerId) (now : ℚ) (r : Request) :
    Placed (s.submit st caller now r).1 [] := by
  have hsubmitted := submit_submitted st h caller now r
  generalize s.submit st caller now r = result at hsubmitted ⊢
  cases hsubmitted with
  | rejected | coalesced | rerunCoalesced => exact h
  | rerun existing _ hactive hlane hrerun _ => exact h.queueRerun hactive hlane hrerun
  | queued s' _ hactive _ hput => exact (h.activate hactive).putNowait rfl hput
  | delayed _ hactive _ => exact (h.activate hactive).pushScheduled

theorem start (st : Settings) : Placed (Executor.start st) [] := by
  have hnone : ∀ lane, ((Executor.start st).lanes lane).tasks = [] := by
    intro lane
    unfold Executor.start LaneState.tasks
    simp only [map_nil, Option.toList_none, nil_append]
    refine filterMap_eq_nil_iff.mpr fun worker hworker => ?_
    rw [eq_of_mem_replicate hworker]
    rfl
  refine ⟨?_, ?_, nofun, nofun, List.Perm.refl _⟩
  · unfold Executor.tasks
    simp only [Lane.all, flatMap_cons, flatMap_nil, hnone, append_nil]
    exact List.Perm.refl _
  · intro lane task htask
    rw [hnone] at htask
    cases htask

theorem cancelReruns (h : Placed s []) : Placed s.cancelReruns [] := by
  rw [cancelReruns_eq]
  refine ⟨h.tasks, h.lanes, h.activeKey, nofun, ?_⟩
  have hids := h.ids
  rw [perm_iff_count] at hids ⊢
  intro id
  have h₁ := hids id
  have hcancelled : (s.rerunByKey.values.map fun t => (t.handle.id, Completion.cancelled)).map
      Prod.fst = s.rerunByKey.values.map fun t => t.handle.id := by
    rw [map_map]
    rfl
  simp only [Dict.values_empty, map_append, hcancelled, map_nil, count_append,
    count_nil] at h₁ ⊢
  omega

/-- The successor of a task is of its lane. -/
theorem successor_lane {handle : Handle} (h : Placed s loose)
    (hget : s.activeByKey.get? handle.key = some handle) (completion : Completion) (now : ℚ) :
    ∀ task ∈ (s.finishHandle handle completion now).2, task.handle.lane = handle.lane := by
  intro task htask
  rcases finishHandle_cases hget completion now with
    ⟨-, heq⟩ | ⟨rerun, hrerun, ⟨-, heq⟩ | ⟨-, heq⟩ | ⟨-, heq⟩⟩
  all_goals
    rw [heq] at htask
    cases htask
  obtain ⟨-, existing, hexisting, hlane⟩ := h.rerunKey _ _ hrerun
  rw [hget] at hexisting
  cases hexisting
  exact hlane.symm

variable {w : WorkerId} {worker : Worker}

theorem mem_of_worker (hworker : s.worker? w = some worker)
    (htask : worker.task? = some task) : task ∈ (s.lanes w.1).tasks := by
  unfold LaneState.tasks
  refine mem_append_right _ (mem_append_right _ (mem_append_right _ ?_))
  exact mem_filterMap.mpr ⟨worker, mem_of_getElem? hworker, htask⟩

/-- A worker has tasks of its own lane. -/
theorem worker_lane (h : Placed s loose)
    (hworker : s.worker? w = some worker) (htask : worker.task? = some task) :
    task.handle.lane = w.1 :=
  h.lanes w.1 task (mem_of_worker hworker htask)

/-- What a worker has is active. -/
theorem get?_worker (h : Placed s loose)
    (hworker : s.worker? w = some worker) (htask : worker.task? = some task) :
    s.activeByKey.get? task.handle.key = some task.handle :=
  h.get?_active (mem_append_left _ (mem_tasks.mpr ⟨w.1, mem_of_worker hworker htask⟩))

/-- A task of a lane is taken out of its place. -/
theorem takeOut (h : Placed s []) {lane : Lane} {f : LaneState → LaneState} {task : Task}
    (hout : (s.lanes lane).tasks.Perm (task :: (f (s.lanes lane)).tasks)) :
    Placed (s.updateLane lane f) [task] ∧ task.handle.lane = lane := by
  refine ⟨h.updateLane ?_ nofun, h.lanes lane task (hout.symm.subset mem_cons_self)⟩
  rw [append_nil]
  exact (perm_append_singleton _ _).trans hout.symm

/-- A task that was taken out is put into the queue, or into the hand of the scheduler. -/
theorem handOver (h : Placed s [task]) {lane : Lane} (hlane : task.handle.lane = lane)
    (hhand : (s.lanes lane).hand = none) :
    Placed ((s.putNowait? st lane task).getD
      (s.updateLane lane fun l => { l with hand := some task })) [] := by
  cases hput : s.putNowait? st lane task with
  | some queued =>
    rw [Option.getD_some]
    exact h.putNowait hlane hput
  | none =>
    rw [Option.getD_none]
    refine h.updateLane ?_ fun other hother => by rwa [mem_singleton.mp hother]
    rw [perm_iff_count]
    intro other
    unfold LaneState.tasks
    simp only [hhand, Option.toList_some, Option.toList_none, count_append, count_cons,
      count_nil]
    omega

theorem dequeue (h : Placed s []) {rest : List Task}
    (hworker : s.worker? w = some .waiting) (hqueue : (s.lanes w.1).queue = task :: rest) :
    Placed ((s.updateLane w.1 fun l => { l with queue := rest }).setWorker w (.taken task))
      [] := by
  have hout : (s.lanes w.1).tasks.Perm
      (task :: LaneState.tasks { s.lanes w.1 with queue := rest }) := by
    unfold LaneState.tasks
    rw [hqueue]
    exact List.Perm.refl _
  obtain ⟨htaken, hlane⟩ := @takeOut s h w.1 (fun l => { l with queue := rest }) task hout
  refine htaken.setWorker ((worker?_updateLane rfl w).trans hworker) (.taken task)
    (List.Perm.refl _) fun other hother => ?_
  rwa [mem_singleton.mp hother]

theorem finishTask (h : Placed s []) (hworker : s.worker? w = some (.running task))
    (completion : Completion) (now : ℚ) :
    Placed ((s.finishHandle task.handle completion now).1.setWorker w
      (((s.finishHandle task.handle completion now).2.map Worker.taken).getD .waiting)) [] := by
  have hwaiting : Placed (s.setWorker w .waiting) [task] :=
    h.setWorker hworker .waiting (List.Perm.refl _) nofun
  have hactive := h.get?_worker hworker rfl
  have hfinished := hwaiting.finishHandle completion now
  rw [finishHandle_setWorker] at hfinished
  have hworker' := (finishHandle_worker? hactive completion now w).trans hworker
  have hsuccessor := h.successor_lane hactive completion now
  generalize s.finishHandle task.handle completion now = result
    at hfinished hworker' hsuccessor ⊢
  obtain ⟨finished, successor⟩ := result
  rw [← setWorker_setWorker w .waiting]
  refine hfinished.setWorker (worker?_setWorker hworker' .waiting) _ ?_ fun other hother => ?_
  · cases successor with
    | none => exact List.Perm.refl _
    | some rerun => exact List.Perm.refl _
  · exact (hsuccessor other (Option.mem_toList.mp hother)).trans (h.worker_lane hworker rfl)

/-- What the scheduler of a lane takes out of the heap. -/
theorem popped (h : Placed s []) {lane : Lane} {serial : ℕ} {rest : List (ℕ × Task)}
    (hscheduled : (s.lanes lane).scheduled = (serial, task) :: rest) :
    Placed (s.updateLane lane fun l => { l with scheduled := rest }) [task] ∧
      task.handle.lane = lane :=
  h.takeOut (by
    unfold LaneState.tasks
    rw [hscheduled]
    exact perm_middle)

/-- What the scheduler of a lane has in its hand. -/
theorem dropped (h : Placed s []) {lane : Lane} (hhand : (s.lanes lane).hand = some task) :
    Placed (s.updateLane lane fun l => { l with hand := none }) [task] ∧
      task.handle.lane = lane :=
  h.takeOut (by
    unfold LaneState.tasks
    rw [hhand]
    exact (perm_middle.append_left _).trans perm_middle)

/-- **Every step keeps the places.** -/
theorem step (h : Placed s []) (hclosed : s.closing = true → s.rerunByKey = ∅) {a : Action}
    (hs : Executor.step st s a = some s') : Placed s' [] := by
  cases step_stepped hs with
  | submit caller now request => exact h.submit caller now request
  | idle => exact h
  | dequeue hworker hqueue => exact h.dequeue hworker hqueue
  | workerExit hworker _ _ => exact h.setWorker hworker .exited (List.Perm.refl _) nofun
  | startTask hworker =>
    have hmoved := h.setWorker hworker (.running _) (List.Perm.refl _) nofun
    exact hmoved.of_lanes_eq rfl rfl rfl rfl rfl
  | finishTask now hworker _ => exact h.finishTask hworker _ now
  | exitScheduler hclosing _ => exact h.exitScheduler (hclosed hclosing)
  | handOver _ _ hhand hscheduled =>
    obtain ⟨hpopped, hlane⟩ := h.popped hscheduled
    refine hpopped.handOver hlane ?_
    rwa [updateLane_lanes, update_self]
  | cancelHand hclosing hhand =>
    have hrerun := hclosed hclosing
    exact ((h.dropped hhand).1.cancelTask hrerun).exitScheduler
      ((cancelTask_frame _ _).rerunByKey.trans hrerun)
  | retryPut _ hhand hput =>
    obtain ⟨hdropped, hlane⟩ := h.dropped hhand
    exact hdropped.putNowait hlane hput
  | shutdown =>
    have hclosing : Placed { s with accepting := false, closing := true } [] :=
      h.of_lanes_eq rfl rfl rfl rfl rfl
    exact hclosing.cancelReruns

end Placed

end Executor

end ChronosHFT.Background
