import ChronosHFT.Oms.TaskPlacement

/-!
# A background task is started once

`Started` says which handles were started: none of a task that waits, that of a running task by
its worker, and of the handles that are marked those that were not cancelled.  Every step keeps
it. -/

namespace ChronosHFT.Background

open List

namespace Executor

variable {st : Settings} {s s' : Executor}

/-- The handles that were started. -/
def startedIds (s : Executor) : List ℕ := s.starts.map Prod.fst

/-- **A task is started once**, by the worker that runs it, and a handle is marked by its
callback only when it was. -/
structure Started (s : Executor) : Prop where
  waiting : ∀ task ∈ s.unstarted, task.handle.id ∉ s.startedIds
  reruns : ∀ key task, s.rerunByKey.get? key = some task → task.handle.id ∉ s.startedIds
  running : ∀ w task, s.worker? w = some (.running task) → (task.handle.id, w) ∈ s.starts
  nodup : s.startedIds.Nodup
  marks : ∀ m ∈ s.marks, m.2 ≠ .cancelled ↔ m.1 ∈ s.startedIds
  bound : ∀ id ∈ s.startedIds, id < s.nextHandle

theorem worker?_pushScheduled (lane : Lane) (task : Task) (w : WorkerId) :
    (s.pushScheduled lane task).worker? w = s.worker? w :=
  @worker?_updateLane s lane (fun l =>
    { l with scheduled := l.scheduled.orderedInsert heapOrder (s.serial, task) }) rfl w

variable {lane : Lane} {task : Task}

/-- Where the tasks come from that wait after a change of a lane. -/
theorem mem_unstarted_updateLane {f : LaneState → LaneState}
    (h : task ∈ (s.updateLane lane f).unstarted) :
    task ∈ (f (s.lanes lane)).unstarted ∨ task ∈ s.unstarted := by
  obtain ⟨other, hother⟩ := mem_unstarted.mp h
  rw [updateLane_lanes] at hother
  by_cases heq : other = lane
  · subst heq
    rw [Function.update_self] at hother
    exact .inl hother
  · rw [Function.update_of_ne heq] at hother
    exact .inr (mem_unstarted.mpr ⟨other, hother⟩)

/-- The places of a task that waits to be started. -/
theorem mem_lane_unstarted {l : LaneState} :
    task ∈ l.unstarted ↔ task ∈ l.queue ∨ task ∈ l.scheduled.map Prod.snd ∨ l.hand = some task ∨
      ∃ worker ∈ l.workers, worker.taken? = some task := by
  unfold LaneState.unstarted
  rw [mem_append, mem_append, mem_append, Option.mem_toList, mem_filterMap]

theorem mem_unstarted_of_lane (h : task ∈ (s.lanes lane).unstarted) : task ∈ s.unstarted :=
  mem_unstarted.mpr ⟨lane, h⟩

theorem mem_unstarted_setWorker {w : WorkerId} {new : Worker}
    (h : task ∈ (s.setWorker w new).unstarted) : new.taken? = some task ∨
    task ∈ s.unstarted := by
  rcases mem_unstarted_updateLane h with hlane | hother
  · rcases mem_lane_unstarted.mp hlane with hqueue | hscheduled | hhand |
      ⟨worker, hworker, htask⟩
    · exact .inr (mem_unstarted_of_lane (mem_lane_unstarted.mpr (.inl hqueue)))
    · exact .inr (mem_unstarted_of_lane (mem_lane_unstarted.mpr (.inr (.inl hscheduled))))
    · exact .inr (mem_unstarted_of_lane (mem_lane_unstarted.mpr (.inr (.inr (.inl hhand)))))
    rcases mem_or_eq_of_mem_set hworker with hold | rfl
    · exact .inr (mem_unstarted_of_lane
        (mem_lane_unstarted.mpr (.inr (.inr (.inr ⟨worker, hold, htask⟩)))))
    · exact .inl htask
  · exact .inr hother

theorem mem_unstarted_pushScheduled {pushed : Task}
    (h : task ∈ (s.pushScheduled lane pushed).unstarted) :
    task = pushed ∨ task ∈ s.unstarted := by
  have hupdated : task ∈ (s.updateLane lane fun l =>
      { l with scheduled := l.scheduled.orderedInsert heapOrder (s.serial, pushed)
                 }).unstarted := h
  rcases mem_unstarted_updateLane hupdated with hlane | hother
  · rcases mem_lane_unstarted.mp hlane with hqueue | hscheduled | hrest
    · exact .inr (mem_unstarted_of_lane (mem_lane_unstarted.mpr (.inl hqueue)))
    · obtain ⟨entry, hentry, rfl⟩ := mem_map.mp hscheduled
      rcases mem_cons.mp ((perm_orderedInsert heapOrder _ _).subset hentry) with
        rfl | hold
      · exact .inl rfl
      · exact .inr (mem_unstarted_of_lane
          (mem_lane_unstarted.mpr (.inr (.inl (mem_map_of_mem hold)))))
    · exact .inr (mem_unstarted_of_lane (mem_lane_unstarted.mpr (.inr (.inr hrest))))
  · exact .inr hother

theorem mem_unstarted_enqueue {put : Task}
    (h : task ∈ (s.updateLane lane fun l => { l with queue := l.queue ++ [put] }).unstarted) :
    task = put ∨ task ∈ s.unstarted := by
  rcases mem_unstarted_updateLane h with hlane | hother
  · rcases mem_lane_unstarted.mp hlane with hqueue | hrest
    · rcases mem_append.mp hqueue with hold | hnew
      · exact .inr (mem_unstarted_of_lane (mem_lane_unstarted.mpr (.inl hold)))
      · exact .inl (mem_singleton.mp hnew)
    · exact .inr (mem_unstarted_of_lane (mem_lane_unstarted.mpr (.inr hrest)))
  · exact .inr hother

theorem worker?_setWorker_cases {w v : WorkerId} {new worker : Worker}
    (h : (s.setWorker w new).worker? v = some worker) :
    v = w ∧ worker = new ∨ s.worker? v = some worker := by
  unfold setWorker worker? at h
  rw [updateLane_lanes] at h
  by_cases hlane : v.1 = w.1
  · rw [hlane, Function.update_self] at h
    dsimp only at h
    rw [List.getElem?_set] at h
    split at h
    · next hindex =>
      split at h
      · exact .inl ⟨Prod.ext hlane hindex.symm, (Option.some.inj h).symm⟩
      · cases h
    · refine .inr ?_
      unfold worker?
      rwa [hlane]
  · rw [Function.update_of_ne hlane] at h
    exact .inr h

theorem mem_marks_cancelTasks {tasks : List Task} {m : ℕ × Completion}
    (h : m ∈ (tasks.foldl cancelTask s).marks) :
    m ∈ s.marks ∨ ∃ task ∈ tasks, m = (task.handle.id, .cancelled) := by
  induction tasks generalizing s with
  | nil => exact .inl h
  | cons task rest ih =>
    rcases ih h with hold | ⟨other, hother, rfl⟩
    · have hmarks : (s.cancelTask task).marks = s.marks ++ [(task.handle.id, .cancelled)] := by
        unfold cancelTask
        split <;> rfl
      rw [hmarks, mem_append, mem_singleton] at hold
      rcases hold with hold | rfl
      · exact .inl hold
      · exact .inr ⟨task, mem_cons_self, rfl⟩
    · exact .inr ⟨other, mem_cons_of_mem _ hother, rfl⟩

namespace Started

/-- Nothing is started in this step. -/
theorem of_moves (h : Started s) (hstarts : s'.starts = s.starts)
    (hnext : s.nextHandle ≤ s'.nextHandle)
    (hwaiting : ∀ task ∈ s'.unstarted, task ∈ s.unstarted ∨ task.handle.id ∉ s.startedIds)
    (hreruns : ∀ key task, s'.rerunByKey.get? key = some task → task.handle.id ∉ s.startedIds)
    (hrunning : ∀ w task, s'.worker? w = some (.running task) →
      s.worker? w = some (.running task))
    (hmarks : ∀ m ∈ s'.marks, m ∈ s.marks ∨ (m.2 ≠ .cancelled ↔ m.1 ∈ s.startedIds)) :
    Started s' := by
  have hids : s'.startedIds = s.startedIds := congrArg (List.map Prod.fst) hstarts
  refine ⟨?_, ?_, ?_, ?_, ?_, ?_⟩
  · intro task htask
    rw [hids]
    rcases hwaiting task htask with hold | hnew
    · exact h.waiting task hold
    · exact hnew
  · rw [hids]
    exact hreruns
  · intro w task hworker
    rw [hstarts]
    exact h.running w task (hrunning w task hworker)
  · rw [hids]
    exact h.nodup
  · intro m hm
    rw [hids]
    rcases hmarks m hm with hold | hnew
    · exact h.marks m hold
    · exact hnew
  · rw [hids]
    exact fun id hid => (h.bound id hid).trans_le hnext

/-- A lane is changed that no task is put into, and no worker. -/
theorem updateLane (h : Started s) {lane : Lane} {f : LaneState → LaneState}
    (hworkers : (f (s.lanes lane)).workers = (s.lanes lane).workers)
    (hwaiting : ∀ task ∈ (f (s.lanes lane)).unstarted,
      task ∈ (s.lanes lane).unstarted ∨ task.handle.id ∉ s.startedIds) :
    Started (s.updateLane lane f) := by
  refine h.of_moves rfl le_rfl (fun task htask => ?_) h.reruns
    (fun w _ hw => (worker?_updateLane hworkers w).symm.trans hw) fun m hm => .inl hm
  rcases mem_unstarted_updateLane htask with hlane | hold
  · exact (hwaiting task hlane).imp_left mem_unstarted_of_lane
  · exact .inl hold

/-- A worker takes a task that was not started, or leaves. -/
theorem setWorker (h : Started s) {w : WorkerId} {new : Worker} (hnew : new.running? = none)
    (hwaiting : ∀ task, new.taken? = some task → task.handle.id ∉ s.startedIds) :
    Started (s.setWorker w new) := by
  refine h.of_moves rfl le_rfl (fun task htask => ?_) h.reruns (fun v task hv => ?_)
    fun m hm => .inl hm
  · rcases mem_unstarted_setWorker htask with htaken | hold
    · exact .inr (hwaiting task htaken)
    · exact .inl hold
  · rcases worker?_setWorker_cases hv with ⟨-, rfl⟩ | hold
    · cases hnew
    · exact hold

/-- A handle that is not given out yet was not started. -/
theorem fresh (h : Started s) : s.nextHandle ∉ s.startedIds := fun hid =>
  lt_irrefl _ (h.bound _ hid)

theorem start (st : Settings) : Started (Executor.start st) := by
  have hworker : ∀ w worker, (Executor.start st).worker? w = some worker → worker = .waiting :=
    fun w worker h => eq_of_mem_replicate (mem_of_getElem? h)
  refine ⟨fun _ _ => not_mem_nil, nofun, ?_, nodup_nil, nofun, nofun⟩
  intro w task h
  cases hworker w _ h

theorem submit (h : Started s) (hplaced : Placed s []) (caller : Option WorkerId) (now : ℚ)
    (r : Request) : Started (s.submit st caller now r).1 := by
  have hsubmitted := submit_submitted st hplaced caller now r
  generalize s.submit st caller now r = result at hsubmitted ⊢
  cases hsubmitted with
  | rejected | coalesced | rerunCoalesced => exact h
  | rerun existing _ hactive hlane hrerun _ =>
    refine h.of_moves rfl (Nat.le_succ _) (fun task htask => .inl htask) ?_
      (fun _ _ hworker => hworker) fun m hm => .inl hm
    intro key task htask
    change (s.rerunByKey.set r.key _).get? key = some task at htask
    rw [Dict.get?_set] at htask
    split at htask
    · cases htask
      exact h.fresh
    · exact h.reruns key task htask
  | queued s' _ _ _ hput =>
    obtain ⟨-, rfl⟩ := putNowait?_eq_some.mp hput
    refine h.of_moves rfl (Nat.le_succ _) ?_ h.reruns ?_ fun m hm => .inl hm
    · intro task htask
      rcases mem_unstarted_enqueue htask with rfl | hold
      · exact .inr h.fresh
      · exact .inl hold
    · intro w task hworker
      exact (@worker?_updateLane (s.activate r _) _ (fun l =>
        { l with queue := l.queue ++ [_] }) rfl w).symm.trans hworker
  | delayed _ _ _ =>
    refine h.of_moves rfl (Nat.le_succ _) ?_ h.reruns ?_ fun m hm => .inl hm
    · intro task htask
      rcases mem_unstarted_pushScheduled htask with rfl | hold
      · exact .inr h.fresh
      · exact .inl hold
    · intro w task hworker
      exact (worker?_pushScheduled _ _ w).symm.trans hworker

theorem startTask (h : Started s) (hplaced : Placed s []) {w : WorkerId} {task : Task}
    (hworker : s.worker? w = some (.taken task)) :
    Started { s.setWorker w (.running task) with
      starts := s.starts ++ [(task.handle.id, w)] } := by
  have hmoved := hplaced.setWorker hworker (.running task) (List.Perm.refl _) nofun
  have hactive := hplaced.get?_worker hworker rfl
  have hid : task.handle.id ∈ s.activeByKey.values.map Handle.id :=
    mem_map_of_mem (Dict.mem_values_iff.mpr ⟨_, hactive⟩)
  obtain ⟨hlive, -, hunmarked⟩ := nodup_append.mp hplaced.nodup_ids
  have hwaiting : task ∈ s.unstarted := mem_unstarted_of_lane (mem_lane_unstarted.mpr
    (.inr (.inr (.inr ⟨_, mem_of_getElem? hworker, rfl⟩))))
  have hfresh := h.waiting task hwaiting
  have hstarted : ∀ id, id ∈ (s.starts ++ [(task.handle.id, w)]).map Prod.fst ↔
      id ∈ s.startedIds ∨ id = task.handle.id := by
    intro id
    rw [map_append, map_singleton, mem_append, mem_singleton]
    rfl
  refine ⟨?_, ?_, ?_, ?_, ?_, ?_⟩
  · intro other hother hmem
    rcases (hstarted _).mp hmem with hold | hsame
    · rcases mem_unstarted_setWorker hother with htaken | hother
      · cases htaken
      · exact h.waiting other hother hold
    · -- the worker runs the task: no waiting task has its handle
      have hnodup := hmoved.nodup_tasks
      rw [append_nil, ((tasks_perm _).map _).nodup_iff, map_append,
        nodup_append] at hnodup
      refine hnodup.2.2 _ (mem_map_of_mem hother) _ ?_ hsame
      refine mem_map_of_mem (f := fun t : Task => t.handle.id) ?_
      refine mem_flatMap.mpr ⟨w.1, mem_all w.1, mem_filterMap.mpr ⟨.running task, ?_, rfl⟩⟩
      exact mem_of_getElem? (worker?_setWorker hworker (.running task))
  · intro key other hother hmem
    rcases (hstarted _).mp hmem with hold | hsame
    · exact h.reruns key other hother hold
    · refine (nodup_append.mp hlive).2.2 _ hid _ ?_ hsame.symm
      exact mem_map_of_mem (f := fun t : Task => t.handle.id)
        (Dict.mem_values_iff.mpr ⟨key, hother⟩)
  · intro v other hv
    rcases worker?_setWorker_cases hv with ⟨rfl, heq⟩ | hold
    · cases heq
      exact mem_append_right _ (mem_singleton_self _)
    · exact mem_append_left _ (h.running v other hold)
  · show ((s.starts ++ [(task.handle.id, w)]).map Prod.fst).Nodup
    rw [map_append, map_singleton, nodup_append]
    refine ⟨h.nodup, nodup_singleton _, fun id hold other hother heq => ?_⟩
    rw [mem_singleton.mp hother] at heq
    rw [show id = task.handle.id from heq] at hold
    exact hfresh hold
  · intro m hm
    refine (h.marks m hm).trans ((or_iff_left ?_).symm.trans (hstarted m.1).symm)
    intro heq
    exact hunmarked _ (mem_append_left _ hid) _ (mem_map_of_mem hm) heq.symm
  · intro id hmem
    rcases (hstarted id).mp hmem with hold | rfl
    · exact h.bound id hold
    · exact mem_range.mp (hplaced.ids.subset (mem_append_left _
        (mem_append_left _ hid)))

theorem finishTask (h : Started s) (hplaced : Placed s []) {w : WorkerId} {task : Task}
    (hworker : s.worker? w = some (.running task)) {completion : Completion}
    (hran : completion ≠ .cancelled) (now : ℚ) :
    Started ((s.finishHandle task.handle completion now).1.setWorker w
      (((s.finishHandle task.handle completion now).2.map Worker.taken).getD .waiting)) := by
  have hactive := hplaced.get?_worker hworker rfl
  have hstarted : task.handle.id ∈ s.startedIds := mem_map_of_mem (h.running w task hworker)
  have hworkers := finishHandle_worker? hactive completion now
  have hreruns : ∀ key other, (s.rerunByKey.erase task.handle.key).get? key = some other →
      other.handle.id ∉ s.startedIds := fun key other hother =>
    h.reruns key other (Dict.get?_of_erase hother).2
  -- whatever follows, its worker does not run yet
  have hrunning : ∀ (next : Option Task) (v : WorkerId) (other : Task),
      ((s.finishHandle task.handle completion now).1.setWorker w
        ((next.map Worker.taken).getD .waiting)).worker? v = some (.running other) →
      s.worker? v = some (.running other) := by
    intro next v other hv
    rcases worker?_setWorker_cases hv with ⟨-, heq⟩ | hold
    · cases next <;> cases heq
    · exact (hworkers v).symm.trans hold
  have hmarks : ∀ m ∈ s.marks ++ [(task.handle.id, completion)],
      m ∈ s.marks ∨ (m.2 ≠ .cancelled ↔ m.1 ∈ s.startedIds) := by
    intro m hm
    rcases mem_append.mp hm with hold | hnew
    · exact .inl hold
    · rw [mem_singleton.mp hnew]
      exact .inr (iff_of_true hran hstarted)
  have hrun := hrunning (s.finishHandle task.handle completion now).2
  rcases finishHandle_cases hactive completion now with
    ⟨-, heq⟩ | ⟨rerun, hrerun, ⟨-, heq⟩ | ⟨-, heq⟩ | ⟨-, heq⟩⟩ <;> rw [heq] at hrun ⊢
  · refine h.of_moves rfl le_rfl ?_ hreruns hrun hmarks
    intro other hother
    rcases mem_unstarted_setWorker hother with htaken | hold
    · cases htaken
    · exact .inl hold
  · refine h.of_moves rfl le_rfl ?_ hreruns hrun ?_
    · intro other hother
      rcases mem_unstarted_setWorker hother with htaken | hold
      · cases htaken
      · exact .inl hold
    · intro m hm
      rcases mem_append.mp hm with hold | hnew
      · exact hmarks m hold
      · rw [mem_singleton.mp hnew]
        exact .inr (iff_of_false (not_not.mpr rfl) (h.reruns _ rerun hrerun))
  · refine h.of_moves rfl le_rfl ?_ hreruns hrun hmarks
    intro other hother
    rcases mem_unstarted_setWorker hother with htaken | hold
    · cases htaken
    rcases mem_unstarted_pushScheduled hold with rfl | hold
    · exact .inr (h.reruns _ _ hrerun)
    · exact .inl hold
  · refine h.of_moves rfl le_rfl ?_ hreruns hrun hmarks
    intro other hother
    rcases mem_unstarted_setWorker hother with htaken | hold
    · cases htaken
      exact .inr (h.reruns _ _ hrerun)
    · exact .inl hold

/-- A task that was not started is cancelled. -/
theorem cancelTasks (h : Started s) {tasks : List Task}
    (hwaiting : ∀ task ∈ tasks, task.handle.id ∉ s.startedIds) :
    Started (tasks.foldl cancelTask s) := by
  have hframe := cancelTasks_frame s tasks
  have hunstarted : (tasks.foldl cancelTask s).unstarted = s.unstarted := by
    unfold Executor.unstarted
    rw [hframe.lanes]
  refine h.of_moves hframe.starts hframe.nextHandle.ge (fun other hother => ?_) ?_ ?_ ?_
  · rw [hunstarted] at hother
    exact .inl hother
  · rw [hframe.rerunByKey]
    exact h.reruns
  · intro w task hworker
    unfold worker? at hworker ⊢
    rwa [hframe.lanes] at hworker
  · intro m hm
    rcases mem_marks_cancelTasks hm with hold | ⟨task, htask, rfl⟩
    · exact .inl hold
    · exact .inr (iff_of_false (not_not.mpr rfl) (hwaiting task htask))

/-- A scheduler that leaves cancels tasks that were not started. -/
theorem exitScheduler (h : Started s) (lane : Lane) : Started (s.exitScheduler lane) := by
  have hcleared : Started (s.updateLane lane fun l => { l with scheduled := [] }) :=
    h.updateLane rfl fun task htask => by
      rw [mem_lane_unstarted] at htask ⊢
      simp only [map_nil, not_mem_nil, false_or] at htask
      exact .inl (htask.imp_right .inr)
  have hcancelled : Started (s.cancelScheduledLane lane) := hcleared.cancelTasks fun task
    htask =>
    h.waiting task (mem_unstarted_of_lane (mem_lane_unstarted.mpr (.inr (.inl htask))))
  exact hcancelled.updateLane rfl fun task htask => .inl htask

/-- A task that was not started is put into the queue, or into the hand of the scheduler. -/
theorem handOver (st : Settings) (h : Started s) (lane : Lane) {task : Task}
    (hwaiting : task.handle.id ∉ s.startedIds) :
    Started ((s.putNowait? st lane task).getD
      (s.updateLane lane fun l => { l with hand := some task })) := by
  cases hput : s.putNowait? st lane task with
  | some s' =>
    obtain ⟨-, rfl⟩ := putNowait?_eq_some.mp hput
    rw [Option.getD_some]
    refine h.updateLane rfl fun other hother => ?_
    rw [mem_lane_unstarted, mem_append, mem_singleton] at hother
    rw [mem_lane_unstarted]
    rcases hother with (hold | rfl) | hrest
    · exact .inl (.inl hold)
    · exact .inr hwaiting
    · exact .inl (.inr hrest)
  | none =>
    rw [Option.getD_none]
    refine h.updateLane rfl fun other hother => ?_
    rw [mem_lane_unstarted] at hother ⊢
    rcases hother with hqueue | hscheduled | hhand | hworkers
    · exact .inl (.inl hqueue)
    · exact .inl (.inr (.inl hscheduled))
    · obtain rfl := Option.some.inj hhand
      exact .inr hwaiting
    · exact .inl (.inr (.inr (.inr hworkers)))

/-- The head of a queue goes to a worker. -/
theorem dequeue (h : Started s) {w : WorkerId} {task : Task} {rest : List Task}
    (hqueue : (s.lanes w.1).queue = task :: rest) :
    Started ((s.updateLane w.1 fun l =>
      { l with queue := rest }).setWorker w (.taken task)) := by
  have hfront : task.handle.id ∉ s.startedIds := h.waiting task (mem_unstarted_of_lane
    (mem_lane_unstarted.mpr (.inl (hqueue ▸ mem_cons_self))))
  have hpopped : Started (s.updateLane w.1 fun l => { l with queue := rest }) :=
    h.updateLane rfl fun other hother => by
      rw [mem_lane_unstarted] at hother ⊢
      rw [hqueue, mem_cons]
      exact .inl (hother.imp_left .inr)
  exact hpopped.setWorker rfl fun other hother => by
    cases hother
    exact hfront

/-- The head of a heap is taken out. -/
theorem popped (h : Started s) {lane : Lane} {serial : ℕ} {task : Task} {rest : List (ℕ × Task)}
    (hscheduled : (s.lanes lane).scheduled = (serial, task) :: rest) :
    Started (s.updateLane lane fun l => { l with scheduled := rest }) ∧
      task.handle.id ∉ s.startedIds := by
  refine ⟨h.updateLane rfl fun other hother => ?_, h.waiting task (mem_unstarted_of_lane
    (mem_lane_unstarted.mpr (.inr (.inl (by rw [hscheduled]; exact mem_cons_self)))))⟩
  rw [mem_lane_unstarted] at hother ⊢
  rw [hscheduled, map_cons, mem_cons]
  exact .inl (hother.imp_right (.imp_left .inr))

/-- What the scheduler has in its hand is taken out. -/
theorem dropped (h : Started s) {lane : Lane} {task : Task}
    (hhand : (s.lanes lane).hand = some task) :
    Started (s.updateLane lane fun l => { l with hand := none }) ∧
      task.handle.id ∉ s.startedIds := by
  refine ⟨h.updateLane rfl fun other hother => ?_, h.waiting task (mem_unstarted_of_lane
    (mem_lane_unstarted.mpr (.inr (.inr (.inl hhand)))))⟩
  rw [mem_lane_unstarted] at hother ⊢
  simp only [reduceCtorEq, false_or] at hother
  exact .inl (hother.imp_right (.imp_right .inr))

theorem shutdown (h : Started s) : Started s.shutdown := by
  unfold Executor.shutdown
  rw [cancelReruns_eq]
  refine h.of_moves rfl le_rfl (fun _ htask => .inl htask) (fun key task htask => ?_)
    (fun _ _ hworker => hworker) fun m hm => ?_
  · cases htask
  rcases mem_append.mp hm with hold | hnew
  · exact .inl hold
  · obtain ⟨task, htask, rfl⟩ := mem_map.mp hnew
    obtain ⟨key, hget⟩ := Dict.mem_values_iff.mp htask
    exact .inr (iff_of_false (not_not.mpr rfl) (h.reruns key task hget))

/-- **Every step keeps it.** -/
theorem step (h : Started s) (hplaced : Placed s []) {a : Action}
    (hs : Executor.step st s a = some s') : Started s' := by
  cases step_stepped hs with
  | submit caller now request => exact h.submit hplaced caller now request
  | idle => exact h
  | dequeue _ hqueue => exact h.dequeue hqueue
  | workerExit => exact h.setWorker rfl nofun
  | startTask hworker => exact h.startTask hplaced hworker
  | finishTask now hworker hran => exact h.finishTask hplaced hworker hran now
  | exitScheduler => exact h.exitScheduler _
  | handOver _ _ _ hscheduled =>
    obtain ⟨hpopped, hwaiting⟩ := h.popped hscheduled
    exact hpopped.handOver st _ hwaiting
  | cancelHand _ hhand =>
    obtain ⟨hdropped, hwaiting⟩ := h.dropped hhand
    have hcancelled : Started ([_].foldl cancelTask _) := hdropped.cancelTasks fun other
      hother =>
      by
      rw [mem_singleton.mp hother]
      exact hwaiting
    exact hcancelled.exitScheduler _
  | @retryPut lane _ _ _ hhand hput =>
    obtain ⟨hdropped, hwaiting⟩ := h.dropped hhand
    have hqueued := hdropped.handOver st lane hwaiting
    rwa [hput, Option.getD_some] at hqueued
  | shutdown => exact h.shutdown

end Started

end Executor

end ChronosHFT.Background
