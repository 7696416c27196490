import ChronosHFT.Oms.TaskCompletion

/-!
# Admission to the reserved lanes

The pending bound is shared out among the lanes, so that the load of the other lanes never
refuses a safety or emergency task: `admitted_of_lt_limit`.  The queue of the lane does: its
workers count in the limit, not in the queue, and a burst that arrives before they dequeue finds
it full. -/

namespace ChronosHFT.Background

namespace Executor

variable {st : Settings} {s : Executor}

/-- Every element has a lane. -/
theorem length_eq_countP_lanes {α : Type*} (l : List α) (lane : α → Lane) :
    l.length = l.countP (fun a => lane a = .default) + l.countP (fun a => lane a = .safety) +
      l.countP (fun a => lane a = .emergency) := by
  induction l with
  | nil => rfl
  | cons a rest ih =>
    rw [List.length_cons, ih, List.countP_cons, List.countP_cons, List.countP_cons]
    cases lane a <;> simp only [decide_true, reduceCtorEq, decide_false, if_true,
      Bool.false_eq_true, if_false] <;> omega

theorem pendingTotal_eq (s : Executor) : s.pendingTotal =
    s.pendingCount .default + s.pendingCount .safety + s.pendingCount .emergency := by
  have hactive := length_eq_countP_lanes s.activeByKey.values Handle.lane
  have hrerun := length_eq_countP_lanes s.rerunByKey.values fun task => task.handle.lane
  unfold pendingTotal pendingCount
  omega

/-- **A lane below its limit admits**, whatever is pending on the other lanes. -/
theorem admitted_of_lt_limit (h : Attended st s) {lane : Lane}
    (hpending : s.pendingCount lane < st.limit lane) : s.admissionRejection st lane = none := by
  have hlanes := s.pendingTotal_eq
  have hlimits := st.limit_add
  have hdefault := h.limit .default
  have hsafety := h.limit .safety
  have hemergency := h.limit .emergency
  unfold admissionRejection
  rw [if_neg (not_le.mpr hpending), if_neg]
  cases lane <;> omega

/-- An immediate submission of a new key is accepted when the queue has room. -/
theorem submit_new_accepted_iff (h : Attended st s) (haccepting : s.accepting = true)
    (caller : Option WorkerId) (now : ℚ) {r : Request} (hdelay : r.delaySec = 0)
    (hnew : s.activeByKey.get? r.key = none)
    (hpending : s.pendingCount (st.effectiveLane r.key r.lane) <
      st.limit (st.effectiveLane r.key r.lane)) :
    (s.submit st caller now r).2.accepted = true ↔
      (s.lanes (st.effectiveLane r.key r.lane)).queue.length <
        st.capacity (st.effectiveLane r.key r.lane) := by
  have hopen : ¬s.accepting = false := by
    rw [haccepting]
    exact Bool.noConfusion
  simp only [submit, if_neg hopen, hnew, submitNew, admitted_of_lt_limit h hpending, hdelay,
    le_refl, if_true, putNowait?]
  by_cases hroom : (s.lanes (st.effectiveLane r.key r.lane)).queue.length <
      st.capacity (st.effectiveLane r.key r.lane)
  · simp only [if_pos hroom]
    exact iff_of_true trivial hroom
  · simp only [if_neg hroom, Submission.rejected, Bool.false_eq_true]
    exact iff_of_false not_false hroom

/-- **Reserved admission.**  In every state that is reached while the executor accepts, an
immediate submission of a new key on the safety or the emergency lane, below the limit of the
lane, is accepted exactly when the queue of the lane has room; a submission that has to be done
halts the manager exactly when it has none. -/
theorem reserved_admission_iff {actions : List Action}
    (hrun : Run.exec (step st) (Executor.start st) actions = some s)
    (haccepting : s.accepting = true) {r : Request} (hdelay : r.delaySec = 0)
    (hnew : s.activeByKey.get? r.key = none) {lane : Lane}
    (hlane : st.effectiveLane r.key r.lane = lane) (_hreserved : lane ≠ .default)
    (hpending : s.pendingCount lane < st.limit lane) (caller : Option WorkerId) (now : ℚ) :
    ((s.submit st caller now r).2.accepted = true ↔
      (s.lanes lane).queue.length < st.capacity lane) ∧
    ∀ m : TaskManager, m.executor = s → m.state ≠ .halted →
      ((m.submitBackgroundTask st caller now r true).1.state ≠ .halted ↔
        (s.lanes lane).queue.length < st.capacity lane) := by
  subst hlane
  have hsound : Sound st s := (Sound.start st).run hrun
  have hiff := submit_new_accepted_iff hsound.attended haccepting caller now hdelay hnew hpending
  refine ⟨hiff, fun m hm hstate => ?_⟩
  subst hm
  rw [← hiff]
  unfold TaskManager.submitBackgroundTask
  dsimp only
  by_cases haccepted : (m.executor.submit st caller now r).2.accepted = true
  · rw [if_pos haccepted]
    exact iff_of_true hstate haccepted
  · rw [if_neg haccepted, if_pos rfl]
    exact iff_of_false (not_not.mpr rfl) haccepted

/-- One worker and four places: of five emergency tasks at once the last is refused, with four of
the five pending that the lane may have, and the manager is halted. -/
theorem reserved_admission_full : ∃ s : Executor,
    Run.exec (step defaults) (Executor.start defaults)
      [.submit none 0 { key := "emergency:1" }, .submit none 0 { key := "emergency:2" },
        .submit none 0 { key := "emergency:3" }, .submit none 0 { key := "emergency:4" }] =
          some s ∧
    s.accepting = true ∧ s.activeByKey.get? "emergency:5" = none ∧
    defaults.effectiveLane "emergency:5" .default = .emergency ∧
    s.pendingCount .emergency < defaults.limit .emergency ∧
    (s.submit defaults none 0 { key := "emergency:5" }).2 =
      Submission.rejected "background_emergency_queue_full" ∧
    (({ executor := s } : TaskManager).submitBackgroundTask defaults none 0
      { key := "emergency:5" } true).1.state = .halted := by
  obtain ⟨s, hs⟩ := Option.isSome_iff_exists.mp (show (Run.exec (step defaults)
    (Executor.start defaults)
      [.submit none 0 { key := "emergency:1" }, .submit none 0 { key := "emergency:2" },
        .submit none 0 { key := "emergency:3" },
        .submit none 0 { key := "emergency:4" }]).isSome = true by decide +kernel)
  have hfacts : (Run.exec (step defaults) (Executor.start defaults)
      [.submit none 0 { key := "emergency:1" }, .submit none 0 { key := "emergency:2" },
        .submit none 0 { key := "emergency:3" }, .submit none 0 { key := "emergency:4" }]).all
      (fun s => decide (s.accepting = true ∧ s.activeByKey.get? "emergency:5" = none ∧
        defaults.effectiveLane "emergency:5" .default = .emergency ∧
        s.pendingCount .emergency < defaults.limit .emergency ∧
        (s.submit defaults none 0 { key := "emergency:5" }).2 =
          Submission.rejected "background_emergency_queue_full" ∧
        (({ executor := s } : TaskManager).submitBackgroundTask defaults none 0
          { key := "emergency:5" } true).1.state = .halted)) = true := by
    decide +kernel
  rw [hs] at hfacts
  exact ⟨s, hs, of_decide_eq_true hfacts⟩

/-- When its worker has taken the first of them, the lane has room for the fifth. -/
theorem reserved_admission_iff_dequeued : ∃ s : Executor,
    Run.exec (step defaults) (Executor.start defaults)
      [.submit none 0 { key := "emergency:1" }, .submit none 0 { key := "emergency:2" },
        .submit none 0 { key := "emergency:3" }, .submit none 0 { key := "emergency:4" },
        .dequeue (.emergency, 0)] = some s ∧
    (s.submit defaults none 0 { key := "emergency:5" }).2.accepted = true := by
  obtain ⟨s, hs⟩ := Option.isSome_iff_exists.mp (show (Run.exec (step defaults)
    (Executor.start defaults)
      [.submit none 0 { key := "emergency:1" }, .submit none 0 { key := "emergency:2" },
        .submit none 0 { key := "emergency:3" }, .submit none 0 { key := "emergency:4" },
        .dequeue (.emergency, 0)]).isSome = true by decide +kernel)
  have hfacts : (Run.exec (step defaults) (Executor.start defaults)
      [.submit none 0 { key := "emergency:1" }, .submit none 0 { key := "emergency:2" },
        .submit none 0 { key := "emergency:3" }, .submit none 0 { key := "emergency:4" },
        .dequeue (.emergency, 0)]).all
      (fun s => decide (s.accepting = true ∧ s.activeByKey.get? "emergency:5" = none ∧
        s.pendingCount .emergency < defaults.limit .emergency ∧
        (s.lanes .emergency).queue.length < defaults.capacity .emergency)) = true := by
    decide +kernel
  rw [hs] at hfacts
  obtain ⟨haccepting, hnew, hpending, hroom⟩ := of_decide_eq_true hfacts
  have hlane : defaults.effectiveLane "emergency:5" .default = .emergency := by decide +kernel
  have hadmitted := reserved_admission_iff hs haccepting (r := { key := "emergency:5" }) rfl hnew
    hlane nofun hpending none 0
  exact ⟨s, hs, hadmitted.1.mpr hroom⟩

end Executor

end ChronosHFT.Background
