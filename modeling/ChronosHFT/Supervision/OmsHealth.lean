import ChronosHFT.Lib.Run

/-!
# The health of the sidecar, seen from the parent

`SidecarOmsHealth` of `risk/sidecar_health.py` and `drain_status` of `risk/sidecar_transport.py`.
At every tick the parent takes the statuses that came and keeps the last valid one.  Where it is
missing, stale or unhealthy, the engine may only reduce; that constraint is cleared after a
number of healthy ticks with new risk snapshots.

**When the recovery is gated** (`clear_gated`).  What counts as new is compared with the snapshot
of the status that is kept at an unhealthy tick.  As long as that is the newest one received, a
constraint is cleared only after enough snapshots that are newer than all those received before.

**An invalid status** makes the parent forget (`forgotten_snapshot`): after it an old snapshot
counts as a new one. -/

namespace ChronosHFT.Supervision

/-! ## Statuses -/

/-- What the parent reads of a status that passed `_validate_status_payload`. -/
structure SidecarStatus where
  sequence : ℕ
  healthy : Bool
  reason : String := ""
  riskAction : String := "NONE"
  riskSnapshotSequence : ℕ := 0
  riskSnapshotCapturedMonotonic : ℚ := 0
  deriving DecidableEq

/-- What the queue gives. -/
inductive StatusItem
  /-- The queue cannot be read. -/
  | queueError (text : String)
  | notObject
  /-- A status of another session. -/
  | foreign
  | invalid (text : String)
  | status (status : SidecarStatus)

/-- The settings of the supervisor. -/
structure SupervisorSettings where
  enabled : Bool := true
  recoveryChecks : ℕ+ := 2
  statusMaxAgeSec : ℚ := 2
  recoverySnapshotMaxAgeSec : ℚ := 10

/-- What the supervisor remembers. -/
structure Supervisor where
  lastStatus : Option SidecarStatus := none
  lastStatusReceivedAt : ℚ := 0
  lastStatusProtocolError : String := ""
  recoveryCount : ℕ := 0
  lastRecoverySnapshotSequence : ℕ := 0

/-- What a tick does to the engine. -/
inductive HealthEffect
  | heartbeat (healthy : Bool) (reason : String)
  | triggerKill (reason : String)
  | reduceOnly (reason : String)
  | clear
  deriving DecidableEq

/-- What a tick meets: the process, the statuses that wait, the clock of the tick and of the
check of the snapshot, and the answers of the engine. -/
structure SupervisorTick where
  processAlive : Bool := true
  items : List StatusItem := []
  now : ℚ
  appliedAt : ℚ
  constrained : Bool
  heartbeatRecorded : Bool := true

namespace Supervisor

/-- The number of the risk snapshot that is remembered, 0 without one. -/
def snapshotSequence (s : Supervisor) : ℕ :=
  (s.lastStatus.map SidecarStatus.riskSnapshotSequence).getD 0

/-- The number of the status that is remembered, 0 without one. -/
def statusSequence (s : Supervisor) : ℕ := (s.lastStatus.map SidecarStatus.sequence).getD 0

/-- Nothing is remembered. -/
def wipe (s : Supervisor) (text : String) : Supervisor :=
  { s with
    lastStatus := none
    lastStatusReceivedAt := 0
    lastStatusProtocolError := text }

/-- `drain_status`. -/
def drainStatus (now : ℚ) : Supervisor → List StatusItem → Supervisor
  | s, [] => s
  | s, .queueError text :: _ => s.wipe ("status_queue_error:" ++ text)
  | s, .notObject :: rest => drainStatus now (s.wipe "status_not_object") rest
  | s, .foreign :: rest => drainStatus now s rest
  | s, .invalid text :: rest => drainStatus now (s.wipe text) rest
  | s, .status status :: rest =>
    if status.sequence ≤ s.statusSequence then drainStatus now s rest
    else
      drainStatus now
        { s with
          lastStatus := some status
          lastStatusReceivedAt := now
          lastStatusProtocolError := "" } rest

/-- `reset_recovery_progress`. -/
def resetRecoveryProgress (s : Supervisor) : Supervisor :=
  { s with
    recoveryCount := 0
    lastRecoverySnapshotSequence := s.snapshotSequence }

/-- `reason or fallback`. -/
def orReason (reason fallback : String) : String := if reason = "" then fallback else reason

/-- `apply` of an unhealthy tick. -/
def applyUnhealthy (s : Supervisor) (reason : String) : Supervisor × List HealthEffect × Bool :=
  let riskAction := (s.lastStatus.map fun status => status.riskAction.toUpper).getD ""
  let kill :=
    if riskAction = "KILL" then
      [HealthEffect.triggerKill ("IndependentSupervisor: " ++
        orReason reason "hard risk breach")]
    else []
  (s.resetRecoveryProgress,
    HealthEffect.heartbeat false reason :: kill ++
      [.reduceOnly ("independent_supervisor:" ++ orReason reason "unhealthy")], false)

/-- The snapshot that is remembered may count. -/
def snapshotFresh (cfg : SupervisorSettings) (s : Supervisor) (now : ℚ) : Bool :=
  match s.lastStatus with
  | none => false
  | some status =>
    0 < status.riskSnapshotSequence ∧ 0 < status.riskSnapshotCapturedMonotonic ∧
      status.riskSnapshotCapturedMonotonic ≤ now ∧
      now - status.riskSnapshotCapturedMonotonic ≤ cfg.recoverySnapshotMaxAgeSec

/-- The progress of a snapshot: one that is newer than the last is counted. -/
def advance (s : Supervisor) : Supervisor :=
  if s.lastRecoverySnapshotSequence < s.snapshotSequence then
    { s with
      recoveryCount := s.recoveryCount + 1
      lastRecoverySnapshotSequence := s.snapshotSequence }
  else s

/-- `apply` of a healthy tick. -/
def applyHealthy (cfg : SupervisorSettings) (s : Supervisor) (reason : String)
    (tick : SupervisorTick) : Supervisor × List HealthEffect × Bool :=
  let heartbeat := HealthEffect.heartbeat true reason
  if tick.constrained = false then (s.resetRecoveryProgress, [heartbeat], tick.heartbeatRecorded)
  else if s.snapshotFresh cfg tick.appliedAt = false then
    (s.resetRecoveryProgress, [heartbeat], false)
  else if s.snapshotSequence < s.lastRecoverySnapshotSequence then
    (s.resetRecoveryProgress, [heartbeat], false)
  else if s.advance.recoveryCount < cfg.recoveryChecks then (s.advance, [heartbeat], false)
  else (s.advance.resetRecoveryProgress, [heartbeat, .clear], tick.heartbeatRecorded)

/-- Why a tick is unhealthy before the status is asked. -/
def unhealthyReason? (cfg : SupervisorSettings) (s : Supervisor) (now : ℚ) : Option String :=
  match s.lastStatus with
  | none =>
    some (if s.lastStatusProtocolError = "" then "supervisor_status_missing"
      else "supervisor_status_invalid:" ++ s.lastStatusProtocolError)
  | some status =>
    if cfg.statusMaxAgeSec < max 0 (now - s.lastStatusReceivedAt) then
      some "supervisor_status_stale"
    else if status.healthy then none
    else some status.reason

/-- The supervisor after the statuses of a tick were taken; those of a dead process are not. -/
def drained (s : Supervisor) (tick : SupervisorTick) : Supervisor :=
  if tick.processAlive then s.drainStatus tick.now tick.items else s

/-- `tick`: the state, what it does to the engine, and whether all is well. -/
def tick (cfg : SupervisorSettings) (s : Supervisor) (t : SupervisorTick) :
    Supervisor × List HealthEffect × Bool :=
  if cfg.enabled = false then (s, [], true)
  else if t.processAlive = false then s.applyUnhealthy "supervisor_process_down"
  else
    let s := s.drained t
    match s.unhealthyReason? cfg t.now with
    | some reason => s.applyUnhealthy reason
    | none =>
      s.applyHealthy cfg ((s.lastStatus.map SidecarStatus.reason).getD "") t

end Supervisor

/-! ## Runs -/

/-- A supervisor over its ticks: the highest snapshot number received, the highest one received
up to the last unhealthy tick, and those observed at the healthy ticks since. -/
structure Watch where
  supervisor : Supervisor := {}
  received : ℕ := 0
  before : ℕ := 0
  observed : List ℕ := []

/-- The highest snapshot number of the statuses that are taken, valid ones of this session. -/
def highestReceived : ℕ → List StatusItem → ℕ
  | highest, [] => highest
  | highest, .queueError _ :: _ => highest
  | highest, .status status :: rest =>
    highestReceived (max highest status.riskSnapshotSequence) rest
  | highest, _ :: rest => highestReceived highest rest

namespace Watch

variable (cfg : SupervisorSettings)

/-- The highest snapshot number after the statuses of a tick. -/
def receivedAfter (w : Watch) (t : SupervisorTick) : ℕ :=
  if t.processAlive then highestReceived w.received t.items else w.received

/-- Is a tick healthy? -/
def healthyTick (w : Watch) (t : SupervisorTick) : Bool :=
  t.processAlive && ((w.supervisor.drained t).unhealthyReason? cfg t.now).isNone

/-- One tick. -/
def next (w : Watch) (t : SupervisorTick) : Watch :=
  if cfg.enabled = false then w
  else if w.healthyTick cfg t then
    { supervisor := (w.supervisor.tick cfg t).1
      received := w.receivedAfter t
      before := w.before
      observed := (w.supervisor.drained t).snapshotSequence :: w.observed }
  else
    { supervisor := (w.supervisor.tick cfg t).1
      received := w.receivedAfter t
      before := w.receivedAfter t }

def step (w : Watch) (t : SupervisorTick) : Option Watch := some (w.next cfg t)

/-- **What is remembered is the newest**: the status that a tick leaves has the highest snapshot
number received. -/
def Kept (w : Watch) (t : SupervisorTick) : Prop :=
  t.processAlive = true → (w.supervisor.drained t).snapshotSequence = w.receivedAfter t

/-- **A gated recovery**: the constraint is cleared only with a fresh snapshot, and after enough
healthy ticks observed different snapshots, all newer than those received up to the last
unhealthy tick. -/
def Gated (w : Watch) (t : SupervisorTick) : Prop :=
  HealthEffect.clear ∈ (w.supervisor.tick cfg t).2.1 →
    (w.supervisor.drained t).snapshotFresh cfg t.appliedAt = true ∧
      ∃ snapshots : List ℕ, snapshots.Nodup ∧ (cfg.recoveryChecks : ℕ) ≤ snapshots.length ∧
        ∀ snapshot ∈ snapshots, snapshot ∈ (w.next cfg t).observed ∧
          (w.next cfg t).before < snapshot

/-- The snapshots that were counted, against what is remembered. -/
structure Counted (s : Supervisor) (received before : ℕ) (observed counted : List ℕ) : Prop where
  newest : s.snapshotSequence = received
  floor : before ≤ s.lastRecoverySnapshotSequence
  length : counted.length = s.recoveryCount
  nodup : counted.Nodup
  bounds : ∀ snapshot ∈ counted, snapshot ∈ observed ∧ before < snapshot ∧
    snapshot ≤ s.lastRecoverySnapshotSequence

/-- The invariant. -/
structure Counting (w : Watch) : Prop where
  before_le : w.before ≤ w.received
  counted : ∃ counted, Counted w.supervisor w.received w.before w.observed counted

end Watch

section Recovery

variable {cfg : SupervisorSettings}

theorem snapshotSequence_advance (s : Supervisor) :
    s.advance.snapshotSequence = s.snapshotSequence := by
  unfold Supervisor.advance
  split
  · rfl
  · rfl

variable {counted observed : List ℕ} {w : Watch} {t : SupervisorTick}

/-- A reset starts from the status that is remembered. -/
theorem counted_reset {s : Supervisor} {received before : ℕ}
    (hnewest : s.snapshotSequence = received) (hle : before ≤ received) :
    Watch.Counted s.resetRecoveryProgress received before observed [] where
  newest := hnewest
  floor := hle.trans hnewest.ge
  length := rfl
  nodup := List.nodup_nil
  bounds := fun _ h => by cases h

/-- One more snapshot is counted when it is newer. -/
theorem counted_advance {s : Supervisor} {received before : ℕ}
    (h : Watch.Counted s received before observed counted) :
    ∃ counted', Watch.Counted s.advance received before
    (s.snapshotSequence :: observed) counted' := by
  unfold Supervisor.advance
  by_cases hnew : s.lastRecoverySnapshotSequence < s.snapshotSequence
  · rw [if_pos hnew]
    refine ⟨s.snapshotSequence :: counted, ?_⟩
    constructor
    · exact h.newest
    · exact h.floor.trans hnew.le
    · exact congrArg (· + 1) h.length
    · refine List.nodup_cons.mpr ⟨fun hmem => ?_, h.nodup⟩
      exact absurd (h.bounds _ hmem).2.2 (not_le.mpr hnew)
    intro snapshot hsnapshot
    rcases List.mem_cons.mp hsnapshot with rfl | hold
    · exact ⟨List.mem_cons_self, h.floor.trans_lt hnew, le_refl _⟩
    · obtain ⟨hobserved, habove, hbelow⟩ := h.bounds snapshot hold
      exact ⟨List.mem_cons_of_mem _ hobserved, habove, hbelow.trans hnew.le⟩
  · rw [if_neg hnew]
    refine ⟨counted, h.newest, h.floor, h.length, h.nodup, fun snapshot hsnapshot => ?_⟩
    obtain ⟨hobserved, hrest⟩ := h.bounds snapshot hsnapshot
    exact ⟨List.mem_cons_of_mem _ hobserved, hrest⟩

/-- Taking statuses does not touch the progress. -/
theorem progress_drainStatus (now : ℚ) (items : List StatusItem) (s : Supervisor) :
    (s.drainStatus now items).recoveryCount = s.recoveryCount ∧
      (s.drainStatus now items).lastRecoverySnapshotSequence =
        s.lastRecoverySnapshotSequence := by
  induction items generalizing s with
  | nil => exact ⟨rfl, rfl⟩
  | cons item rest ih =>
    cases item with
    | queueError text => exact ⟨rfl, rfl⟩
    | notObject => exact ih (s.wipe "status_not_object")
    | foreign => exact ih s
    | invalid text => exact ih (s.wipe text)
    | status status =>
      unfold Supervisor.drainStatus
      split
      · exact ih s
      · exact ih _

/-- The progress with the statuses of a tick. -/
theorem counted_drained (hkept : w.Kept t)
    (h : Watch.Counted w.supervisor w.received w.before w.observed counted) :
    Watch.Counted (w.supervisor.drained t) (w.receivedAfter t) w.before w.observed counted := by
  unfold Watch.Kept at hkept
  unfold Supervisor.drained Watch.receivedAfter at *
  cases halive : t.processAlive with
  | false => exact h
  | true =>
    rw [if_pos halive, if_pos halive] at hkept
    obtain ⟨hcount, hlast⟩ := progress_drainStatus t.now t.items w.supervisor
    simp only [if_true]
    exact ⟨hkept halive, hlast ▸ h.floor, hcount ▸ h.length, h.nodup, hlast ▸ h.bounds⟩

theorem le_highestReceived (items : List StatusItem) (highest : ℕ) :
    highest ≤ highestReceived highest items := by
  induction items generalizing highest with
  | nil => exact le_refl _
  | cons item rest ih =>
    cases item with
    | queueError text => exact le_refl _
    | notObject | foreign | invalid => exact ih highest
    | status status => exact (le_max_left _ _).trans (ih _)

theorem le_receivedAfter (w : Watch) (t : SupervisorTick) : w.received ≤ w.receivedAfter t := by
  unfold Watch.receivedAfter
  split
  · exact le_highestReceived t.items w.received
  · exact le_refl _

/-- **What a healthy tick does**: it starts again, it counts, or it counts enough and clears. -/
theorem applyHealthy_cases (s : Supervisor) (reason : String) (t : SupervisorTick) :
    ((s.applyHealthy cfg reason t).1 = s.resetRecoveryProgress ∧
        HealthEffect.clear ∉ (s.applyHealthy cfg reason t).2.1) ∨
      ((s.applyHealthy cfg reason t).1 = s.advance ∧
        HealthEffect.clear ∉ (s.applyHealthy cfg reason t).2.1) ∨
      ((s.applyHealthy cfg reason t).1 = s.advance.resetRecoveryProgress ∧
        s.snapshotFresh cfg t.appliedAt = true ∧
        (cfg.recoveryChecks : ℕ) ≤ s.advance.recoveryCount) := by
  have hquiet : HealthEffect.clear ∉ [HealthEffect.heartbeat true reason] := by
    simp
  unfold Supervisor.applyHealthy
  simp only
  split
  · exact .inl ⟨rfl, hquiet⟩
  split
  · exact .inl ⟨rfl, hquiet⟩
  next hfresh =>
    split
    · exact .inl ⟨rfl, hquiet⟩
    split
    · exact .inr (.inl ⟨rfl, hquiet⟩)
    next henough =>
      exact .inr (.inr ⟨rfl, (Bool.not_eq_false _).mp hfresh, not_lt.mp henough⟩)

/-- An unhealthy tick starts again. -/
theorem tick_unhealthy (henabled : cfg.enabled = true) (h : w.healthyTick cfg t = false) :
    (w.supervisor.tick cfg t).1 = (w.supervisor.drained t).resetRecoveryProgress ∧
      HealthEffect.clear ∉ (w.supervisor.tick cfg t).2.1 := by
  have hunhealthy : ∀ (s : Supervisor) (reason : String),
      (s.applyUnhealthy reason).1 = s.resetRecoveryProgress ∧
        HealthEffect.clear ∉ (s.applyUnhealthy reason).2.1 := by
    intro s reason
    refine ⟨rfl, ?_⟩
    unfold Supervisor.applyUnhealthy
    simp only
    split
    · simp
    · simp
  unfold Supervisor.tick
  rw [henabled, if_neg (by decide)]
  cases halive : t.processAlive with
  | false =>
    rw [if_pos rfl, Supervisor.drained, halive, if_neg Bool.false_ne_true]
    exact hunhealthy _ _
  | true =>
    rw [if_neg (by decide)]
    simp only
    unfold Watch.healthyTick at h
    rw [halive, Bool.true_and] at h
    cases hreason : (w.supervisor.drained t).unhealthyReason? cfg t.now with
    | none =>
      rw [hreason] at h
      cases h
    | some reason => exact hunhealthy _ _

/-- A healthy tick is the healthy part of the tick. -/
theorem tick_healthy (henabled : cfg.enabled = true) (h : w.healthyTick cfg t = true) :
    ∃ reason, w.supervisor.tick cfg t = (w.supervisor.drained t).applyHealthy cfg reason t := by
  unfold Watch.healthyTick at h
  rw [Bool.and_eq_true, Option.isNone_iff_eq_none] at h
  obtain ⟨halive, hreason⟩ := h
  unfold Supervisor.tick
  rw [henabled, if_neg (by decide), halive, if_neg (by decide)]
  simp only [hreason]
  exact ⟨_, rfl⟩

/-- The invariant after a tick. -/
theorem counting_next (h : w.Counting) (hkept : w.Kept t) : (w.next cfg t).Counting := by
  obtain ⟨hbefore, counted, hcounted⟩ := h
  unfold Watch.next
  by_cases hdisabled : cfg.enabled = false
  · rw [if_pos hdisabled]
    exact ⟨hbefore, counted, hcounted⟩
  rw [if_neg hdisabled]
  have henabled : cfg.enabled = true := (Bool.not_eq_false _).mp hdisabled
  have hdrained := counted_drained hkept hcounted
  have hle : w.before ≤ w.receivedAfter t := hbefore.trans (le_receivedAfter w t)
  cases hhealthy : w.healthyTick cfg t with
  | false =>
    rw [if_neg Bool.false_ne_true, (tick_unhealthy henabled hhealthy).1]
    exact ⟨le_refl _, [], counted_reset hdrained.newest (le_refl _)⟩
  | true =>
    rw [if_pos rfl]
    obtain ⟨reason, htick⟩ := tick_healthy henabled hhealthy
    rw [htick]
    refine ⟨hle, ?_⟩
    rcases @applyHealthy_cases cfg (w.supervisor.drained t) reason t with ⟨hreset, -⟩ |
      ⟨hadvance, -⟩ | ⟨hcleared, -⟩
    · rw [hreset]
      exact ⟨[], counted_reset hdrained.newest hle⟩
    · rw [hadvance]
      exact counted_advance hdrained
    · rw [hcleared]
      exact ⟨[], counted_reset ((snapshotSequence_advance _).trans hdrained.newest) hle⟩

/-- A tick that clears is gated. -/
theorem gated_of_counting (h : w.Counting) (hkept : w.Kept t) : w.Gated cfg t := by
  intro hclear
  obtain ⟨hbefore, counted, hcounted⟩ := h
  cases henabled : cfg.enabled with
  | false =>
    unfold Supervisor.tick at hclear
    rw [if_pos henabled] at hclear
    cases hclear
  | true =>
    cases hhealthy : w.healthyTick cfg t with
    | false => exact absurd hclear (tick_unhealthy henabled hhealthy).2
    | true =>
      obtain ⟨reason, htick⟩ := tick_healthy henabled hhealthy
      rw [htick] at hclear
      rcases @applyHealthy_cases cfg (w.supervisor.drained t) reason t with ⟨-, hnone⟩ |
        ⟨-, hnone⟩ | ⟨-, hfresh, henough⟩
      · exact absurd hclear hnone
      · exact absurd hclear hnone
      obtain ⟨snapshots, hsnapshots⟩ := counted_advance (counted_drained hkept hcounted)
      have hnext : (w.next cfg t).observed =
          (w.supervisor.drained t).snapshotSequence :: w.observed ∧
          (w.next cfg t).before = w.before := by
        unfold Watch.next
        rw [henabled, if_neg (by decide), hhealthy, if_pos rfl]
        exact ⟨rfl, rfl⟩
      rw [hnext.1, hnext.2]
      refine ⟨hfresh, snapshots, hsnapshots.nodup, henough.trans hsnapshots.length.ge, ?_⟩
      intro snapshot hsnapshot
      obtain ⟨hobserved, habove, -⟩ := hsnapshots.bounds snapshot hsnapshot
      exact ⟨hobserved, habove⟩

/-- **The recovery is gated** in every run whose ticks remember the newest snapshot. -/
theorem clear_gated {ticks : List SupervisorTick}
    (hkept : Run.Along (Watch.step cfg) Watch.Kept {} ticks) :
    Run.Along (Watch.step cfg) (Watch.Gated cfg) {} ticks := by
  have hstart : Watch.Counting {} :=
    ⟨le_refl 0, [], rfl, le_refl 0, rfl, List.nodup_nil, fun _ h => by cases h⟩
  have hgated : ∀ (w : Watch) (t : SupervisorTick), w.Counting → w.Kept t → w.Gated cfg t :=
    fun w t h hkept => gated_of_counting h hkept
  refine Run.along_of_invariant hgated ?_ hstart hkept
  rintro w t _ h hkept ⟨⟩
  exact counting_next h hkept

end Recovery

/-! ## An invalid status -/

/-- A status with its number and the number of its snapshot, captured at a time. -/
def statusAt (sequence : ℕ) (healthy : Bool) (snapshot : ℕ) (captured : ℚ) : StatusItem :=
  .status {
    sequence := sequence
    healthy := healthy
    riskSnapshotSequence := snapshot
    riskSnapshotCapturedMonotonic := captured }

/-- A tick at a time, with the constraint in place. -/
def tickAt (now : ℚ) (items : List StatusItem) : SupervisorTick where
  items := items
  now := now
  appliedAt := now
  constrained := true

/-- An unhealthy tick, and two healthy ones with new snapshots. -/
def recovering : List SupervisorTick :=
  [tickAt 10 [statusAt 1 false 5 9], tickAt 11 [statusAt 2 true 6 10],
    tickAt 12 [statusAt 3 true 7 11]]

theorem clear_gated_recovering :
    Run.Along (Watch.step {}) (Watch.Gated {}) {} recovering ∧
      ((Run.exec (Watch.step {}) {} (recovering.take 2)).map fun w =>
        decide (HealthEffect.clear ∈
          (w.supervisor.tick {} (tickAt 12 [statusAt 3 true 7 11])).2.1)) =
          some true := by
  refine ⟨clear_gated ⟨fun _ => by decide +kernel, ?_⟩, by decide +kernel⟩
  rintro _ ⟨⟩
  refine ⟨fun _ => by decide +kernel, ?_⟩
  rintro _ ⟨⟩
  exact ⟨fun _ => by decide +kernel, fun _ _ => trivial⟩

/-- An unhealthy tick, an invalid status, and two healthy ticks of which the first has the old
snapshot. -/
def forgetting : List SupervisorTick :=
  [tickAt 10 [statusAt 1 false 5 9], tickAt 11 [.invalid "status_reason_invalid"],
    tickAt 12 [statusAt 2 true 5 9], tickAt 13 [statusAt 3 true 6 12]]

/-- **An old snapshot counts** after an invalid status. -/
theorem forgotten_snapshot :
    ¬∀ (cfg : SupervisorSettings) (ticks : List SupervisorTick),
      Run.Along (Watch.step cfg) (Watch.Gated cfg) {} ticks := by
  intro hall
  let last := tickAt 13 [statusAt 3 true 6 12]
  obtain ⟨w, hw, hgated⟩ : ∃ w, Run.exec (Watch.step {}) {} (forgetting.take 3) = some w ∧
      w.Gated {} last :=
    ⟨_, rfl, (hall {} forgetting).2 _ rfl |>.2 _ rfl |>.2 _ rfl |>.1⟩
  have hends : ((Run.exec (Watch.step {}) {} (forgetting.take 3)).map fun w =>
      (decide (HealthEffect.clear ∈ (w.supervisor.tick {} last).2.1), (w.next {} last).observed,
        (w.next {} last).before)) = some (true, [6, 5], 5) := by
    decide +kernel
  rw [hw] at hends
  simp only [Option.map_some, Option.some.injEq, Prod.mk.injEq, decide_eq_true_eq] at hends
  obtain ⟨hclear, hobserves, hbefore⟩ := hends
  obtain ⟨-, snapshots, hnodup, henough, hall⟩ := hgated hclear
  -- only the last snapshot is newer than the one of the unhealthy tick
  have hsix : ∀ snapshot ∈ snapshots, snapshot = 6 := by
    intro snapshot hsnapshot
    obtain ⟨hobserved, habove⟩ := hall snapshot hsnapshot
    rw [hobserves] at hobserved
    rw [hbefore] at habove
    rcases List.mem_cons.mp hobserved with rfl | hfive
    · rfl
    · rw [List.mem_singleton.mp hfive] at habove
      exact absurd habove (lt_irrefl 5)
  have hlength : snapshots.length ≤ 1 := by
    rw [List.eq_replicate_of_mem hsix] at hnodup
    exact List.nodup_replicate.mp hnodup
  exact absurd (henough.trans hlength) (by decide)

end ChronosHFT.Supervision
