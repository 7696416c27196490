import ChronosHFT.Sidecar.AccountRisk
import ChronosHFT.Sidecar.RestoredIdentity

/-!
# The loss baselines over restarts

The losses of the account are to be measured from the first snapshot of the day and of the
deployment, whatever restarts there were in between.

A call evaluates the snapshots it takes and nothing else touches the baselines (`call_equity`),
and a start takes them over from the disk.  An ordinary step writes them there; but a quiesced
step, a stop that waits and the preparation of a rearm evaluate snapshots without writing, so
that a restart after one of these goes back to older baselines (`baselines_lost`).
`loss_baselines` says that it is only this: where every restart finds the baselines of the memory
on disk, they are those of the first snapshot of the day and of the deployment at every moment.
-/

namespace ChronosHFT.Sidecar

open List

/-! ## Readings of snapshots -/

/-- The equity state a reading leaves behind. -/
def Reading.equityAfter (e : EquityState) : Reading → EquityState
  | .raised _ after => after
  | .assessed _ after _ => after
  | _ => e

/-- The readings of a snapshot that is evaluated on `e`, with the samples it gives: the
evaluation leaves before `evaluate_equity`, or goes through it, and may raise on the way. -/
inductive Reading.Evaluates (policy : AccountPolicy) (e : EquityState) :
    Reading → List EquitySample → Prop
  | unhealthy (reason : String) : Reading.Evaluates policy e (.unhealthy reason) []
  | channel : Reading.Evaluates policy e .channel []
  | malformed : Reading.Evaluates policy e .malformed []
  | leaves (a : Assessment) (capturedAt : ℚ) :
      Reading.Evaluates policy e (.assessed a e capturedAt) []
  | leavesRaised (reason : String) : Reading.Evaluates policy e (.raised reason e) []
  | evaluated (snapshot : EquitySnapshot) (a : Assessment) (capturedAt : ℚ) :
      Reading.Evaluates policy e
        (.assessed a (policy.evaluateEquity snapshot e).1 capturedAt)
        (policy.gate snapshot).samples
  | raised (snapshot : EquitySnapshot) (reason : String) :
      Reading.Evaluates policy e (.raised reason (policy.evaluateEquity snapshot e).1)
        (policy.gate snapshot).samples

theorem AccountPolicy.evaluateEquity_eq (policy : AccountPolicy) (snapshot : EquitySnapshot)
    (e : EquityState) :
    (policy.evaluateEquity snapshot e).1 = e.trackAll policy (policy.gate snapshot).samples := by
  unfold evaluateEquity
  cases policy.gate snapshot with
  | exits action reason => rfl
  | raises => rfl
  | passes sample => rfl

variable {policy : AccountPolicy} {samples : List EquitySample} {st : Settings}

/-- **A reading** does to the baselines what its samples do. -/
theorem Reading.Evaluates.equity {e : EquityState} {reading : Reading}
    (h : reading.Evaluates policy e samples) :
    reading.equityAfter e = e.trackAll policy samples := by
  cases h with
  | unhealthy reason => rfl
  | channel => rfl
  | malformed => rfl
  | leaves a capturedAt => rfl
  | leavesRaised reason => rfl
  | evaluated snapshot a capturedAt => exact policy.evaluateEquity_eq snapshot e
  | raised snapshot reason => exact policy.evaluateEquity_eq snapshot e

/-! ## Servicing the exchange -/

namespace Observation

variable (policy : ObservationPolicy)

/-- The reading that `service` applies, if it applies one. -/
def taken (o : Observation) (now : ℚ) (force : Bool) (input : ServiceInput) : Option Reading :=
  if policy.hasWorker then
    match input.result with
    | none => none
    | some result =>
      if o.lastSnapshotResultSequence < result.sequence ∧
          result.sequence = o.snapshotRequestInflightSequence ∧ 0 < result.requestedMonotonic ∧
          result.requestedMonotonic ≤ result.completedMonotonic ∧
          result.completedMonotonic ≤ now ∧
          result.completedMonotonic - result.requestedMonotonic ≤
            policy.snapshotWorkerTimeoutSec ∧
          now - min now result.completedMonotonic ≤ policy.exchangeMaxAgeSec then
        some result.reading
      else none
  else if force ∨ o.lastExchangePollAt ≤ 0 ∨
      policy.exchangePollIntervalSec ≤ now - o.lastExchangePollAt then some input.reading
  else none

@[simp] theorem equity_markUnhealthy (o : Observation) (reason : String) :
    (o.markUnhealthy reason).equity = o.equity := by
  unfold markUnhealthy
  dsimp only
  split <;> rfl

theorem equity_applyResult (o : Observation) (reading : Reading) (completedMonotonic : ℚ) :
    (o.applyResult reading completedMonotonic).equity = reading.equityAfter o.equity := by
  unfold applyResult
  cases reading with
  | unhealthy reason => exact equity_markUnhealthy o _
  | channel => rfl
  | malformed => exact equity_markUnhealthy o _
  | raised reason equity => exact equity_markUnhealthy _ _
  | assessed a equity capturedAt => rfl

/-- The end of `service_worker` leaves the baselines. -/
theorem equity_endWorker (o : Observation) (now : ℚ) (force : Bool) (input : ServiceInput) :
    (((o.watchWorker policy now input).submitRequest policy now force input).checkOutput policy
      now).equity = o.equity := by
  have hcheck : ∀ o : Observation, (o.checkOutput policy now).equity = o.equity := by
    intro o
    unfold checkOutput
    split
    · split
      · exact equity_markUnhealthy o _
      · rfl
    · split
      · exact equity_markUnhealthy o _
      · rfl
  have hsubmit : ∀ o : Observation,
      (o.submitRequest policy now force input).equity = o.equity := by
    intro o
    unfold submitRequest
    dsimp only
    split
    · split
      · rfl
      · exact equity_markUnhealthy _ _
    · rfl
  have hwatch : (o.watchWorker policy now input).equity = o.equity := by
    unfold watchWorker
    dsimp only
    split
    · split
      · exact equity_markUnhealthy o _
      · rfl
    · split
      · exact (equity_markUnhealthy _ _).trans (equity_markUnhealthy o _)
      · exact equity_markUnhealthy o _
  rw [hcheck, hsubmit, hwatch]

theorem equity_takeResult (o : Observation) (now : ℚ) (result : WorkerResult) :
    (o.takeResult policy now result).equity =
      if o.lastSnapshotResultSequence < result.sequence ∧
          result.sequence = o.snapshotRequestInflightSequence ∧ 0 < result.requestedMonotonic ∧
          result.requestedMonotonic ≤ result.completedMonotonic ∧
          result.completedMonotonic ≤ now ∧
          result.completedMonotonic - result.requestedMonotonic ≤
            policy.snapshotWorkerTimeoutSec ∧
          now - min now result.completedMonotonic ≤ policy.exchangeMaxAgeSec then
        result.reading.equityAfter o.equity
      else o.equity := by
  unfold takeResult
  by_cases hnew : result.sequence ≤ o.lastSnapshotResultSequence
  · rw [if_pos hnew, if_neg fun h => absurd h.1 (not_lt.mpr hnew)]
  rw [if_neg hnew]
  dsimp only
  have hkept :
      (if result.sequence = o.snapshotRequestInflightSequence then
        { o with
          lastSnapshotResultSequence := result.sequence
          snapshotRequestInflightSequence := 0
          snapshotRequestInflightSince := 0 }
      else { o with lastSnapshotResultSequence := result.sequence } : Observation).equity =
        o.equity := by
    split <;> rfl
  generalize (if result.sequence = o.snapshotRequestInflightSequence then
        { o with
          lastSnapshotResultSequence := result.sequence
          snapshotRequestInflightSequence := 0
          snapshotRequestInflightSince := 0 }
      else { o with lastSnapshotResultSequence := result.sequence } : Observation) =
        kept at hkept ⊢
  by_cases htimes : 0 < result.sequence ∧ result.sequence = o.snapshotRequestInflightSequence ∧
      0 < result.requestedMonotonic ∧ result.requestedMonotonic ≤ result.completedMonotonic ∧
      result.completedMonotonic ≤ now
  case neg =>
    have hpositive : 0 < result.sequence := by omega
    rw [if_pos htimes, if_neg fun h =>
      htimes ⟨hpositive, h.2.1, h.2.2.1, h.2.2.2.1, h.2.2.2.2.1⟩,
      equity_markUnhealthy, hkept]
  rw [if_neg (not_not_intro htimes)]
  by_cases hdeadline : policy.snapshotWorkerTimeoutSec <
      result.completedMonotonic - result.requestedMonotonic
  · rw [if_pos hdeadline, if_neg fun h => absurd hdeadline (not_lt.mpr h.2.2.2.2.2.1),
      equity_markUnhealthy, hkept]
  rw [if_neg hdeadline]
  by_cases hold : policy.exchangeMaxAgeSec < now - min now result.completedMonotonic
  · rw [if_pos hold, if_neg fun h => absurd hold (not_lt.mpr h.2.2.2.2.2.2),
      equity_markUnhealthy, hkept]
  obtain ⟨-, hexpected, hrequested, hcompleted, hnow⟩ := htimes
  rw [if_neg hold, if_pos ⟨not_le.mp hnew, hexpected, hrequested, hcompleted, hnow,
    not_lt.mp hdeadline, not_lt.mp hold⟩, equity_applyResult, hkept]

/-- **What `service` does to the baselines**: what the reading it applies does. -/
theorem equity_service (o : Observation) (now : ℚ) (force : Bool) (input : ServiceInput) :
    (o.service policy now force input).equity =
      match o.taken policy now force input with
      | none => o.equity
      | some reading => reading.equityAfter o.equity := by
  unfold service taken
  by_cases hworker : policy.hasWorker = true
  · rw [if_pos hworker, if_pos hworker]
    unfold serviceWorker
    dsimp only
    rw [equity_endWorker]
    cases input.result with
    | none => rfl
    | some result =>
      dsimp only
      rw [equity_takeResult]
      split <;> rfl
  · rw [if_neg hworker, if_neg hworker]
    by_cases hdue : force = true ∨ o.lastExchangePollAt ≤ 0 ∨
        policy.exchangePollIntervalSec ≤ now - o.lastExchangePollAt
    · rw [if_pos hdue, if_pos hdue]
      exact equity_applyResult _ _ _
    · rw [if_neg hdue, if_neg hdue]

end Observation

/-! ## What a call evaluates -/

namespace Core

variable (st : Settings) (policy : AccountPolicy)

/-- A service of the exchange evaluates these samples. -/
def Serves (c : Core) (now : ℚ) (force : Bool) (input : ServiceInput)
    (samples : List EquitySample) : Prop :=
  match c.observation.taken st.observation now force input with
  | none => samples = []
  | some reading => reading.Evaluates policy c.observation.equity samples

/-- The part of a step after the stop request evaluates these samples. -/
def RunEvaluates (c : Core) (now : ℚ) (input : StepInput) (samples : List EquitySample) : Prop :=
  c.Serves st policy now
    (c.control.quiesced ∧
      c.observation.riskSnapshotSequence ≤ c.control.quiesceSnapshotSequence)
    input.service samples

/-- A step evaluates these samples: a stop request looks at the account while it is quiesced, and
where it waits the step goes on. -/
def StepEvaluates (c : Core) (now : ℚ) (input : StepInput) (samples : List EquitySample) :
    Prop :=
  if c.control.stopRequested then
    ∃ early late, samples = early ++ late ∧
      (if c.control.quiesced then
        c.Serves st policy now
          (c.observation.riskSnapshotSequence ≤ c.control.quiesceSnapshotSequence)
          input.stopService early
      else early = []) ∧
      match c.completeStopRequest st now input with
      | (c, some none) => c.RunEvaluates st policy now input late
      | _ => late = []
  else c.RunEvaluates st policy now input samples

/-- The check of a rearm evaluates these samples. -/
def GateEvaluates (c : Core) (now : ℚ) (input : GateInput) (samples : List EquitySample) :
    Prop :=
  match c.control.rearmControlGate c.parentHeartbeatError (max 0 (now - c.lastParentHeartbeatAt))
      st.parentHeartbeatTimeoutSec with
  | .error _ => samples = []
  | .ok () => c.Serves st policy now true input.service samples

/-- **A call evaluates these samples**, in this order. -/
def CallEvaluates (c : Core) (samples : List EquitySample) : Call → Prop
  | .step now input => c.StepEvaluates st policy now input samples
  | .prepareRearm requestId _ now input _ =>
    if requestId = "" then samples = [] else c.GateEvaluates st policy now input samples
  | .commitRearm requestId token now input =>
    match c.control.validateRearmCommit requestId token now c.rearmProofBinding with
    | some (control, .ok ()) =>
      ({ c with control := control } : Core).GateEvaluates st policy now input samples
    | _ => samples = []
  | _ => samples = []

variable {st policy} {c : Core} {now : ℚ} {samples : List EquitySample}

theorem Serves.equity {force : Bool} {input : ServiceInput}
    (h : c.Serves st policy now force input samples) :
    (c.serviceExchangeRisk st now force input).observation.equity =
      c.observation.equity.trackAll policy samples := by
  unfold Serves at h
  unfold serviceExchangeRisk
  dsimp only
  rw [Observation.equity_service]
  cases htaken : c.observation.taken st.observation now force input with
  | none =>
    rw [htaken] at h
    rw [show samples = [] from h]
    rfl
  | some reading =>
    rw [htaken] at h
    exact Reading.Evaluates.equity h

/-! ## What leaves the baselines -/

variable (st) in
@[simp] theorem observation_persistDurableState (c : Core) (storage : Storage) (event : String)
    (force : Bool) :
    (c.persistDurableState st storage event force).1.observation = c.observation := by
  have hnowhere : (c.persistNowhere st).1.observation = c.observation := by
    unfold persistNowhere
    split <;> rfl
  unfold persistDurableState
  split
  · unfold persistFile
    split
    · rfl
    dsimp only
    split
    · rfl
    · split <;> rfl
    · rfl
  · exact hnowhere
  · split
    · unfold persistStore
      dsimp only
      split <;> rfl
    · exact hnowhere

variable (st) in
@[simp] theorem observation_persistControlTransition (c : Core) (storage : Storage)
    (event : String) (requirePath : Bool) :
    (c.persistControlTransition st storage event requirePath).1.observation = c.observation := by
  unfold persistControlTransition
  split
  · rfl
  · have h := observation_persistDurableState st c storage event true
    split <;> rename_i heq <;> rw [heq] at h <;> exact h

variable (st) in
@[simp] theorem observation_takeoverFromQuiesce (c : Core) (storage : Storage)
    (reason event : String) :
    (c.takeoverFromQuiesce st storage reason event).1.observation = c.observation := by
  unfold takeoverFromQuiesce
  dsimp only
  have h := observation_persistControlTransition st
    { c with control := c.control.beginTakeover st.control reason } storage event false
  split <;> rename_i heq <;> rw [heq] at h <;> exact h

variable (st) in
@[simp] theorem observation_enterQuiesced (c : Core) (storage : Storage) (reason event : String)
    (wallTime : ℚ) :
    (c.enterQuiesced st storage reason event wallTime).1.observation = c.observation := by
  unfold enterQuiesced
  dsimp only
  have h := observation_persistControlTransition st
    { c with
      control := c.control.beginQuiesced st.control reason c.observation.riskSnapshotSequence
        wallTime } storage event true
  split <;> rename_i heq <;> rw [heq] at h <;> exact h

variable (st) in
@[simp] theorem observation_captureAccountFlatProof (c : Core) (purpose : String) (barrier : ℚ)
    (input : ProofInput) :
    (c.captureAccountFlatProof st purpose barrier input).1.observation = c.observation := by
  unfold captureAccountFlatProof
  split
  · rfl
  · split <;> rfl

variable (st) in
@[simp] theorem observation_updateParentStaleState (c : Core) (healthy : Bool) (now : ℚ) :
    (c.updateParentStaleState st healthy now).observation = c.observation :=
  (decides_updateParentStaleState st c healthy now).observation

variable (st) in
theorem observation_stepActive (c : Core) (now : ℚ) (input : StepInput) :
    (c.stepActive st now input).1.observation = c.observation := by
  have hexit : ∀ (c : Core) (e : Evaluation) (reply : StepReply),
      (c.stepExit st input e reply).1.observation = c.observation := by
    intro c e reply
    unfold stepExit
    dsimp only
    split
    · rfl
    have h := observation_captureAccountFlatProof st c "ORPHAN_EXIT"
      (max c.parentStaleSince (max c.lastCancelAttemptAt c.lastFlattenAttemptAt))
      input.orphanProof
    split <;> rename_i heq <;> rw [heq] at h
    · exact h
    · exact h
    rename_i proved
    have h' := observation_persistDurableState st proved input.storage
      "account_wide_flat_proof" true
    split <;> rename_i heq' <;> rw [heq'] at h' <;> exact h'.trans h
  unfold stepActive
  dsimp only
  have h := observation_persistDurableState st (c.stepDecide st now input).1 input.storage
    "risk_state_transition" false
  rw [(decides_stepDecide st c now input).observation] at h
  split <;> rename_i heq <;> rw [heq] at h
  · exact h
  · exact (hexit _ _ _).trans h
  · exact (hexit _ _ _).trans h

/-! ## What a call does to the baselines -/

variable {input : StepInput} {reply : StepReply}

theorem RunEvaluates.equity (h : c.RunEvaluates st policy now input samples) :
    (c.stepRunning st now input).1.observation.equity =
      c.observation.equity.trackAll policy samples := by
  unfold RunEvaluates at h
  unfold stepRunning
  by_cases hquiesced : c.control.quiesced = true
  · rw [if_pos hquiesced]
    simp only [hquiesced, true_and] at h
    have hserved := h.equity
    unfold stepQuiesced
    dsimp only
    split
    · simp only [observation_updateParentStaleState]
      exact hserved
    rename_i hreason
    have htake := observation_takeoverFromQuiesce st
    split <;> rename_i heq <;> have h' := congrArg (fun x => x.1.observation.equity) heq
    · simp only [htake, observation_updateParentStaleState] at h'
      exact h'.symm.trans hserved
    · simp only [htake, observation_updateParentStaleState] at h'
      rw [observation_stepActive]
      exact h'.symm.trans hserved
  · rw [if_neg hquiesced]
    have hforce : decide (c.control.quiesced = true ∧
        c.observation.riskSnapshotSequence ≤ c.control.quiesceSnapshotSequence) = false := by
      simp [hquiesced]
    rw [hforce] at h
    rw [observation_stepActive]
    exact h.equity

variable (st) in
/-- The truth of a stop only serves the exchange. -/
theorem equity_stopTruth (c : Core) (now : ℚ) (input : StepInput) :
    (c.stopTruth st now input).1.observation.equity =
      if c.control.quiesced then
        (c.serviceExchangeRisk st now
          (c.observation.riskSnapshotSequence ≤ c.control.quiesceSnapshotSequence)
          input.stopService).observation.equity
      else c.observation.equity := by
  unfold stopTruth
  by_cases hquiesced : c.control.quiesced = true
  · rw [if_pos hquiesced, if_pos hquiesced]
    dsimp only
    split
    · rfl
    have h := congrArg Observation.equity (observation_captureAccountFlatProof st
      (c.serviceExchangeRisk st now (decide (c.observation.riskSnapshotSequence ≤
        c.control.quiesceSnapshotSequence)) input.stopService) "STOP" now input.stopProof)
    split <;> rename_i heq <;> rw [heq] at h <;> exact h
  · rw [if_neg hquiesced, if_neg hquiesced]

variable (st) in
/-- The rest of a stop leaves the baselines. -/
theorem equity_completeStopRequest (c : Core) (now : ℚ) (input : StepInput) :
    (c.completeStopRequest st now input).1.observation.equity =
      (c.stopTruth st now input).1.observation.equity := by
  unfold completeStopRequest
  dsimp only
  cases htruth : c.stopTruth st now input with
  | mk c' truth =>
    cases truth with
    | none => rfl
    | some truth =>
      dsimp only
      split
      · rfl
      · rename_i reason transition _
        have h := congrArg Observation.equity (observation_takeoverFromQuiesce st c'
          input.storage (orText transition reason) "supervisor_stop_guard_takeover")
        split <;> rename_i heq <;> rw [heq] at h <;> exact h
      · rename_i reason _
        have h := congrArg Observation.equity (observation_enterQuiesced st c' input.storage
          reason "supervisor_stop_quiesced" input.wallTime)
        split <;> rename_i heq <;> rw [heq] at h <;> exact h
      · unfold finishStop emergencyCancel
        dsimp only
        split <;> rfl
      · rfl

theorem StepEvaluates.equity (h : c.StepEvaluates st policy now input samples) :
    (c.step st now input).1.observation.equity =
      c.observation.equity.trackAll policy samples := by
  unfold StepEvaluates at h
  unfold step
  by_cases hstop : c.control.stopRequested = true
  case neg =>
    rw [if_neg hstop] at h ⊢
    exact h.equity
  rw [if_pos hstop] at h ⊢
  obtain ⟨early, late, rfl, hearly, hlate⟩ := h
  rw [EquityState.trackAll_append]
  have hstopped : (c.completeStopRequest st now input).1.observation.equity =
      c.observation.equity.trackAll policy early := by
    rw [equity_completeStopRequest, equity_stopTruth]
    split
    · rename_i hquiesced
      rw [if_pos hquiesced] at hearly
      exact hearly.equity
    · rename_i hquiesced
      rw [if_neg hquiesced] at hearly
      rw [hearly]
      rfl
  rw [← hstopped]
  cases hcomplete : c.completeStopRequest st now input with
  | mk c' result =>
    rw [hcomplete] at hlate
    match result, hlate with
    | none, hlate =>
      dsimp only at hlate ⊢
      rw [hlate]
      rfl
    | some none, hlate => exact RunEvaluates.equity hlate
    | some (some accepted), hlate =>
      dsimp only at hlate ⊢
      rw [hlate]
      rfl

theorem GateEvaluates.equity {input : GateInput}
    (h : c.GateEvaluates st policy now input samples) :
    (c.checkRearmSafety st now input).1.observation.equity =
      c.observation.equity.trackAll policy samples := by
  unfold GateEvaluates at h
  unfold checkRearmSafety
  cases hgate : c.control.rearmControlGate c.parentHeartbeatError
      (max 0 (now - c.lastParentHeartbeatAt)) st.parentHeartbeatTimeoutSec with
  | error reason =>
    rw [hgate] at h
    rw [show samples = [] from h]
    rfl
  | ok u =>
    rw [hgate] at h
    have hserved := Serves.equity h
    dsimp only
    have hproved := congrArg Observation.equity (observation_captureAccountFlatProof st
      (c.serviceExchangeRisk st now true input.service) "REARM" now input.proof)
    split <;> rename_i heq <;> rw [heq] at hproved <;> exact hproved.trans hserved

/-- **A call does to the baselines** what the samples it evaluates do. -/
theorem call_equity {call : Call} (h : c.CallEvaluates st policy samples call) :
    (c.call st call).1.observation.equity = c.observation.equity.trackAll policy samples := by
  cases call with
  | heartbeat sequence sent now =>
    rw [show samples = [] from h]
    unfold call receiveParentHeartbeat heartbeatError
    dsimp only [EquityState.trackAll, foldl_nil]
    split
    · rfl
    split
    · rfl
    split
    · rfl
    · rfl
    split
    · rfl
    · split
      · rfl
      · split <;> rfl
  | quiesce requestId reason wallTime storage =>
    rw [show samples = [] from h]
    unfold call requestQuiesce
    dsimp only [EquityState.trackAll, foldl_nil]
    split
    · rfl
    · have hkept := congrArg Observation.equity (observation_enterQuiesced st c storage
        (orText reason "operator_quiesce") "supervisor_quiesced" wallTime)
      split <;> rename_i heq <;> rw [heq] at hkept <;> exact hkept
  | resumeShutdown requestId reason storage =>
    rw [show samples = [] from h]
    unfold call requestShutdownResume
    dsimp only [EquityState.trackAll, foldl_nil]
    split
    · rfl
    · have hkept := congrArg Observation.equity (observation_takeoverFromQuiesce st c storage
        (orText reason "shutdown account truth drift") "supervisor_shutdown_guard_resumed")
      split <;> rename_i heq <;> rw [heq] at hkept <;> exact hkept
  | stop requestId cancelOrders =>
    rw [show samples = [] from h]
    rfl
  | prepareRearm requestId reason now input token =>
    unfold CallEvaluates at h
    unfold call prepareRearm
    dsimp only at h ⊢
    by_cases hrequest : requestId = ""
    · rw [if_pos hrequest] at h ⊢
      rw [h]
      rfl
    · rw [if_neg hrequest] at h ⊢
      have hchecked := GateEvaluates.equity h
      split <;> rename_i heq <;> rw [heq] at hchecked <;> exact hchecked
  | commitRearm requestId token now input =>
    unfold CallEvaluates at h
    unfold call commitRearm
    dsimp only at h ⊢
    cases hvalid : c.control.validateRearmCommit requestId token now c.rearmProofBinding with
    | none =>
      rw [hvalid] at h
      rw [show samples = [] from h]
      rfl
    | some validated =>
      obtain ⟨control, result⟩ := validated
      rw [hvalid] at h
      match result, h with
      | .error refusal, h =>
        rw [show samples = [] from h]
        rfl
      | .ok (), h =>
        have hchecked := GateEvaluates.equity h
        dsimp only
        split <;> rename_i heq <;> rw [heq] at hchecked
        · exact hchecked
        · exact hchecked
        rename_i checkpoint
        have hkept := congrArg Observation.equity (observation_persistDurableState st
          (checkpoint.beginRearmCommit st) input.storage "operator_rearm_committed" true)
        split <;> rename_i heq' <;> rw [heq'] at hkept <;> exact hkept.trans hchecked
  | abortRearm token =>
    rw [show samples = [] from h]
    unfold call abortRearm
    dsimp only [EquityState.trackAll, foldl_nil]
    split <;> rfl
  | step now input => exact StepEvaluates.equity h

/-! ## Restarts -/

variable (st) in
/-- **The baselines on disk are those in memory.**  The file holds the state of a sidecar with
these baselines, and can be read. -/
def Saved (c : Core) : Prop :=
  match st.backend with
  | .file =>
    ∃ writer event, c.disk.file = some (.record (some (filePayload st writer event))
        (st.checksum (filePayload st writer event))) ∧
      Readable st st writer ∧ c.observation.equity.Agrees writer.observation.equity
  | .store =>
    ∃ store, c.disk.store = some store ∧
      ∃ written : EquityState, store.head.payload.equity = written.stored ∧
        c.observation.equity.Agrees written
  | .nowhere => False

/-- **A start takes the baselines over** from a disk that has them. -/
theorem Saved.start (h : c.Saved st) {input : StartInput} {c' : Core}
    (hread : input.readError = none) (hstart : Core.start st c.disk input = .ok c') :
    c.observation.equity.Agrees c'.observation.equity := by
  unfold Saved at h
  cases hbackend : st.backend with
  | nowhere =>
    rw [hbackend] at h
    exact h.elim
  | file =>
    rw [hbackend] at h
    obtain ⟨writer, event, hfile, hreadable, hagrees⟩ := h
    obtain ⟨hloads, hasked⟩ := loadPayload_written event (rfl : st.checksum = st.checksum) writer
      (fresh st c.disk input.now) rfl rfl
    have hdisk : (fresh st c.disk input.now).disk.file = _ := hfile
    unfold Core.start at hstart
    simp only [hbackend] at hstart
    unfold loadFile at hstart
    simp only [hdisk, hread] at hstart
    unfold loadContent at hstart
    dsimp only at hstart
    have hok := hasked.mpr hreadable
    cases hloaded : (fresh st c.disk input.now).loadPayload st (filePayload st writer event)
        (st.checksum (filePayload st writer event)) with
    | mk loaded result =>
      rw [hloaded] at hstart hok
      obtain rfl : result = .ok () := hok
      cases hstart
      obtain ⟨-, -, deploymentId, hequity⟩ := hloads _ hloaded
      rw [hequity]
      exact hagrees.trans ⟨rfl, rfl, rfl, rfl, rfl, rfl, rfl⟩
  | store =>
    rw [hbackend] at h
    obtain ⟨store, hstore, hagrees⟩ := h
    unfold Core.start at hstart
    simp only [hbackend] at hstart
    obtain ⟨store', _, applied, hstore', -, happlied, rfl⟩ := openStateStore_eq_ok hstart
    have hsame : store' = store := Option.some.inj (hstore'.symm.trans hstore)
    subst hsame
    obtain ⟨_, _, _, equity, _, -, -, -, hequity, -, rfl⟩ :=
      applyStateStorePayload_eq_ok happlied
    obtain ⟨written, hwritten, hagrees⟩ := hagrees
    rw [hwritten, restoreEquity_stored] at hequity
    cases hequity
    exact hagrees.trans ⟨rfl, rfl, rfl, rfl, rfl, rfl, rfl⟩

/-- **What is persisted is saved.** -/
theorem saved_persist {storage : Storage} {event : String} {force : Bool} {c' : Core}
    (h : c.persistDurableState st storage event force = (c', some true))
    (hbackend : st.backend ≠ .nowhere)
    (hfile : st.backend = .file → Readable st st c ∧
      ¬ (force = false ∧ c.lastPersistedFingerprint = some (c.fingerprint st)))
    (hstore : st.backend = .store → c.disk.store.isSome = true) : c'.Saved st := by
  have hkept := observation_persistDurableState st c storage event force
  rw [h] at hkept
  have hagrees : c'.observation.equity.Agrees c.observation.equity := by
    rw [hkept]
    exact .refl _
  unfold Saved
  cases hkind : st.backend with
  | nowhere => exact absurd hkind hbackend
  | file =>
    obtain ⟨hreadable, hwrites⟩ := hfile hkind
    exact ⟨c, event, persistFile_written hkind hwrites h, hreadable, hagrees⟩
  | store =>
    rcases persistStore_written hkind h with ⟨hnone, -⟩ | ⟨store, hdisk, hwritten⟩
    · have hsome := hstore hkind
      rw [hnone] at hsome
      cases hsome
    · refine ⟨store, hdisk, ?_⟩
      rw [hwritten.payload]
      exact ⟨_, rfl, hagrees⟩

/-- **What is persisted is restored**: a start on the disk takes the baselines over. -/
theorem persisted_restored {storage : Storage} {event : String} {force : Bool} {c' c'' : Core}
    (h : c.persistDurableState st storage event force = (c', some true))
    (hbackend : st.backend ≠ .nowhere)
    (hfile : st.backend = .file → Readable st st c ∧
      ¬ (force = false ∧ c.lastPersistedFingerprint = some (c.fingerprint st)))
    (hstore : st.backend = .store → c.disk.store.isSome = true) {input : StartInput}
    (hread : input.readError = none) (hstart : Core.start st c'.disk input = .ok c'') :
    c.observation.equity.Agrees c''.observation.equity := by
  have hkept := observation_persistDurableState st c storage event force
  rw [h] at hkept
  have hagrees := (saved_persist h hbackend hfile hstore).start hread hstart
  rwa [hkept] at hagrees

/-- What is asked of a sidecar for what it writes to be read again. -/
structure Writes (st : Settings) (c : Core) : Prop where
  backend : st.backend ≠ .nowhere
  file : st.backend = .file → Readable st st c
  store : st.backend = .store → c.disk.store.isSome = true

/-- The end of a step is healthy only where the step was, and what was saved stays so. -/
theorem saved_stepExit {e : Evaluation} {reply' : StepReply}
    (hreply : (c.stepExit st input e reply).2 = some reply') (hhealthy : reply'.healthy = true) :
    reply.healthy = true ∧ (c.Saved st → c.Writes st →
      (c.stepExit st input e reply).1.Saved st) := by
  have hproof : ∀ (purpose : String) (barrier : ℚ), ∃ proof error,
      (c.captureAccountFlatProof st purpose barrier input.orphanProof).1 =
        { c with lastFlatProof := proof, lastFlatProofError := error } := by
    intro purpose barrier
    unfold captureAccountFlatProof
    split
    · exact ⟨_, _, rfl⟩
    · split <;> exact ⟨_, _, rfl⟩
  unfold stepExit at hreply ⊢
  dsimp only at hreply ⊢
  split at hreply
  · next hstays =>
    rw [if_pos hstays]
    cases hreply
    exact ⟨hhealthy, fun h _ => h⟩
  next hleaves =>
  rw [if_neg hleaves]
  generalize hcapture : c.captureAccountFlatProof st "ORPHAN_EXIT" _ input.orphanProof =
    captured at hreply ⊢
  obtain ⟨proof, error, hcaptured⟩ := hproof "ORPHAN_EXIT" _
  rw [hcapture] at hcaptured
  obtain ⟨proved, result⟩ := captured
  subst hcaptured
  rcases result with _ | (_ | _)
  · cases hreply
  · cases hreply
    exact ⟨hhealthy, fun h _ => h⟩
  dsimp only at hreply ⊢
  generalize hwritten : persistDurableState st _ input.storage "account_wide_flat_proof" true =
    written at hreply ⊢
  obtain ⟨saved, result⟩ := written
  rcases result with _ | (_ | _)
  · cases hreply
  · cases hreply
    cases hhealthy
  · cases hreply
    exact ⟨hhealthy, fun _ hwrites => saved_persist hwritten hwrites.backend
      (fun hkind => ⟨hwrites.file hkind, fun hskip => Bool.noConfusion hskip.1⟩) hwrites.store⟩

/-- A write that succeeds can be repeated. -/
theorem Writes.persist {storage : Storage} {event : String} {force : Bool} {c' : Core}
    (hwrites : c.Writes st)
    (h : c.persistDurableState st storage event force = (c', some true)) : c'.Writes st := by
  refine ⟨hwrites.backend, fun hkind => ?_, fun hkind => ?_⟩
  · unfold persistDurableState persistFile at h
    simp only [hkind] at h
    split at h
    · cases h
      exact hwrites.file hkind
    · split at h <;> cases h
      exact hwrites.file hkind
  · rcases persistStore_written hkind h with ⟨hnone, -⟩ | ⟨store, hdisk, -⟩
    · have hsome := hwrites.store hkind
      rw [hnone] at hsome
      cases hsome
    · rw [hdisk]
      rfl

/-- **A healthy step ends saved**: what it has evaluated is written, unless it is on disk. -/
theorem saved_stepActive {now : ℚ} (hwrites : (c.stepDecide st now input).1.Writes st)
    (hbefore : (c.stepDecide st now input).1.lastPersistedFingerprint =
      some ((c.stepDecide st now input).1.fingerprint st) →
      (c.stepDecide st now input).1.Saved st)
    (hreply : (c.stepActive st now input).2 = some reply) (hhealthy : reply.healthy = true) :
    (c.stepActive st now input).1.Saved st := by
  unfold stepActive at hreply ⊢
  dsimp only at hreply ⊢
  generalize (c.stepDecide st now input).1 = decided at hwrites hbefore hreply ⊢
  generalize hwritten : decided.persistDurableState st input.storage "risk_state_transition"
    false =
    written
    at hreply ⊢
  obtain ⟨saved, result⟩ := written
  rcases result with _ | (_ | _)
  · cases hreply
  · cases (saved_stepExit hreply hhealthy).1
  refine (saved_stepExit hreply hhealthy).2 ?_ (hwrites.persist hwritten)
  by_cases hskip : st.backend = .file ∧
      decided.lastPersistedFingerprint = some (decided.fingerprint st)
  · have hsame : saved = decided := by
      unfold persistDurableState persistFile at hwritten
      simp only [hskip.1, hskip.2, and_self, if_true] at hwritten
      exact (congrArg Prod.fst hwritten).symm
    rw [hsame]
    exact hbefore hskip.2
  · exact saved_persist hwritten hwrites.backend
      (fun hkind => ⟨hwrites.file hkind, fun h => hskip ⟨hkind, h.2⟩⟩) hwrites.store

/-- **A normal step that answers healthy ends saved**; it is neither quiesced nor asked to stop.
-/
theorem saved_step {now : ℚ} (hstop : c.control.stopRequested = false)
    (hquiesced : c.control.quiesced = false)
    (hwrites : ((c.serviceExchangeRisk st now false input.service).stepDecide st now
      input).1.Writes
      st)
    (hbefore : ∀ decided, decided =
      ((c.serviceExchangeRisk st now false input.service).stepDecide st now input).1 →
      decided.lastPersistedFingerprint = some (decided.fingerprint st) → decided.Saved st)
    (hreply : (c.step st now input).2 = some reply) (hhealthy : reply.healthy = true) :
    (c.step st now input).1.Saved st := by
  unfold step stepRunning at hreply ⊢
  rw [hstop, hquiesced] at hreply ⊢
  exact saved_stepActive hwrites (hbefore _ rfl) hreply hhealthy

end Core

/-! ## Runs with restarts -/

/-- **The runs from a sidecar**, with the samples they evaluate: calls, and restarts on the disk
as it is, where `keeps` holds. -/
inductive AccountRun (st : Settings) (policy : AccountPolicy) (keeps : Core → Prop) (c₀ : Core) :
    List EquitySample → Core → Prop
  | nil : AccountRun st policy keeps c₀ [] c₀
  | call {samples evaluated : List EquitySample} {c : Core}
      (h : AccountRun st policy keeps c₀ samples c) (call : Call)
      (hcall : c.CallEvaluates st policy evaluated call) :
      AccountRun st policy keeps c₀ (samples ++ evaluated) (c.call st call).1
  | restart {samples : List EquitySample} {c c' : Core}
      (h : AccountRun st policy keeps c₀ samples c) (hkeeps : keeps c) (input : Core.StartInput)
      (hread : input.readError = none) (hstart : Core.start st c.disk input = .ok c') :
      AccountRun st policy keeps c₀ samples c'

/-- **The baselines of a run** are those of its samples. -/
theorem AccountRun.agrees {c₀ c : Core} (h : AccountRun st policy (Core.Saved st) c₀ samples c) :
    (c₀.observation.equity.trackAll policy samples).Agrees c.observation.equity := by
  induction h with
  | nil => exact .refl _
  | call h call hcall ih =>
    rw [Core.call_equity hcall, EquityState.trackAll_append]
    exact ih.trackAll _
  | restart h hkeeps input hread hstart ih => exact ih.trans (hkeeps.start hread hstart)

/-- A run that goes on is a run. -/
theorem AccountRun.append {keeps : Core → Prop} {c₀ c c' : Core} {later : List EquitySample}
    (h : AccountRun st policy keeps c₀ samples c) (h' : AccountRun st policy keeps c later c') :
    AccountRun st policy keeps c₀ (samples ++ later) c' := by
  induction h' with
  | nil =>
    rw [append_nil]
    exact h
  | call h' call hcall ih =>
    rw [← append_assoc]
    exact .call ih call hcall
  | restart h' hkeeps input hread hstart ih => exact .restart ih hkeeps input hread hstart

/-- **The loss baselines.**  Of two moments of a run whose restarts find the baselines on disk,
and whose samples come in the order of their capture with positive equity: the start of the day
and its cash flows are those of the first sample of the day, the peak of a day that began in the
run does not fall, and the start of the deployment and its cash flows are those of the first
sample of all. So the losses of a further sample are measured from these. -/
theorem loss_baselines {st : Settings} {policy : AccountPolicy} {c₀ c₁ c₂ : Core}
    {before after : List EquitySample}
    (hbefore : AccountRun st policy (Core.Saved st) c₀ before c₁)
    (hafter : AccountRun st policy (Core.Saved st) c₁ after c₂)
    (hordered : (before ++ after).Pairwise fun a b => a.capturedAt ≤ b.capturedAt)
    (hpositive : ∀ s ∈ before ++ after, 0 < s.equity) :
    (∀ first,
      c₀.observation.equity.DayBegan (before ++ after) c₂.observation.equity.riskDay first →
        c₂.observation.equity.dayStartEquity = first.equity ∧
        c₂.observation.equity.dayStartExternalCashFlowTotal =
          first.dailyExternalCashFlowTotal) ∧
    (∀ first, c₀.observation.equity.DayBegan before c₁.observation.equity.riskDay first →
      c₂.observation.equity.riskDay = c₁.observation.equity.riskDay →
        c₁.observation.equity.peakAdjustedEquity ≤ c₂.observation.equity.peakAdjustedEquity) ∧
    (0 < policy.maxDeploymentLoss → c₀.observation.equity.deploymentStartEquity ≤ 0 →
      ∀ first, (before ++ after).head? = some first →
        c₂.observation.equity.deploymentStartEquity = first.equity ∧
        c₂.observation.equity.deploymentStartExternalCashFlowTotal =
          first.deploymentExternalCashFlowTotal) ∧
    (∀ last, (before ++ after).getLast? = some last →
      c₂.observation.equity.riskDay = last.riskDay) ∧
    ∀ s : EquitySample, (∀ x ∈ before ++ after, x.capturedAt ≤ s.capturedAt) → 0 < s.equity →
      let metrics := (c₂.observation.equity.trackEquity policy s).metrics s
      (∀ first, c₀.observation.equity.DayBegan (before ++ after ++ [s]) s.riskDay first →
        metrics.dailyLoss = max 0 (first.equity -
          (s.equity - (s.dailyExternalCashFlowTotal - first.dailyExternalCashFlowTotal)))) ∧
      (0 < policy.maxDeploymentLoss → c₀.observation.equity.deploymentStartEquity ≤ 0 →
        ∀ first, (before ++ after ++ [s]).head? = some first →
          metrics.deploymentLoss = max 0 (first.equity -
            (s.equity - (s.deploymentExternalCashFlowTotal -
              first.deploymentExternalCashFlowTotal)))) := by
  have h₁ := hbefore.agrees
  have h₂ := (hbefore.append hafter).agrees
  refine ⟨fun first hfirst => ?_, fun first hfirst hday => ?_,
    fun hlimit hnone first hfirst => ?_,
    fun last hlast => ?_, fun s hlatest hs => ?_⟩
  · rw [h₂.riskDay] at hfirst
    obtain ⟨-, hstart, hcash⟩ := hfirst.trackAll hordered hpositive
    exact ⟨h₂.dayStart.trans hstart, h₂.dayCashFlow.trans hcash⟩
  · rw [h₁.riskDay] at hfirst hday
    rw [h₂.riskDay] at hday
    rw [h₁.peak, h₂.peak]
    exact hfirst.peak hordered hpositive hday
  · have hpos := hpositive first (mem_of_mem_head? hfirst)
    obtain ⟨hstart, hcash⟩ := EquityState.deployment_first hlimit hnone hfirst hpos
    exact ⟨h₂.deploymentStart.trans hstart, h₂.deploymentCashFlow.trans hcash⟩
  · rw [h₂.riskDay]
    exact EquityState.riskDay_trackAll hlast
  · -- the further sample is one more sample of the run
    have hs₂ : (c₀.observation.equity.trackAll policy (before ++ after ++ [s])).Agrees
        (c₂.observation.equity.trackEquity policy s) := by
      rw [EquityState.trackAll_append]
      exact h₂.trackEquity
    have hpositive' : ∀ x ∈ before ++ after ++ [s], 0 < x.equity := by
      intro x hx
      rcases mem_append.mp hx with hx | hx
      · exact hpositive x hx
      · rw [mem_singleton.mp hx]
        exact hs
    have hordered' : (before ++ after ++ [s]).Pairwise fun a b =>
        a.capturedAt ≤ b.capturedAt := by
      refine pairwise_append.mpr ⟨hordered, pairwise_singleton _ _, fun x hx y hy => ?_⟩
      rw [mem_singleton.mp hy]
      exact hlatest x hx
    refine ⟨fun first hfirst => ?_, fun hlimit hnone first hfirst => ?_⟩
    · have hday : s.riskDay =
          (c₀.observation.equity.trackAll policy (before ++ after ++ [s])).riskDay :=
        (EquityState.riskDay_trackAll (by simp)).symm
      rw [hday] at hfirst
      obtain ⟨-, hstart, hcash⟩ := hfirst.trackAll hordered' hpositive'
      unfold EquityState.metrics EquityState.adjustedEquity
      rw [hs₂.dayStart, hs₂.dayCashFlow, hstart, hcash]
    · have hpos := hpositive' first (mem_of_mem_head? hfirst)
      obtain ⟨hstart, hcash⟩ := EquityState.deployment_first hlimit hnone hfirst hpos
      unfold EquityState.metrics
      dsimp only
      rw [EquityState.deploymentLoss_trackEquity _ _ _ hlimit, hs₂.deploymentStart,
        hs₂.deploymentCashFlow, hstart, hcash]

/-! ## Baselines that are lost -/

/-- A policy that limits the loss of a day and of the deployment. -/
def lossPolicy : AccountPolicy where
  dailyLossEnabled := true
  maxDailyLoss := 300
  maxDrawdownPct := 0
  dailyLossReduceOnlyFraction := 0
  maxDeployedCapital := 0
  maxDeploymentLoss := 300
  deploymentLossReduceOnlyFraction := 0

/-- A snapshot of an account without cash flows. -/
def lossSnapshot (equity capturedAt : ℚ) : EquitySnapshot where
  totalMarginBalance := .is equity
  dailyExternalCashFlowTotal := .is 0
  deploymentExternalCashFlowTotal := .is 0
  capturedAt := .is capturedAt

/-- A step that evaluates a snapshot, after the parent was heard. -/
def evaluatingStep (c : Core) (now equity capturedAt : ℚ) : Call :=
  .step now {
    service := {
      reading := .assessed ⟨.none, "", 0, 0⟩
        (lossPolicy.evaluateEquity (lossSnapshot equity capturedAt) c.observation.equity).1
        capturedAt } }

theorem samples_lossSnapshot {equity capturedAt : ℚ} {day : String} (hpositive : 0 < capturedAt)
    (h : Calendar.utcDate capturedAt = some day) :
    (lossPolicy.gate (lossSnapshot equity capturedAt)).samples =
      [⟨equity, 0, 0, capturedAt, day, h⟩] := by
  unfold AccountPolicy.gate lossSnapshot
  dsimp only
  rw [if_neg fun hoff => Bool.noConfusion hoff.1, if_neg (not_le.mpr hpositive),
    if_neg fun hcapital => lt_irrefl _ hcapital.1, if_neg fun hcapital => lt_irrefl _ hcapital.1]
  split
  · rename_i hnone
    rw [h] at hnone
    cases hnone
  · rename_i found hfound
    obtain rfl := Option.some.inj (hfound.symm.trans h)
    rfl

theorem evaluatingStep_evaluates {c : Core} {now equity capturedAt : ℚ}
    (hstop : c.control.stopRequested = false) (htaken : c.observation.taken st.observation now
      (c.control.quiesced ∧
        c.observation.riskSnapshotSequence ≤ c.control.quiesceSnapshotSequence)
      { reading := .assessed ⟨.none, "", 0, 0⟩
          (lossPolicy.evaluateEquity (lossSnapshot equity capturedAt) c.observation.equity).1
          capturedAt } =
        some (.assessed ⟨.none, "", 0, 0⟩
          (lossPolicy.evaluateEquity (lossSnapshot equity capturedAt) c.observation.equity).1
          capturedAt))
    {day : String} (hpositive : 0 < capturedAt) (hdate : Calendar.utcDate capturedAt =
      some day) :
    c.CallEvaluates st lossPolicy [⟨equity, 0, 0, capturedAt, day, hdate⟩]
      (evaluatingStep c now equity capturedAt) := by
  rw [← samples_lossSnapshot hpositive hdate]
  unfold Core.CallEvaluates evaluatingStep
  dsimp only
  unfold Core.StepEvaluates
  rw [hstop, if_neg Bool.noConfusion]
  unfold Core.RunEvaluates Core.Serves
  dsimp only
  rw [htaken]
  exact .evaluated _ _ _

/-- A sidecar with a state store. -/
def storedCore : Core :=
  Core.started storeSettings (.plain (.plain false .armed)) { now := 100 }

/-- It has evaluated a snapshot. -/
def storedDayCore : Core :=
  (storedCore.call storeSettings (evaluatingStep storedCore 101 1000 1000)).1

/-- It is restarted, and evaluates another one of the same day. -/
def storedAgainCore : Core :=
  Core.started storeSettings storedDayCore.disk { now := 102 }

theorem storedDayCore_saved : storedDayCore.Saved storeSettings := by
  have hstore : storedDayCore.disk.store =
      some (storedDayCore.disk.store.getD StateStore.latchedStore) := by
    decide +kernel
  have hwritten : (storedDayCore.disk.store.getD StateStore.latchedStore).head.payload.equity =
      storedDayCore.observation.equity.stored := by
    decide +kernel
  exact ⟨_, hstore, _, hwritten, ⟨rfl, rfl, rfl, rfl, rfl, rfl, rfl⟩⟩

theorem persisted_restored_storedDayCore :
    let saved := (storedDayCore.persistDurableState storeSettings {} "" true).1
    storedDayCore.observation.equity.Agrees
      (Core.started storeSettings saved.disk { now := 102 }).observation.equity :=
  Core.persisted_restored (Prod.ext rfl (by decide +kernel)) (by decide) (fun h => by cases h)
    (fun _ => by decide +kernel) rfl (Core.start_eq_started (by decide +kernel))

/-- The result for a restart within a day. -/
theorem loss_baselines_restarted :
    let last :=
      (storedAgainCore.call storeSettings (evaluatingStep storedAgainCore 103 900 2000)).1
    last.observation.equity.dayStartEquity = 1000 ∧
      storedDayCore.observation.equity.peakAdjustedEquity ≤
        last.observation.equity.peakAdjustedEquity := by
  have hbefore : AccountRun storeSettings lossPolicy (Core.Saved storeSettings) storedCore
      ([] ++ [⟨1000, 0, 0, 1000, "1970-01-01", by decide +kernel⟩]) storedDayCore :=
    .call .nil (evaluatingStep storedCore 101 1000 1000)
      (evaluatingStep_evaluates (by decide +kernel) (by decide +kernel) (by norm_num) _)
  have hrestarted : AccountRun storeSettings lossPolicy (Core.Saved storeSettings) storedDayCore
      []
      storedAgainCore :=
    .restart .nil storedDayCore_saved { now := 102 } rfl
      (Core.start_eq_started (by decide +kernel))
  have hafter : AccountRun storeSettings lossPolicy (Core.Saved storeSettings) storedDayCore
      ([] ++ [⟨900, 0, 0, 2000, "1970-01-01", by decide +kernel⟩])
      (storedAgainCore.call storeSettings (evaluatingStep storedAgainCore 103 900 2000)).1 :=
    .call hrestarted (evaluatingStep storedAgainCore 103 900 2000)
      (evaluatingStep_evaluates (by decide +kernel) (by decide +kernel) (by norm_num) _)
  obtain ⟨hstart, hpeak, -⟩ := loss_baselines hbefore hafter
    (by simp only [nil_append, singleton_append, pairwise_cons]; norm_num)
    (by simp)
  have hday : storedDayCore.observation.equity.riskDay = "1970-01-01" := by decide +kernel
  have hlast : (storedAgainCore.call storeSettings
      (evaluatingStep storedAgainCore 103 900 2000)).1.observation.equity.riskDay =
        "1970-01-01" := by
    decide +kernel
  have hbegins : storedCore.observation.equity.Begins
      ⟨1000, 0, 0, 1000, "1970-01-01", by decide +kernel⟩ :=
    .inl (by decide +kernel)
  rw [hlast] at hstart
  rw [hday, hlast] at hpeak
  exact ⟨(hstart _ ⟨rfl, hbegins⟩).1, hpeak _ ⟨rfl, hbegins⟩ rfl⟩

/-- Settings with a state file. -/
def lossSettings : Settings := Settings.plain .file 1 Nat.one_pos

/-- A sidecar without a state. -/
def firstCore : Core := Core.started lossSettings {} { now := 100 }

/-- It has evaluated its first snapshot, with an equity of a thousand. -/
def firstDayCore : Core :=
  (firstCore.call lossSettings (evaluatingStep firstCore 101 1000 1000)).1

/-- It is quiesced. -/
def quiescedCore : Core :=
  (firstDayCore.call lossSettings (.quiesce "1" "" 1000 {})).1

/-- On the next day it evaluates an equity of nine hundred. -/
def secondDayCore : Core :=
  (quiescedCore.call lossSettings (evaluatingStep quiescedCore 102 900 90000)).1

/-- It is restarted. -/
def nextDayCore : Core := Core.started lossSettings secondDayCore.disk { now := 103 }

/-- It evaluates an equity of five hundred. -/
def lostCore : Core :=
  (nextDayCore.call lossSettings (evaluatingStep nextDayCore 104 500 90010)).1

/-- The samples of this run. -/
def lostSamples : List EquitySample :=
  [⟨1000, 0, 0, 1000, "1970-01-01", by decide +kernel⟩,
   ⟨900, 0, 0, 90000, "1970-01-02", by decide +kernel⟩,
   ⟨500, 0, 0, 90010, "1970-01-02", by decide +kernel⟩]

theorem lostCore_run :
    AccountRun lossSettings lossPolicy (fun _ => True) firstCore lostSamples lostCore := by
  have hfirst : AccountRun lossSettings lossPolicy (fun _ => True) firstCore _ firstDayCore :=
    .call .nil (evaluatingStep firstCore 101 1000 1000)
      (evaluatingStep_evaluates (by decide +kernel) (by decide +kernel) (by norm_num)
        (by decide +kernel : Calendar.utcDate 1000 = some "1970-01-01"))
  have hquiesced : AccountRun lossSettings lossPolicy (fun _ => True) firstCore _ quiescedCore :=
    .call hfirst (.quiesce "1" "" 1000 {}) rfl
  have hsecond : AccountRun lossSettings lossPolicy (fun _ => True) firstCore _ secondDayCore :=
    .call hquiesced (evaluatingStep quiescedCore 102 900 90000)
      (evaluatingStep_evaluates (by decide +kernel) (by decide +kernel) (by norm_num)
        (by decide +kernel : Calendar.utcDate 90000 = some "1970-01-02"))
  have hrestarted : AccountRun lossSettings lossPolicy (fun _ => True) firstCore _ nextDayCore :=
    .restart hsecond trivial { now := 103 } rfl (Core.start_eq_started (by decide +kernel))
  exact .call hrestarted (evaluatingStep nextDayCore 104 500 90010)
    (evaluatingStep_evaluates (by decide +kernel) (by decide +kernel) (by norm_num)
      (by decide +kernel : Calendar.utcDate 90010 = some "1970-01-02"))

/-- **A baseline that is lost.**  The day began with nine hundred, evaluated while quiesced, and
after the restart its losses are measured from five hundred. -/
theorem baselines_lost :
    ∃ first, AccountRun lossSettings lossPolicy (fun _ => True) firstCore lostSamples lostCore ∧
      (lostSamples.Pairwise fun a b => a.capturedAt ≤ b.capturedAt) ∧
      (∀ s ∈ lostSamples, 0 < s.equity) ∧
      firstCore.observation.equity.DayBegan lostSamples lostCore.observation.equity.riskDay
        first ∧
      first.equity = 900 ∧ lostCore.observation.equity.dayStartEquity = 500 := by
  refine ⟨⟨900, 0, 0, 90000, "1970-01-02", by decide +kernel⟩, lostCore_run, ?_, ?_, ⟨?_, ?_⟩,
    rfl,
    by decide +kernel⟩
  · unfold lostSamples
    simp only [pairwise_cons, mem_cons, not_mem_nil, or_false]
    norm_num
  · unfold lostSamples
    simp only [mem_cons, not_mem_nil, or_false]
    rintro s (rfl | rfl | rfl) <;> norm_num
  · have hday : lostCore.observation.equity.riskDay = "1970-01-02" := by decide +kernel
    rw [hday]
    rfl
  · exact .inl (by decide +kernel)

end ChronosHFT.Sidecar
