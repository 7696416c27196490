import ChronosHFT.Sidecar.DurableState

/-!
# The sidecar's calls

The methods of `RiskSidecarCore` that the sidecar process calls: the parent's heartbeats, the
control commands and `step`.  Every call takes what it meets of the outside as an input: the
exchange, the funding guard, the clocks, the tokens and the disk.

A call ends with a value or with an exception that escapes, and in both cases with the state it
left behind: `none` is the exception.
-/

namespace ChronosHFT.Sidecar

/-- The action and the reason of the funding guard. -/
structure Funding where
  action : RiskAction := .none
  reason : String := ""
  deriving DecidableEq, Repr

/-- What the rearm gate meets. -/
structure GateInput where
  service : ServiceInput := {}
  funding : Funding := {}
  proof : ProofInput := {}
  storage : Storage := {}

/-- What a step meets.  `stop…` is for a pending stop request, and `flatten` is `none` where the
exchange cannot flatten. -/
structure StepInput where
  stopService : ServiceInput := {}
  stopProof : ProofInput := {}
  service : ServiceInput := {}
  funding : Funding := {}
  wallTime : ℚ := 0
  cancel : Bool × String := (true, "")
  flatten : Option (Bool × ℕ × String) := none
  orphanProof : ProofInput := {}
  storage : Storage := {}

/-- The result of a step: what the status says of it, and whether the process keeps running. -/
structure StepReply where
  healthy : Bool
  reason : String
  action : RiskAction
  keepRunning : Bool
  deriving DecidableEq, Repr

namespace Core

variable (st : Settings)

/-! ## Heartbeats -/

/-- A heartbeat that is refused with an error. -/
def heartbeatError (c : Core) (error : String) : Core × Bool :=
  ({ c with parentHeartbeatError := error }, false)

/-- `receive_parent_heartbeat`; a sequence that is no integer is `none`. -/
def receiveParentHeartbeat (c : Core) (sequence : Option ℤ) (sent : RawFloat) (now : ℚ) :
    Core × Bool :=
  match sequence with
  | none => c.heartbeatError "parent_heartbeat_sequence_invalid"
  | some sequence =>
    if sequence ≤ c.lastParentSequence then (c, false)
    else
      let c := { c with lastParentSequence := sequence }
      match sent with
      | .invalid => c.heartbeatError "parent_heartbeat_timestamp_invalid"
      | .nonFinite => c.heartbeatError "parent_heartbeat_timestamp_invalid"
      | .is sent =>
        if sent ≤ 0 then c.heartbeatError "parent_heartbeat_timestamp_invalid"
        else if now < sent then c.heartbeatError "parent_heartbeat_timestamp_future"
        else if st.parentHeartbeatTimeoutSec < now - min now sent then
          c.heartbeatError "parent_heartbeat_timestamp_stale"
        else
          ({ c with
              lastParentHeartbeatAt := min now sent
              lastParentHeartbeatSentMonotonic := sent
              lastParentHeartbeatReceivedAt := now
              parentHeartbeatError := "" }, true)

/-- Whether the parent is found healthy. -/
def parentHealthy (c : Core) (now : ℚ) : Bool :=
  c.parentHeartbeatError = "" ∧ max 0 (now - c.lastParentHeartbeatAt) ≤
    st.parentHeartbeatTimeoutSec

/-- `_update_parent_stale_state`. -/
def updateParentStaleState (c : Core) (parentHealthy : Bool) (now : ℚ) : Core :=
  if parentHealthy then { c with parentStaleSince := 0, parentStaleSnapshotSequence := 0 }
  else if c.parentStaleSince ≤ 0 then
    { c with
      parentStaleSince := now
      parentStaleSnapshotSequence := c.observation.riskSnapshotSequence
      control := c.control.resetFlatVerification st.control }
  else c

/-! ## The exchange -/

/-- `_service_exchange_risk`. -/
def serviceExchangeRisk (c : Core) (now : ℚ) (force : Bool) (input : ServiceInput) : Core :=
  { c with observation := c.observation.service st.observation now force input }

/-- `_bump_safety_epoch`. -/
def bumpSafetyEpoch (c : Core) : Core :=
  { c with
    pendingSafetyEpoch := max c.pendingSafetyEpoch (c.stateVersion.safetyEpoch + 1)
    lastFlatProof := none }

/-- `_effective_state_version`. -/
def effectiveStateVersion (c : Core) : StateVersion :=
  if c.pendingSafetyEpoch ≤ c.stateVersion.safetyEpoch then c.stateVersion
  else { c.stateVersion with safetyEpoch := c.pendingSafetyEpoch }

/-- `_capture_account_flat_proof`; `none` when an exception escapes. -/
def captureAccountFlatProof (c : Core) (purpose : String) (barrier : ℚ) (input : ProofInput) :
    Core × Option Bool :=
  match st.proof with
  | none => (c, some true)
  | some policy =>
    match policy.capture purpose c.observation.equity.deploymentId c.effectiveStateVersion
      barrier
        input with
    | .error .raised => (c, none)
    | .error (.refused reason) =>
      ({ c with lastFlatProof := none, lastFlatProofError := reason }, some false)
    | .ok proof => ({ c with lastFlatProof := some proof, lastFlatProofError := "" }, some true)

/-- `_emergency_cancel`; an exception of the exchange is a failure. -/
def emergencyCancel (c : Core) (now : ℚ) (result : Bool × String) : Core × Bool :=
  if c.control.quiesced then ({ c with lastCancelReason := "supervisor_quiesced" }, false)
  else
    ({ c.bumpSafetyEpoch with
        lastCancelAttemptAt := now
        lastCancelOk := some result.1
        lastCancelReason := result.2 }, result.1)

/-- `_emergency_flatten`. -/
def emergencyFlatten (c : Core) (now : ℚ) (result : Option (Bool × ℕ × String)) : Core × Bool :=
  if c.control.quiesced then ({ c with lastFlattenReason := "supervisor_quiesced" }, false)
  else
    let (ok, submitted, reason) := result.getD (false, 0, "flatten_method_unavailable")
    ({ c.bumpSafetyEpoch with
        lastFlattenAttemptAt := now
        lastFlattenOk := some ok
        lastFlattenCount := submitted
        lastFlattenReason := reason }, ok)

/-! ## Control transitions -/

/-- `_apply_control_effects`, with both resets. -/
def resetRetries (c : Core) : Core :=
  { c with lastCancelAttemptAt := 0, lastFlattenAttemptAt := 0 }

/-- `_persist_control_transition`; a transition that requires a path is refused without one, and
the state store has none. -/
def persistControlTransition (c : Core) (storage : Storage) (event : String)
    (requirePath : Bool) :
    Core × Option (Bool × String) :=
  if requirePath ∧ st.backend ≠ .file then
    (({ c with statePersistError := "quiesce_state_path_missing" } : Core).failClosed
      "quiesce_state_path_missing", some (false, "quiesce_state_path_missing"))
  else
    match c.persistDurableState st storage event true with
    | (c, none) => (c, none)
    | (c, some persisted) => (c, some (persisted, c.statePersistError))

/-- `_enter_quiesced`, with the error of persisting. -/
def enterQuiesced (c : Core) (storage : Storage) (reason event : String) (wallTime : ℚ) :
    Core × Option (Bool × String) :=
  let c := { c with
    control := c.control.beginQuiesced st.control reason c.observation.riskSnapshotSequence
      wallTime }
  match c.persistControlTransition st storage event true with
  | (c, none) => (c, none)
  | (c, some (true, _)) => (c, some (true, ""))
  | (c, some (false, error)) =>
    let c := { c with control := c.control.quiesceFailed st.control error }
    (c.resetRetries, some (false, c.control.killReason))

/-- `request_quiesce`. -/
def requestQuiesce (c : Core) (requestId reason : String) (wallTime : ℚ) (storage : Storage) :
    Core × Option (Bool × String) :=
  if requestId = "" then
    ({ c with control := c.control.recordQuiesce requestId false "request_id_missing" false },
      some (false, "request_id_missing"))
  else
    match c.enterQuiesced st storage (orText reason "operator_quiesce") "supervisor_quiesced"
        wallTime with
    | (c, none) => (c, none)
    | (c, some (persisted, error)) =>
      let result :=
        if persisted then "supervisor_quiesced" else orText error "quiesce_state_persist_failed"
      ({ c with control := c.control.recordQuiesce requestId persisted result persisted },
        some (persisted, result))

/-- `_takeover_from_quiesce`, with the error of persisting. -/
def takeoverFromQuiesce (c : Core) (storage : Storage) (reason event : String) :
    Core × Option (Bool × String) :=
  let c := { c with control := c.control.beginTakeover st.control reason }
  match c.persistControlTransition st storage event false with
  | (c, none) => (c, none)
  | (c, some result) => (c.resetRetries, some result)

/-- `request_shutdown_resume`. -/
def requestShutdownResume (c : Core) (requestId reason : String) (storage : Storage) :
    Core × Option (Bool × String) :=
  if requestId = "" then
    ({ c with control := c.control.recordShutdownResume requestId false "request_id_missing"
                false
                },
      some (false, "request_id_missing"))
  else
    match c.takeoverFromQuiesce st storage (orText reason "shutdown account truth drift")
        "supervisor_shutdown_guard_resumed" with
    | (c, none) => (c, none)
    | (c, some (persisted, error)) =>
      let result :=
        if persisted then "supervisor_shutdown_guard_resumed"
        else orText error "shutdown_resume_state_persist_failed"
      ({ c with control := c.control.recordShutdownResume requestId persisted result persisted },
        some (persisted, result))

/-! ## Stopping -/

/-- What a stop request goes by: whether the account is known, its orders and positions and the
sequence of the proof. -/
structure StopTruth where
  exchangeValid : Bool
  openOrderCount : ℕ
  nonzeroPositionCount : ℕ
  sequence : ℕ
  deriving DecidableEq, Repr

/-- The first part of `_complete_stop_request`: the truth of the account, which is only looked at
while quiesced. -/
def stopTruth (c : Core) (now : ℚ) (input : StepInput) : Core × Option StopTruth :=
  if c.control.quiesced then
    let c := c.serviceExchangeRisk st now
      (c.observation.riskSnapshotSequence ≤ c.control.quiesceSnapshotSequence) input.stopService
    match st.proof with
    | none =>
      (c, some {
        exchangeValid := c.observation.snapshotValid st.observation now
        openOrderCount := c.observation.openOrderCount
        nonzeroPositionCount := c.observation.nonzeroPositionCount
        sequence := c.observation.riskSnapshotSequence })
    | some _ =>
      match c.captureAccountFlatProof st "STOP" now input.stopProof with
      | (c, none) => (c, none)
      | (c, some true) =>
        (c, some {
          exchangeValid := true
          openOrderCount := 0
          nonzeroPositionCount := 0
          sequence :=
            max c.observation.riskSnapshotSequence (c.control.quiesceSnapshotSequence + 1) })
      | (c, some false) =>
        ({ c with
            observation := { c.observation with
              exchangeReason := orText c.lastFlatProofError "account_wide_flat_proof_failed" } },
          some {
            exchangeValid := false
            openOrderCount := 0
            nonzeroPositionCount := 0
            sequence := c.observation.riskSnapshotSequence })
  else
    (c, some {
      exchangeValid := false
      openOrderCount := 0
      nonzeroPositionCount := 0
      sequence := c.observation.riskSnapshotSequence })

/-- The end of `_complete_stop_request`. -/
def finishStop (c : Core) (accepted : Bool) (reason : String)
    (cancelRequested cancelAttempted : Bool)
    (cancelOk : Option Bool) : Core × Option (Option Bool) :=
  ({ c with
      control := c.control.finishStop accepted reason cancelRequested cancelAttempted cancelOk },
    some (some accepted))

/-- `_complete_stop_request`: whether the stop is accepted, or nothing while it waits. -/
def completeStopRequest (c : Core) (now : ℚ) (input : StepInput) : Core × Option (Option Bool) :=
  let cancelRequested := c.control.cancelOnStop
  match c.stopTruth st now input with
  | (c, none) => (c, none)
  | (c, some truth) =>
    match c.control.stopPlan truth.exchangeValid c.observation.exchangeReason
        truth.openOrderCount truth.nonzeroPositionCount truth.sequence with
    | .wait => (c, some none)
    | .takeover reason transitionReason =>
      match c.takeoverFromQuiesce st input.storage (orText transitionReason reason)
          "supervisor_stop_guard_takeover" with
      | (c, none) => (c, none)
      | (c, some _) => c.finishStop false reason cancelRequested false none
    | .quiesce reason =>
      match c.enterQuiesced st input.storage reason "supervisor_stop_quiesced"
          input.wallTime with
      | (c, none) => (c, none)
      | (c, some (true, _)) =>
        c.finishStop true "supervisor_stop_ack" cancelRequested false
          (if cancelRequested then some true else none)
      | (c, some (false, _)) =>
        c.finishStop false
          (orText c.statePersistError "stop_quiesce_state_persist_failed") cancelRequested
          false (if cancelRequested then some true else none)
    | .cancel =>
      let (c, ok) := c.emergencyCancel now input.cancel
      c.finishStop false
        (if ok then "stop_after_cancel_requires_fresh_quiesce"
          else orText c.lastCancelReason "stop_cancel_failed") cancelRequested true (some ok)
    | .reject reason => c.finishStop false reason cancelRequested false none

/-! ## Rearming -/

/-- Whether the snapshot is new enough to rearm, and what to say if it is not. -/
def snapshotFresh (c : Core) (now : ℚ) : Bool × String :=
  if st.observation.hasWorker then
    (0 < c.observation.lastExchangeSuccessAt ∧
      now - c.observation.lastExchangeSuccessAt ≤ st.rearmSnapshotMaxAgeSec,
      "exchange_snapshot_refresh_pending")
  else (c.observation.lastExchangeSuccessAt = now, "exchange_snapshot_failed")

/-- `_check_rearm_safety`; `none` when an exception escapes. -/
def checkRearmSafety (c : Core) (now : ℚ) (input : GateInput) :
    Core × Option (Except String Unit) :=
  match c.control.rearmControlGate c.parentHeartbeatError (max 0 (now - c.lastParentHeartbeatAt))
      st.parentHeartbeatTimeoutSec with
  | .error reason => (c, some (.error reason))
  | .ok () =>
    let c := c.serviceExchangeRisk st now true input.service
    let (fresh, pending) := c.snapshotFresh st now
    match c.captureAccountFlatProof st "REARM" now input.proof with
    | (c, none) => (c, none)
    | (c, some false) =>
      (c, some (.error (orText c.lastFlatProofError "account_wide_flat_proof_failed")))
    | (c, some true) =>
      (c, some (c.control.rearmTruthGate c.observation.exchangeHealthy
        c.observation.exchangeReason fresh pending c.observation.riskAction
        c.observation.riskReason input.funding.action input.funding.reason
        (if st.proof.isSome then 0 else c.observation.openOrderCount)
        (if st.proof.isSome then 0 else c.observation.nonzeroPositionCount)))

/-- `_rearm_proof_binding`. -/
def rearmProofBinding (c : Core) : Option ProofBinding :=
  c.lastFlatProof.map fun proof =>
    { version := c.effectiveStateVersion
      proofId := proof.proofId
      lastTruthSequence := proof.lastTruthSequence
      snapshotDigest := proof.snapshotDigest }

/-- `prepare_rearm`. -/
def prepareRearm (c : Core) (requestId reason : String) (now : ℚ) (input : GateInput)
    (token : String) : Core × Option (Except String String) :=
  let checked :=
    if requestId = "" then (c, some (.error "request_id_missing"))
    else c.checkRearmSafety st now input
  match checked with
  | (c, none) => (c, none)
  | (c, some safety) =>
    let (control, result) := c.control.prepareRearm st.control requestId reason now safety
      c.rearmProofBinding token
    ({ c with control := control }, some result)

/-- The unlatched state that `commit_rearm` persists. -/
def beginRearmCommit (c : Core) : Core :=
  { c with
    control := c.control.beginRearmCommit st.control
    observation := { c.observation with riskAction := .none, riskReason := "" } }

/-- `commit_rearm`. -/
def commitRearm (c : Core) (requestId token : String) (now : ℚ) (input : GateInput) :
    Core × Option (Except String Unit) :=
  match c.control.validateRearmCommit requestId token now c.rearmProofBinding with
  | none => (c, none)
  | some (control, .error refusal) => ({ c with control := control }, some (.error refusal))
  | some (control, .ok ()) =>
    match ({ c with control := control } : Core).checkRearmSafety st now input with
    | (c, none) => (c, none)
    | (c, some (.error refusal)) =>
      let (control, result) := c.control.rejectRearmCommit requestId refusal
      ({ c with control := control }, some result)
    | (checkpoint, some (.ok ())) =>
      match (checkpoint.beginRearmCommit st).persistDurableState st input.storage
          "operator_rearm_committed" true with
      | (c, none) => (c, none)
      | (c, some false) =>
        let (control, result) := c.control.finishRearmCommit st.control requestId false
          (orText c.statePersistError "state_persist_failed") checkpoint.control
        ({ c with
            control := control
            observation := { c.observation with
              riskAction := checkpoint.observation.riskAction
              riskReason := checkpoint.observation.riskReason } }, some result)
      | (c, some true) =>
        let (control, result) := c.control.finishRearmCommit st.control requestId true
          "rearm_committed" checkpoint.control
        ({ c with control := control, stateLoadError := "" }, some result)

/-- `abort_rearm`. -/
def abortRearm (c : Core) (token : String) : Core × Option Bool :=
  match c.control.abortRearm token with
  | none => (c, none)
  | some (control, aborted) => ({ c with control := control }, some aborted)

/-! ## Steps -/

/-- What the evaluation of a step asks for, and why. -/
def riskDecision (c : Core) (funding : Funding) (parentHealthy exchangeValid : Bool) (now : ℚ) :
    RiskAction × String :=
  let o := c.observation
  let action :=
    if exchangeValid ∨ o.riskAction = .kill then o.riskAction else .reduceOnly
  let action := if action = .none ∧ funding.action ≠ .none then funding.action else action
  if parentHealthy = false then
    if action = .kill then (.kill, orText o.riskReason "independent_hard_risk_breach")
    else if st.control.flattenEnabled ∧
        st.parentLossFlattenDelaySec ≤ max 0 (now - c.parentStaleSince) then
      (.kill, "parent_heartbeat_stale_flatten")
    else (.reduceOnly, orText c.parentHeartbeatError "parent_heartbeat_stale")
  else if exchangeValid = false then
    (action, orText (if action = .kill then o.riskReason else o.exchangeReason)
      "exchange_health_stale")
  else if action ≠ .none then
    (action, orText (if o.riskAction ≠ .none then o.riskReason else funding.reason)
      "independent_risk_breach")
  else (.none, "")

/-- The latch of a step, and the action and reason it goes on with. -/
def latchDecision (c : Core) (decision : RiskAction × String) : Core × RiskAction × String :=
  let c :=
    if decision.1 = .kill ∧ c.control.killLatched = false then
      { c with
        control := c.control.latchKill st.control
          (orText decision.2 (orText c.observation.riskReason "independent_hard_risk_breach")) }
    else c
  if c.control.killLatched then
    (c, .kill, orText c.control.killReason "independent_hard_risk_breach")
  else (c, decision)

/-- The evaluation a step shows to the stage machine. -/
def evaluation (c : Core) (now : ℚ) : Evaluation where
  now := now
  parentHealthy := c.parentHealthy st now
  exchangeValid := c.observation.snapshotValid st.observation now
  openOrderCount := c.observation.openOrderCount
  nonzeroPositionCount := c.observation.nonzeroPositionCount
  sequence := c.observation.riskSnapshotSequence

/-- The first part of an active step, up to the emergency actions: the core, what it was shown,
and the action and the reason of the step. -/
def stepDecide (c : Core) (now : ℚ) (input : StepInput) :
    Core × Evaluation × RiskAction × String :=
  let e := c.evaluation st now
  let c := c.updateParentStaleState st e.parentHealthy now
  let (c, action, reason) := c.latchDecision st
    (c.riskDecision st input.funding e.parentHealthy e.exchangeValid now)
  let (control, actions) := c.control.advanceRiskStage st.control
    (e.parentHealthy ∧ e.exchangeValid ∧ action = .none) action e c.parentStaleSnapshotSequence
    c.lastCancelAttemptAt c.lastFlattenAttemptAt
  let c := { c with control := control }
  let c := if actions.cancel then (c.emergencyCancel now input.cancel).1 else c
  let c := if actions.flatten then (c.emergencyFlatten now input.flatten).1 else c
  (c, e, action, reason)

/-- The end of an active step: an orphan leaves when the account is proved flat. -/
def stepExit (c : Core) (input : StepInput) (e : Evaluation) (reply : StepReply) :
    Core × Option StepReply :=
  let keepRunning := c.control.shouldKeepRunning st.control e c.parentStaleSince st.orphanExitSec
    c.parentStaleSnapshotSequence
  if keepRunning ∨ st.proof.isNone then (c, some { reply with keepRunning := keepRunning })
  else
    match c.captureAccountFlatProof st "ORPHAN_EXIT"
        (max c.parentStaleSince (max c.lastCancelAttemptAt c.lastFlattenAttemptAt))
        input.orphanProof with
    | (c, none) => (c, none)
    | (c, some false) =>
      ({ c with
          control := { c.control.resetFlatVerification st.control with stage := .flattening } },
        some { reply with
          keepRunning := true
          reason := orText c.lastFlatProofError "account_wide_flat_proof_failed" })
    | (c, some true) =>
      match c.persistDurableState st input.storage "account_wide_flat_proof" true with
      | (c, none) => (c, none)
      | (c, some true) => (c, some { reply with keepRunning := false })
      | (c, some false) =>
        (c, some {
          healthy := false
          action := .kill
          reason := orText c.statePersistError "state_persist_failed"
          keepRunning := true })

/-- An active step, after the exchange was serviced. -/
def stepActive (c : Core) (now : ℚ) (input : StepInput) : Core × Option StepReply :=
  let (c, e, action, reason) := c.stepDecide st now input
  match c.persistDurableState st input.storage "risk_state_transition" false with
  | (c, none) => (c, none)
  | (c, some true) =>
    c.stepExit st input e {
      healthy := e.parentHealthy ∧ e.exchangeValid ∧ action = .none
      action := action
      reason := reason
      keepRunning := true }
  | (c, some false) =>
    c.stepExit st input e {
      healthy := false
      action := .kill
      reason := orText c.statePersistError "state_persist_failed"
      keepRunning := true }

/-- `_step_quiesced`.  A takeover ends the quiesce and a pending stop, so what the source does by
calling `step` again is an active step. -/
def stepQuiesced (c : Core) (now : ℚ) (input : StepInput) : Core × Option StepReply :=
  let c := c.serviceExchangeRisk st now
    (c.observation.riskSnapshotSequence ≤ c.control.quiesceSnapshotSequence) input.service
  let e := c.evaluation st now
  let c := c.updateParentStaleState st e.parentHealthy now
  let reason := Control.quiesceTakeoverReason e.parentHealthy c.parentHeartbeatError
    e.exchangeValid
    c.observation.exchangeReason e.openOrderCount e.nonzeroPositionCount
  if reason = "" then
    (c, some {
      healthy := false
      reason := "supervisor_quiesced"
      action := if c.control.killLatched then .kill else .reduceOnly
      keepRunning := true })
  else
    match c.takeoverFromQuiesce st input.storage reason "supervisor_quiesce_safety_takeover" with
    | (c, none) => (c, none)
    | (c, some _) =>
      ({ c with control := c.control.failPendingStopAfterTakeover reason } : Core).stepActive st
        now input

/-- `step` without a pending stop request, or after one that waits. -/
def stepRunning (c : Core) (now : ℚ) (input : StepInput) : Core × Option StepReply :=
  if c.control.quiesced then c.stepQuiesced st now input
  else (c.serviceExchangeRisk st now false input.service).stepActive st now input

/-- `step`. -/
def step (c : Core) (now : ℚ) (input : StepInput) : Core × Option StepReply :=
  if c.control.stopRequested then
    match c.completeStopRequest st now input with
    | (c, none) => (c, none)
    | (c, some none) => c.stepRunning st now input
    | (c, some (some accepted)) =>
      (c, some {
        healthy := false
        reason := orText c.control.lastStopReason "supervisor_stop_failed"
        action := if c.control.killLatched then .kill else .reduceOnly
        keepRunning := !accepted })
  else c.stepRunning st now input

end Core

/-! ## Calls -/

/-- A call of the core, with all it meets. -/
inductive Call
  | heartbeat (sequence : Option ℤ) (sent : RawFloat) (now : ℚ)
  | quiesce (requestId reason : String) (wallTime : ℚ) (storage : Storage)
  | resumeShutdown (requestId reason : String) (storage : Storage)
  | stop (requestId : String) (cancelOrders : Bool)
  | prepareRearm (requestId reason : String) (now : ℚ) (input : GateInput) (token : String)
  | commitRearm (requestId token : String) (now : ℚ) (input : GateInput)
  | abortRearm (token : String)
  | step (now : ℚ) (input : StepInput)

/-- What a call answers. -/
inductive Reply
  | raised
  | flag (value : Bool)
  | decided (accepted : Bool) (reason : String)
  | noted
  | prepared (result : Except String String)
  | committed (result : Except String Unit)
  | stepped (result : StepReply)

/-- Whether an exception escapes. -/
def Reply.isRaised : Reply → Bool
  | .raised => true
  | _ => false

/-- The answer of a call, or its exception. -/
def Reply.ofOption {α : Type} (reply : α → Reply) : Option α → Reply
  | none => .raised
  | some value => reply value

/-- One call. -/
def Core.call (st : Settings) (c : Core) : Call → Core × Reply
  | .heartbeat sequence sent now =>
    let (c, taken) := c.receiveParentHeartbeat st sequence sent now
    (c, .flag taken)
  | .quiesce requestId reason wallTime storage =>
    let (c, result) := c.requestQuiesce st requestId reason wallTime storage
    (c, .ofOption (fun r => .decided r.1 r.2) result)
  | .resumeShutdown requestId reason storage =>
    let (c, result) := c.requestShutdownResume st requestId reason storage
    (c, .ofOption (fun r => .decided r.1 r.2) result)
  | .stop requestId cancelOrders =>
    ({ c with control := c.control.requestStop requestId cancelOrders }, .noted)
  | .prepareRearm requestId reason now input token =>
    let (c, result) := c.prepareRearm st requestId reason now input token
    (c, .ofOption .prepared result)
  | .commitRearm requestId token now input =>
    let (c, result) := c.commitRearm st requestId token now input
    (c, .ofOption .committed result)
  | .abortRearm token =>
    let (c, result) := c.abortRearm token
    (c, .ofOption .flag result)
  | .step now input =>
    let (c, result) := c.step st now input
    (c, .ofOption .stepped result)

/-! ## Runs -/

/-- A call of a run: the core before it, the call, its answer and the core after it. -/
structure Entry where
  before : Core
  call : Call
  reply : Reply
  after : Core

/-- One call from a core. -/
def Entry.of (st : Settings) (c : Core) (call : Call) : Entry where
  before := c
  call := call
  reply := (c.call st call).2
  after := (c.call st call).1

/-- The runs from a core, each with its history, oldest call first. -/
inductive Runs (st : Settings) (c₀ : Core) : List Entry → Core → Prop
  | nil : Runs st c₀ [] c₀
  | call {history : List Entry} {c : Core} (h : Runs st c₀ history c) (call : Call) :
      Runs st c₀ (history ++ [Entry.of st c call]) (Entry.of st c call).after

/-- A prefix of a run is a run, and what follows it is a call from where it ends. -/
theorem Runs.cut {st : Settings} {c₀ c : Core} {history : List Entry} (h : Runs st c₀ history c)
    {earlier later : List Entry} {e : Entry} (heq : history = earlier ++ e :: later) :
    Runs st c₀ earlier e.before ∧ e = Entry.of st e.before e.call := by
  induction h generalizing later with
  | nil => simp at heq
  | call h call ih =>
    rcases List.eq_nil_or_concat later with rfl | ⟨init, last, rfl⟩
    · obtain ⟨rfl, hlast⟩ := List.append_inj' heq rfl
      obtain rfl := (List.singleton_inj.mp hlast)
      exact ⟨h, rfl⟩
    · refine @ih init ?_
      rw [List.concat_eq_append, ← List.cons_append, ← List.append_assoc] at heq
      exact (List.append_inj' heq rfl).1

/-- What holds of a start and is kept by every call holds at the end of a run. -/
theorem Runs.invariant {st : Settings} {c₀ c : Core} {history : List Entry}
    (h : Runs st c₀ history c) {P : List Entry → Core → Prop} (hstart : P [] c₀)
    (hcall : ∀ history c call, P history c →
      P (history ++ [Entry.of st c call]) (Entry.of st c call).after) : P history c := by
  induction h with
  | nil => exact hstart
  | call h call ih => exact hcall _ _ call ih

/-! ## Settings to run with -/

/-- Settings without a worker thread and without a flat proof engine. -/
def Settings.plain (backend : Backend) (checks : ℕ) (checks_pos : 0 < checks) : Settings where
  control := {
    cancelRetrySec := 1
    flattenEnabled := true
    flattenRetrySec := 1
    flatVerificationChecks := checks
    rearmPrepareTtlSec := 30
    checks_pos := checks_pos
    ttl_pos := by norm_num }
  observation := {
    hasWorker := false
    exchangePollIntervalSec := 1
    exchangeMaxAgeSec := 10
    snapshotWorkerTimeoutSec := 5 }
  proof := none
  parentHeartbeatTimeoutSec := 20
  rearmSnapshotMaxAgeSec := 10
  orphanExitSec := 60
  parentLossFlattenDelaySec := 0
  backend := backend
  stateRequired := true
  accountScopeId := "account"
  genesisId := "genesis"
  deploymentPolicyFingerprint := ""
  accountKeyFingerprint := ""
  declaredAccountEquity := 1000
  maxDeployedCapital := 500
  seed := { deploymentId := "deployment" }
  stateHash := fun _ _ _ _ _ => ""
  checksum := fun _ => ""
  timeout_pos := by norm_num
  timeout_le_orphan := by norm_num

/-- A payload of the state store. -/
def StorePayload.plain (killLatched : Bool) (stage : Stage) : StorePayload where
  killLatched := some killLatched
  killReason := ""
  stage := some stage
  quiesced := some false
  quiesceReason := ""
  quiescedAt := some 0
  equity := EquityState.stored { deploymentId := "deployment" }
  lastFlatProof := .missing

/-- A disk with a state store. -/
def Disk.plain (payload : StorePayload) : Disk :=
  let head : StoreHead := { headRevision := 1, version := ⟨1, 1, 1, 1, ""⟩, payload := payload }
  { store := some {
      identity := ⟨"account", "genesis", "deployment"⟩
      head := head
      anchor := { committed := true, target := head } } }

/-- A reading of a snapshot that calls for nothing. -/
def Reading.quiet (openOrderCount nonzeroPositionCount : ℕ) : Reading :=
  .assessed ⟨.none, "", openOrderCount, nonzeroPositionCount⟩ { deploymentId := "deployment" } 0

/-- The core of a start that succeeds. -/
def Core.started (st : Settings) (disk : Disk) (input : Core.StartInput) : Core :=
  match Core.start st disk input with
  | .ok c => c
  | .error _ => Core.fresh st disk input.now

theorem Core.start_eq_started {st : Settings} {disk : Disk} {input : Core.StartInput}
    (h : (Core.start st disk input).isOk = true) :
    Core.start st disk input = .ok (Core.started st disk input) := by
  unfold started
  cases hstart : Core.start st disk input with
  | error left =>
    rw [hstart] at h
    cases h
  | ok c => rfl

/-- The run of some calls. -/
def Core.history (st : Settings) : Core → List Call → List Entry
  | _, [] => []
  | c, call :: calls => Entry.of st c call :: Core.history st (Entry.of st c call).after calls

/-- Where it leads. -/
def Core.after (st : Settings) (c : Core) (calls : List Call) : Core :=
  calls.foldl (fun c call => (c.call st call).1) c

theorem Runs.of_calls {st : Settings} {c₀ c : Core} {history : List Entry}
    (h : Runs st c₀ history c) (calls : List Call) :
    Runs st c₀ (history ++ c.history st calls) (c.after st calls) := by
  induction calls generalizing history c with
  | nil =>
    rw [Core.history, List.append_nil]
    exact h
  | cons call calls ih =>
    have hrest := ih (.call h call)
    rw [List.append_assoc] at hrest
    exact hrest

end ChronosHFT.Sidecar
