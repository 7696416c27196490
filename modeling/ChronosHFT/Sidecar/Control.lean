import Mathlib

/-!
# The control state of the risk sidecar

The sidecar is a process of its own that watches the trading process and the account.  What it
holds on to is the *kill latch*: once it is set, the sidecar cancels and flattens until an
operator rearms it in two phases.  This module is the controller of
`risk/sidecar_control_state.py`: the latch, the stage of the emergency actions, the quiesce and
stop protocol and the rearm tokens.

Persisting is not the controller's business.  Where the source takes a callback that persists the
state in the middle of a transition, the transition is cut there: `beginQuiesced` is what
`enter_quiesced` does before the callback, and `quiesceFailed` is what it does after one that
failed.

The controller keeps a `log` of what the stage machine was shown and of its resets, newest first.
Nothing reads it: it is there to say what a stage was reached from.
-/

namespace ChronosHFT.Sidecar

/-- The action an evaluation of the account asks for. -/
inductive RiskAction
  | none
  | reduceOnly
  | kill
  deriving DecidableEq, Repr

/-- The stages of the emergency actions; `kill` is only met in a migrated state. -/
inductive Stage
  | armed
  | cancelPending
  | flattening
  | cancelVerified
  | flatVerified
  | quiesced
  | failed
  | kill
  deriving DecidableEq, Repr

/-- The name of a stage. -/
def Stage.text : Stage → String
  | .armed => "ARMED"
  | .cancelPending => "CANCEL_PENDING"
  | .flattening => "FLATTENING"
  | .cancelVerified => "CANCEL_VERIFIED"
  | .flatVerified => "FLAT_VERIFIED"
  | .quiesced => "QUIESCED"
  | .failed => "FAILED"
  | .kill => "KILL"

/-- `StateVersion`. -/
structure StateVersion where
  writerEpoch : ℕ
  ownerEpoch : ℕ
  safetyEpoch : ℕ
  generation : ℕ
  stateSha256 : String
  deriving DecidableEq, Repr

/-- What `_rearm_proof_binding` takes of the state version and of the flat proof. -/
structure ProofBinding where
  version : StateVersion
  proofId : String
  lastTruthSequence : ℤ
  snapshotDigest : String
  deriving DecidableEq, Repr

/-- A prepared rearm. -/
structure PreparedRearm where
  token : String
  reason : String
  expiresAt : ℚ
  generation : ℕ
  proofBinding : Option ProofBinding
  deriving DecidableEq, Repr

/-- What the stage machine was shown in one evaluation. -/
structure Evaluation where
  now : ℚ
  parentHealthy : Bool
  exchangeValid : Bool
  openOrderCount : ℕ
  nonzeroPositionCount : ℕ
  sequence : ℕ
  deriving DecidableEq, Repr

/-- A snapshot that is valid and without orders and positions. -/
def Evaluation.flat (e : Evaluation) : Bool :=
  e.exchangeValid && decide (e.openOrderCount = 0) && decide (e.nonzeroPositionCount = 0)

/-- An entry of the log: an evaluation, or a reset of the flat verification. -/
inductive StageEvent
  | evaluated (e : Evaluation)
  | reset
  deriving DecidableEq, Repr

/-- The settings of the controller. -/
structure ControlPolicy where
  cancelRetrySec : ℚ
  flattenEnabled : Bool
  flattenRetrySec : ℚ
  flatVerificationChecks : ℕ
  rearmPrepareTtlSec : ℚ
  checks_pos : 0 < flatVerificationChecks
  ttl_pos : 0 < rearmPrepareTtlSec

/-- `SidecarControlState`, with the generation of its controller and the log. -/
structure Control where
  killLatched : Bool := false
  killReason : String := ""
  stage : Stage := .armed
  unsafeSince : ℚ := 0
  flatVerificationCount : ℕ := 0
  lastVerifiedSnapshotSequence : ℕ := 0
  quiesced : Bool := false
  quiesceReason : String := ""
  quiescedAt : ℚ := 0
  quiesceSnapshotSequence : ℕ := 0
  stopRequested : Bool := false
  stopRequestId : String := ""
  cancelOnStop : Bool := true
  lastQuiesceRequestId : String := ""
  lastQuiesceAccepted : Option Bool := none
  lastQuiesceReason : String := ""
  lastQuiescePersisted : Bool := false
  lastShutdownResumeRequestId : String := ""
  lastShutdownResumeAccepted : Option Bool := none
  lastShutdownResumeReason : String := ""
  lastShutdownResumePersisted : Bool := false
  lastStopRequestId : String := ""
  lastStopAccepted : Option Bool := none
  lastStopReason : String := ""
  lastStopQuiesced : Bool := false
  lastStopCancelRequested : Bool := false
  lastStopCancelAttempted : Bool := false
  lastStopCancelOk : Option Bool := none
  preparedRearm : Option PreparedRearm := none
  lastRearmRequestId : String := ""
  lastRearmPhase : String := ""
  lastRearmAccepted : Option Bool := none
  lastRearmReason : String := ""
  lastRearmToken : String := ""
  generation : ℕ := 0
  log : List StageEvent := []
  deriving DecidableEq, Repr

/-- What `float` makes of a value from outside: no number, one that is not finite, or a number.
-/
inductive RawFloat
  | invalid
  | nonFinite
  | is (value : ℚ)
  deriving DecidableEq, Repr

/-- `value or default` on texts. -/
def orText (text fallback : String) : String := if text = "" then fallback else text

/-- The fields whose change bumps the generation. -/
structure TransitionSnapshot where
  killLatched : Bool
  killReason : String
  stage : Stage
  verified : Bool
  quiesced : Bool
  quiesceReason : String
  quiescedAt : ℚ
  quiesceSnapshotSequence : ℕ
  deriving DecidableEq, Repr

namespace Control

variable (policy : ControlPolicy)

/-- `FLAT_VERIFIED`, with enough verifications. -/
def verified (c : Control) : Bool :=
  c.stage = .flatVerified ∧ policy.flatVerificationChecks ≤ c.flatVerificationCount

/-- `_transition_snapshot`. -/
def transitionSnapshot (c : Control) : TransitionSnapshot where
  killLatched := c.killLatched
  killReason := c.killReason
  stage := c.stage
  verified := c.verified policy
  quiesced := c.quiesced
  quiesceReason := c.quiesceReason
  quiescedAt := c.quiescedAt
  quiesceSnapshotSequence := c.quiesceSnapshotSequence

/-- `_bump_if_changed`. -/
def bumpIfChanged (before : TransitionSnapshot) (c : Control) : Control :=
  if c.transitionSnapshot policy = before then c else { c with generation := c.generation + 1 }

/-- `reset_flat_verification`. -/
def resetFlatVerification (c : Control) : Control :=
  ({ c with
      flatVerificationCount := 0
      lastVerifiedSnapshotSequence := 0
      log := .reset :: c.log } : Control).bumpIfChanged policy (c.transitionSnapshot policy)

/-- `latch_kill`. -/
def latchKill (c : Control) (reason : String) : Control :=
  if c.killLatched then c
  else
    ({ c with
        killLatched := true
        killReason := orText reason "independent_hard_risk_breach" } : Control).bumpIfChanged
          policy
      (c.transitionSnapshot policy)

/-! ## Quiescing -/

/-- `_record_quiesce`. -/
def recordQuiesce (c : Control) (requestId : String) (accepted : Bool) (reason : String)
    (persisted : Bool) : Control :=
  { c with
    lastQuiesceRequestId := requestId
    lastQuiesceAccepted := some accepted
    lastQuiesceReason := reason
    lastQuiescePersisted := persisted }

/-- `_begin_quiesced`. -/
def beginQuiesced (c : Control) (reason : String) (snapshotSequence : ℕ) (wallTime : ℚ) :
    Control :=
  ({ c with
      quiesced := true
      quiesceReason := orText reason "operator_quiesce"
      quiescedAt := if c.quiescedAt ≤ 0 then wallTime else c.quiescedAt
      quiesceSnapshotSequence := snapshotSequence
      stage := .quiesced
      preparedRearm := none } : Control).bumpIfChanged policy (c.transitionSnapshot policy)

/-- What `enter_quiesced` does when the state was not persisted. -/
def quiesceFailed (c : Control) (persistError : String) : Control :=
  ({ c with
      quiesced := false
      quiesceReason := ""
      quiescedAt := 0
      quiesceSnapshotSequence := 0
      killLatched := true
      killReason := orText persistError "quiesce_state_persist_failed"
      stage := .failed
      preparedRearm := none
      flatVerificationCount := 0
      lastVerifiedSnapshotSequence := 0 } : Control).bumpIfChanged policy
    (c.transitionSnapshot policy)

/-- What `takeover_from_quiesce` does before the state is persisted. -/
def beginTakeover (c : Control) (reason : String) : Control :=
  ({ c with
      quiesced := false
      quiesceReason := ""
      quiescedAt := 0
      quiesceSnapshotSequence := 0
      killLatched := true
      killReason := orText reason "quiesce_safety_takeover"
      stage := .flattening
      preparedRearm := none
      flatVerificationCount := 0
      lastVerifiedSnapshotSequence := 0
      log := .reset :: c.log } : Control).bumpIfChanged policy (c.transitionSnapshot policy)

/-- `_record_shutdown_resume`. -/
def recordShutdownResume (c : Control) (requestId : String) (accepted : Bool) (reason : String)
    (persisted : Bool) : Control :=
  { c with
    lastShutdownResumeRequestId := requestId
    lastShutdownResumeAccepted := some accepted
    lastShutdownResumeReason := reason
    lastShutdownResumePersisted := persisted }

/-! ## Stopping -/

/-- `request_stop`. -/
def requestStop (c : Control) (requestId : String) (cancelOrders : Bool) : Control :=
  { c with
    stopRequested := true
    stopRequestId := requestId
    cancelOnStop := cancelOrders }

/-- What is to be done about a stop request: `WAIT`, `TAKEOVER`, `QUIESCE`, `CANCEL` or
`REJECT`, with the texts of the plan. -/
inductive StopPlan
  | wait
  | takeover (reason transitionReason : String)
  | quiesce (reason : String)
  | cancel
  | reject (reason : String)
  deriving DecidableEq, Repr

/-- `stop_plan`. -/
def stopPlan (c : Control) (exchangeValid : Bool) (exchangeReason : String)
    (openOrderCount nonzeroPositionCount riskSnapshotSequence : ℕ) : StopPlan :=
  if c.quiesced then
    if exchangeValid = false then
      let reason := orText exchangeReason "stop_exchange_truth_stale"
      .takeover reason s!"stop_guard_exchange_truth_invalid:{reason}"
    else if openOrderCount ≠ 0 ∨ nonzeroPositionCount ≠ 0 then
      let reason :=
        s!"stop_guard_account_not_flat:open_orders={openOrderCount}:" ++
          s!"positions={nonzeroPositionCount}"
      .takeover reason reason
    else if riskSnapshotSequence ≤ c.quiesceSnapshotSequence then .wait
    else .quiesce (orText c.quiesceReason "stop_after_flat_snapshot")
  else if c.cancelOnStop then .cancel
  else .reject "stop_without_cancel_requires_quiesced"

/-- `finish_stop`. -/
def finishStop (c : Control) (accepted : Bool) (reason : String)
    (cancelRequested cancelAttempted : Bool) (cancelOk : Option Bool) : Control :=
  { c with
    lastStopRequestId := c.stopRequestId
    lastStopAccepted := some accepted
    lastStopReason := reason
    lastStopQuiesced := c.quiesced
    lastStopCancelRequested := cancelRequested
    lastStopCancelAttempted := cancelAttempted
    lastStopCancelOk := cancelOk
    stopRequested := false }

/-- `fail_pending_stop_after_takeover`. -/
def failPendingStopAfterTakeover (c : Control) (reason : String) : Control :=
  if c.stopRequested then
    c.finishStop false s!"stop_guard_takeover:{reason}" c.cancelOnStop false none
  else c

/-- `quiesce_takeover_reason`; empty when there is none. -/
def quiesceTakeoverReason (parentHealthy : Bool) (parentError : String) (exchangeValid : Bool)
    (exchangeReason : String) (openOrderCount nonzeroPositionCount : ℕ) : String :=
  if parentHealthy = false then orText parentError "quiesce_parent_heartbeat_stale"
  else if exchangeValid = false then orText exchangeReason "quiesce_exchange_truth_stale"
  else if openOrderCount ≠ 0 ∨ nonzeroPositionCount ≠ 0 then
    s!"quiesce_account_truth_drift:open_orders={openOrderCount}:" ++
      s!"positions={nonzeroPositionCount}"
  else ""

/-! ## Rearming -/

/-- `_record_rearm`. -/
def recordRearm (c : Control) (requestId phase : String) (accepted : Bool)
    (reason token : String) :
    Control :=
  { c with
    lastRearmRequestId := requestId
    lastRearmPhase := phase
    lastRearmAccepted := some accepted
    lastRearmReason := reason
    lastRearmToken := token }

/-- `rearm_control_gate`; an error is the reason of the refusal. -/
def rearmControlGate (c : Control) (parentHeartbeatError : String)
    (parentAgeSec parentTimeoutSec : ℚ) : Except String Unit :=
  if c.quiesced then .error "supervisor_quiesced"
  else if c.killLatched = false then .error "kill_latch_not_set"
  else if parentHeartbeatError ≠ "" then .error parentHeartbeatError
  else if parentTimeoutSec < max 0 parentAgeSec then .error "parent_heartbeat_stale"
  else .ok ()

/-- `rearm_truth_gate`. -/
def rearmTruthGate (c : Control) (exchangeHealthy : Bool) (exchangeReason : String)
    (snapshotFresh : Bool) (snapshotPendingReason : String) (riskAction : RiskAction)
    (riskReason : String) (fundingAction : RiskAction) (fundingReason : String)
    (openOrderCount nonzeroPositionCount : ℕ) : Except String Unit :=
  if exchangeHealthy = false then .error (orText exchangeReason "exchange_snapshot_failed")
  else if snapshotFresh = false then .error snapshotPendingReason
  else if riskAction ≠ .none then .error (orText riskReason "risk_breach_remains")
  else if fundingAction ≠ .none then .error (orText fundingReason "funding_guard_not_healthy")
  else if openOrderCount ≠ 0 then .error "open_orders_remain"
  else if nonzeroPositionCount ≠ 0 then .error "positions_remain"
  else if c.killLatched ∧ c.stage ≠ .flatVerified then
    .error s!"flat_not_verified:{c.stage.text}"
  else .ok ()

/-- `prepare_rearm`; `token` is what the token factory gives. -/
def prepareRearm (c : Control) (requestId reason : String) (now : ℚ)
    (safety : Except String Unit)
    (proofBinding : Option ProofBinding) (token : String) : Control × Except String String :=
  if requestId = "" then
    (c.recordRearm requestId "PREPARE" false "request_id_missing" "",
      .error "request_id_missing")
  else
    match safety with
    | .error refusal =>
      (({ c with preparedRearm := none } : Control).recordRearm requestId "PREPARE" false refusal
        "", .error refusal)
    | .ok () =>
      (({ c with
          preparedRearm := some {
            token := token
            reason := orText reason "operator_rearm"
            expiresAt := now + policy.rearmPrepareTtlSec
            generation := c.generation
            proofBinding := proofBinding } } : Control).recordRearm requestId "PREPARE" true
        "rearm_prepared" token, .ok token)

/-- `secrets.compare_digest` on texts; it raises on a text that is not ASCII. -/
def compareDigest (first second : String) : Option Bool :=
  if first.toList.all (fun c => decide (c.toNat < 128)) ∧
      second.toList.all (fun c => decide (c.toNat < 128)) then
    some (first = second)
  else none

/-- The token of the prepared rearm, empty when there is none. -/
def preparedToken (c : Control) : String :=
  match c.preparedRearm with
  | some prepared => prepared.token
  | none => ""

/-- A refused commit. -/
def refuseCommit (c : Control) (requestId reason : String) : Control × Except String Unit :=
  (c.recordRearm requestId "COMMIT" false reason "", .error reason)

/-- `reject_rearm_commit`. -/
def rejectRearmCommit (c : Control) (requestId reason : String) : Control × Except String Unit :=
  ({ c with preparedRearm := none } : Control).refuseCommit requestId reason

/-- `validate_rearm_commit`; `none` when the comparison of the tokens raises. -/
def validateRearmCommit (c : Control) (requestId token : String) (now : ℚ)
    (proofBinding : Option ProofBinding) : Option (Control × Except String Unit) :=
  if token = "" then some (c.refuseCommit requestId "rearm_token_invalid")
  else
    match compareDigest token c.preparedToken with
    | none => none
    | some false => some (c.refuseCommit requestId "rearm_token_invalid")
    | some true =>
      match c.preparedRearm with
      | none => some (c.refuseCommit requestId "rearm_token_invalid")
      | some prepared =>
        if prepared.expiresAt < now then
          some (c.rejectRearmCommit requestId "rearm_prepare_expired")
        else if prepared.generation ≠ c.generation then
          some (c.rejectRearmCommit requestId "rearm_generation_changed")
        else if prepared.proofBinding ≠ proofBinding then
          some (c.rejectRearmCommit requestId "rearm_proof_binding_changed")
        else some (c, .ok ())

/-- `begin_rearm_commit`; the checkpoint is the controller before it. -/
def beginRearmCommit (c : Control) : Control :=
  ({ c with
      killLatched := false
      killReason := ""
      stage := .armed
      flatVerificationCount := 0
      lastVerifiedSnapshotSequence := 0
      preparedRearm := none } : Control).bumpIfChanged policy (c.transitionSnapshot policy)

/-- `finish_rearm_commit`. -/
def finishRearmCommit (c : Control) (requestId : String) (persisted : Bool) (reason : String)
    (checkpoint : Control) : Control × Except String Unit :=
  if persisted = false then
    (({ c with
        killLatched := checkpoint.killLatched
        killReason := checkpoint.killReason
        stage := checkpoint.stage
        flatVerificationCount := checkpoint.flatVerificationCount
        lastVerifiedSnapshotSequence := checkpoint.lastVerifiedSnapshotSequence } :
      Control).bumpIfChanged policy (c.transitionSnapshot policy)).refuseCommit requestId
      (orText reason "state_persist_failed")
  else (c.recordRearm requestId "COMMIT" true "rearm_committed" "", .ok ())

/-- `abort_rearm`; `none` when the comparison of the tokens raises. -/
def abortRearm (c : Control) (token : String) : Option (Control × Bool) :=
  if token = "" then some (c, false)
  else
    match compareDigest token c.preparedToken with
    | none => none
    | some false => some (c, false)
    | some true => some ({ c with preparedRearm := none }, true)

/-! ## The stages -/

/-- `RiskStageActions`. -/
structure RiskStageActions where
  cancel : Bool := false
  flatten : Bool := false
  deriving DecidableEq, Repr

/-- The first part of an unsafe evaluation: an account that was verified and is not flat any more
is flattened again. -/
def reopen (c : Control) (e : Evaluation) : Control :=
  if c.stage = .flatVerified ∧ (e.exchangeValid = false ∨ e.openOrderCount ≠ 0 ∨
      e.nonzeroPositionCount ≠ 0) then
    { c with
      stage := .flattening
      flatVerificationCount := 0
      lastVerifiedSnapshotSequence := 0 }
  else c

/-- The second part: whether to cancel and to flatten. -/
def emergencyActions (c : Control) (action : RiskAction) (e : Evaluation)
    (lastCancelAttemptAt lastFlattenAttemptAt : ℚ) : Control × RiskStageActions :=
  if c.stage = .flatVerified then (c, {})
  else
    let cancel : Bool :=
      lastCancelAttemptAt ≤ 0 ∨ policy.cancelRetrySec ≤ e.now - lastCancelAttemptAt
    let c := if cancel then { c with stage := .cancelPending } else c
    if action = .kill ∧ policy.flattenEnabled then
      ({ c with stage := .flattening },
        { cancel := cancel
          flatten :=
            ((e.openOrderCount ≠ 0 ∨ e.nonzeroPositionCount ≠ 0) ∨ e.exchangeValid = false) ∧
              (lastFlattenAttemptAt ≤ 0 ∨
                policy.flattenRetrySec ≤ e.now - lastFlattenAttemptAt) })
    else (c, { cancel := cancel })

/-- The third part: counting the snapshots that show a flat account. -/
def countFlat (c : Control) (action : RiskAction) (e : Evaluation)
    (parentStaleSnapshotSequence : ℕ) : Control :=
  if e.exchangeValid = false then c
  else if action = .kill ∧ policy.flattenEnabled then
    let c :=
      if e.openOrderCount = 0 ∧ e.nonzeroPositionCount = 0 ∧
          (e.parentHealthy ∨ parentStaleSnapshotSequence < e.sequence) ∧
          c.lastVerifiedSnapshotSequence < e.sequence then
        { c with
          lastVerifiedSnapshotSequence := e.sequence
          flatVerificationCount := c.flatVerificationCount + 1 }
      else if e.openOrderCount ≠ 0 ∨ e.nonzeroPositionCount ≠ 0 then
        { c with
          stage := .flattening
          flatVerificationCount := 0
          lastVerifiedSnapshotSequence := e.sequence }
      else c
    if policy.flatVerificationChecks ≤ c.flatVerificationCount then
      { c with stage := .flatVerified }
    else c
  else if e.openOrderCount = 0 then { c with stage := .cancelVerified }
  else c

/-- `advance_risk_stage`. -/
def advanceRiskStage (c : Control) (healthy : Bool) (action : RiskAction) (e : Evaluation)
    (parentStaleSnapshotSequence : ℕ) (lastCancelAttemptAt lastFlattenAttemptAt : ℚ) :
    Control × RiskStageActions :=
  let before := c.transitionSnapshot policy
  let c := { c with log := .evaluated e :: c.log }
  if healthy then
    (({ c with
        unsafeSince := 0
        stage := .armed
        flatVerificationCount := 0
        lastVerifiedSnapshotSequence := 0 } : Control).bumpIfChanged policy before, {})
  else
    let c := { c with unsafeSince := if c.unsafeSince ≤ 0 then e.now else c.unsafeSince }
    let (c, actions) := (c.reopen e).emergencyActions policy action e lastCancelAttemptAt
      lastFlattenAttemptAt
    ((c.countFlat policy action e parentStaleSnapshotSequence).bumpIfChanged policy before,
      actions)

/-- `should_keep_running`. -/
def shouldKeepRunning (c : Control) (e : Evaluation) (parentStaleSince orphanExitSec : ℚ)
    (parentStaleSnapshotSequence : ℕ) : Bool :=
  ¬(e.parentHealthy = false ∧ 0 < parentStaleSince ∧ orphanExitSec ≤ e.now - parentStaleSince ∧
    c.stage = .flatVerified ∧ e.exchangeValid ∧ e.openOrderCount = 0 ∧
    e.nonzeroPositionCount = 0 ∧ policy.flatVerificationChecks ≤ c.flatVerificationCount ∧
    c.lastVerifiedSnapshotSequence = e.sequence ∧
    parentStaleSnapshotSequence < c.lastVerifiedSnapshotSequence)

end Control

end ChronosHFT.Sidecar
