import ChronosHFT.Lib.Text
import ChronosHFT.Sidecar.Control

/-!
# What the sidecar knows of the account

`risk/sidecar_observation.py`: the freshness of the exchange snapshots and the result of their
evaluation.  A snapshot is read either by the sidecar itself or by a worker thread, which is
handed numbered requests and hands numbered results back.

What the evaluation of a snapshot says is an input here, a `Reading`: the account and funding
policies are not looked into, and every result they may have is allowed.  What follows from a
reading is the source's.
-/

namespace ChronosHFT.Sidecar

/-- `SidecarEquityState`: the equity baselines of the account risk. -/
structure EquityState where
  deploymentId : String := ""
  riskDay : String := ""
  dayStartEquity : ℚ := 0
  dayStartExternalCashFlowTotal : ℚ := 0
  peakAdjustedEquity : ℚ := 0
  lastEquity : ℚ := 0
  deploymentStartEquity : ℚ := 0
  deploymentStartExternalCashFlowTotal : ℚ := 0
  deploymentAdjustedEquity : ℚ := 0
  deploymentLoss : ℚ := 0
  deriving DecidableEq, Repr

/-- An evaluated snapshot: the action with its reason, and the two counts of the metrics. -/
structure Assessment where
  action : RiskAction
  reason : String
  openOrderCount : ℕ
  nonzeroPositionCount : ℕ
  deriving DecidableEq, Repr

/-- What reading a snapshot comes to. -/
inductive Reading
  /-- The query failed. -/
  | unhealthy (reason : String)
  /-- The exchange only has a channel check, which passed. -/
  | channel
  /-- The snapshot is not a mapping. -/
  | malformed
  /-- The evaluation raised, with the equity state it left behind. -/
  | raised (reason : String) (equity : EquityState)
  /-- The snapshot was evaluated. -/
  | assessed (a : Assessment) (equity : EquityState) (capturedAt : ℚ)
  deriving DecidableEq, Repr

/-- The settings of the observation. -/
structure ObservationPolicy where
  hasWorker : Bool
  exchangePollIntervalSec : ℚ
  exchangeMaxAgeSec : ℚ
  snapshotWorkerTimeoutSec : ℚ

/-- The state of `SidecarObservationController`. -/
structure Observation where
  equity : EquityState
  lastExchangePollAt : ℚ := 0
  lastExchangeSuccessAt : ℚ := 0
  lastSnapshotResultSequence : ℕ := 0
  snapshotRequestSequence : ℕ := 0
  snapshotRequestInflightSequence : ℕ := 0
  snapshotRequestInflightSince : ℚ := 0
  riskSnapshotCapturedAt : ℚ := 0
  riskSnapshotCapturedMonotonic : ℚ := 0
  exchangeHealthy : Bool := false
  exchangeReason : String := "exchange_check_missing"
  riskAction : RiskAction := .none
  riskReason : String := ""
  openOrderCount : ℕ := 0
  nonzeroPositionCount : ℕ := 0
  riskSnapshotSequence : ℕ := 0
  deriving DecidableEq, Repr

/-- `_HARD_CLOCK_FAILURE_PREFIXES`. -/
def hardClockFailures : List String :=
  ["clock_phase_error_kill:", "clock_initial_offset_exceeded:", "clock_anchor_non_finite",
   "clock_monotonic_regressed", "clock_phase_error_non_finite", "clock_phase_threshold_invalid"]

/-- `_clock_failure_requires_kill`. -/
def clockFailureRequiresKill (reason : String) : Bool :=
  hardClockFailures.any fun failure =>
    failure.toList.isPrefixOf (Text.strip reason).toLower.toList

/-- A result of the worker thread. -/
structure WorkerResult where
  sequence : ℕ
  requestedMonotonic : ℚ
  completedMonotonic : ℚ
  reading : Reading
  deriving DecidableEq, Repr

/-- What a call of `service` meets: the sidecar's own read, or the worker's latest result,
whether its thread lives and whether it takes a request. -/
structure ServiceInput where
  reading : Reading := .unhealthy ""
  result : Option WorkerResult := none
  alive : Bool := true
  submitted : Bool := true
  deriving DecidableEq, Repr

namespace Observation

variable (policy : ObservationPolicy)

/-- `mark_unhealthy`. -/
def markUnhealthy (o : Observation) (reason : String) : Observation :=
  let reason := orText reason "exchange_snapshot_failed"
  if o.riskAction = .kill then
    { o with
      exchangeHealthy := false
      exchangeReason := reason }
  else
    { o with
      exchangeHealthy := false
      exchangeReason := reason
      riskAction := if clockFailureRequiresKill reason then .kill else .reduceOnly
      riskReason := reason }

/-- `apply_result`. -/
def applyResult (o : Observation) (reading : Reading) (completedMonotonic : ℚ) : Observation :=
  match reading with
  | .unhealthy reason => o.markUnhealthy (orText reason "exchange_snapshot_failed")
  | .channel =>
    { o with
      exchangeHealthy := true
      exchangeReason := ""
      riskAction := .none
      riskReason := ""
      lastExchangeSuccessAt := completedMonotonic }
  | .malformed => o.markUnhealthy "exchange_snapshot_payload_invalid"
  | .raised reason equity =>
    ({ o with equity := equity } : Observation).markUnhealthy
      s!"snapshot_evaluation_exception:{reason}"
  | .assessed a equity capturedAt =>
    { o with
      equity := equity
      exchangeHealthy := true
      exchangeReason := ""
      riskAction := a.action
      riskReason := a.reason
      openOrderCount := a.openOrderCount
      nonzeroPositionCount := a.nonzeroPositionCount
      lastExchangeSuccessAt := completedMonotonic
      riskSnapshotSequence := o.riskSnapshotSequence + 1
      riskSnapshotCapturedMonotonic := completedMonotonic
      riskSnapshotCapturedAt := capturedAt }

/-- The part of `service_worker` that takes a result. -/
def takeResult (o : Observation) (now : ℚ) (result : WorkerResult) : Observation :=
  if result.sequence ≤ o.lastSnapshotResultSequence then o
  else
    let expected := o.snapshotRequestInflightSequence
    let o := { o with lastSnapshotResultSequence := result.sequence }
    let o :=
      if result.sequence = expected then
        { o with
          snapshotRequestInflightSequence := 0
          snapshotRequestInflightSince := 0 }
      else o
    if ¬(0 < result.sequence ∧ result.sequence = expected ∧ 0 < result.requestedMonotonic ∧
        result.requestedMonotonic ≤ result.completedMonotonic ∧
        result.completedMonotonic ≤ now) then
      o.markUnhealthy "exchange_snapshot_worker_timestamp_invalid"
    else if policy.snapshotWorkerTimeoutSec <
        result.completedMonotonic - result.requestedMonotonic then
      o.markUnhealthy "exchange_snapshot_worker_deadline_exceeded"
    else if policy.exchangeMaxAgeSec < now - min now result.completedMonotonic then
      o.markUnhealthy "exchange_snapshot_worker_result_stale"
    else o.applyResult result.reading (min now result.completedMonotonic)

/-- The part of `service_worker` that watches the worker. -/
def watchWorker (o : Observation) (now : ℚ) (input : ServiceInput) : Observation :=
  let o :=
    if 0 < o.snapshotRequestInflightSince ∧
        policy.snapshotWorkerTimeoutSec < max 0 (now - o.snapshotRequestInflightSince) then
      o.markUnhealthy "exchange_snapshot_worker_timeout"
    else o
  if input.alive then o else o.markUnhealthy "exchange_snapshot_worker_down"

/-- The part of `service_worker` that hands out a request. -/
def submitRequest (o : Observation) (now : ℚ) (force : Bool) (input : ServiceInput) :
    Observation :=
  let due : Bool :=
    o.lastExchangePollAt ≤ 0 ∨ policy.exchangePollIntervalSec ≤ now - o.lastExchangePollAt
  if o.snapshotRequestInflightSequence = 0 ∧ (force ∨ due) then
    let o := { o with snapshotRequestSequence := o.snapshotRequestSequence + 1 }
    if input.submitted then
      { o with
        lastExchangePollAt := now
        snapshotRequestInflightSequence := o.snapshotRequestSequence
        snapshotRequestInflightSince := now }
    else o.markUnhealthy "exchange_snapshot_worker_queue_full"
  else o

/-- The end of `service_worker`: an output that is missing or too old. -/
def checkOutput (o : Observation) (now : ℚ) : Observation :=
  if o.lastExchangeSuccessAt ≤ 0 then
    if o.exchangeReason = "" ∨ o.exchangeReason = "exchange_check_missing" then
      o.markUnhealthy "exchange_snapshot_worker_pending"
    else o
  else if policy.exchangeMaxAgeSec < now - o.lastExchangeSuccessAt then
    o.markUnhealthy "exchange_snapshot_worker_output_stale"
  else o

/-- `service_worker`. -/
def serviceWorker (o : Observation) (now : ℚ) (force : Bool) (input : ServiceInput) :
    Observation :=
  let o := match input.result with
    | none => o
    | some result => o.takeResult policy now result
  ((o.watchWorker policy now input).submitRequest policy now force input).checkOutput policy now

/-- `service`; `poll` is the sidecar's own read. -/
def service (o : Observation) (now : ℚ) (force : Bool) (input : ServiceInput) : Observation :=
  if policy.hasWorker then o.serviceWorker policy now force input
  else if force ∨ o.lastExchangePollAt ≤ 0 ∨
      policy.exchangePollIntervalSec ≤ now - o.lastExchangePollAt then
    ({ o with lastExchangePollAt := now } : Observation).applyResult input.reading now
  else o

/-- `snapshot_valid`. -/
def snapshotValid (o : Observation) (now : ℚ) : Bool :=
  o.exchangeHealthy ∧ 0 < o.riskSnapshotSequence ∧
    (0 < o.lastExchangeSuccessAt ∧ o.lastExchangeSuccessAt ≤ now) ∧
    (0 < o.riskSnapshotCapturedMonotonic ∧ o.riskSnapshotCapturedMonotonic ≤ now) ∧
    o.lastExchangeSuccessAt = o.riskSnapshotCapturedMonotonic ∧
    now - o.lastExchangeSuccessAt ≤ policy.exchangeMaxAgeSec ∧
    now - o.riskSnapshotCapturedMonotonic ≤ policy.exchangeMaxAgeSec

end Observation

end ChronosHFT.Sidecar
