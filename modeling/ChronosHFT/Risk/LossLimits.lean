import ChronosHFT.Sidecar.AccountRisk

/-!
# The loss limits of the risk manager

`AccountRiskController` of `risk/account_risk.py` and `RiskStateRepository` of
`risk/state_repository.py`.  An account update is measured against the baselines of its day and
of the deployment; a loss over a limit triggers the kill switch.  The baselines are journalled
when they change, and a start restores them.

Before anything is measured an update must show that the external cash flows are known
(`checkCashFlowTruth`).  Where they are not, and while that constraint recovers, nothing is
measured.

The numbers that the source prints in its reasons are kept as numbers here.
-/

namespace ChronosHFT.Risk

open Sidecar (RawFloat RiskAction)

/-! ## Data -/

/-- The baselines of `RiskDurableState`. -/
structure RiskBaselines where
  riskDay : String := ""
  initialEquity : ℚ := 0
  initialExternalCashFlowTotal : ℚ := 0
  peakEquity : ℚ := 0
  lastEquity : ℚ := 0
  deploymentStartEquity : ℚ := 0
  deploymentStartExternalCashFlowTotal : ℚ := 0
  deploymentAdjustedEquity : ℚ := 0
  deploymentLoss : ℚ := 0
  deriving DecidableEq

/-- `RiskDurableState`, with the latch of the kill switch; its state is `ARMED` where it is not
latched. -/
structure RiskDurableState where
  baselines : RiskBaselines := {}
  deploymentId : String
  deploymentPolicyFingerprint : String
  killSwitchTriggered : Bool := false
  deriving DecidableEq

/-- The settings, as the controller normalises them. -/
structure AccountRiskConfig where
  active : Bool := true
  deploymentId : String := ""
  deploymentPolicyFingerprint : String := ""
  maxDailyLoss : ℚ := 0
  maxDrawdownPct : ℚ := 0
  maxDeployedCapital : ℚ := 0
  maxDeploymentLoss : ℚ := 0
  deploymentLossReduceOnlyFraction : ℚ := 0
  marginHealthEnabled : Bool := true
  marginDegradedRatio : ℚ := 1 / 2
  marginReduceOnlyRatio : ℚ := 7 / 10
  marginKillRatio : ℚ := 9 / 10
  marginRecoveryRatio : ℚ := 2 / 5
  marginSnapshotMaxAgeSec : ℚ := 15
  marginRecoveryChecks : ℕ+ := 3
  cashFlowTruthEnabled : Bool := false
  cashFlowTruthRequireSnapshot : Bool := true
  cashFlowSnapshotMaxAgeSec : ℚ := 45
  cashFlowRecoveryChecks : ℕ+ := 2
  degraded_nonneg : 0 ≤ marginDegradedRatio := by norm_num
  degraded_le : marginDegradedRatio ≤ marginReduceOnlyRatio := by norm_num
  reduceOnly_le : marginReduceOnlyRatio ≤ marginKillRatio := by norm_num
  recovery_le : marginRecoveryRatio ≤ marginDegradedRatio := by norm_num

/-- An account as an update shows it. -/
structure AccountData where
  balance : RawFloat := .is 0
  equity : RawFloat := .is 0
  available : RawFloat := .is 0
  usedMargin : RawFloat := .is 0
  externalCashFlowTotal : RawFloat := .is 0
  cashFlowSnapshotSynced : Bool := false
  cashFlowSnapshotTime : RawFloat := .is 0
  marginSnapshotSynced : Bool := false
  marginSnapshotTime : RawFloat := .is 0
  maintenanceMarginRatio : RawFloat := .is 0
  deriving DecidableEq

/-- The date of a day as a text. -/
abbrev RiskDay := {day : String // day ≠ ""}

/-- An update with what it meets: whether the latch is released as it begins, the day, the clock
at its two checks, and the constraints that the OMS reports then. -/
structure AccountUpdate where
  account : AccountData
  released : Bool := false
  day : RiskDay
  cashFlowNow : ℚ
  marginNow : ℚ
  cashFlowConstraint : Bool := false
  marginConstraint : Bool := false

/-- Why the kill switch is triggered. -/
inductive KillReason
  | nonNumeric
  | invalidValues
  | deployedCapital
  | marginInvalid
  | margin (ratio limit : ℚ)
  | deploymentLoss (loss limit : ℚ)
  | dailyLoss (loss : ℚ)
  | drawdown (fraction limit : ℚ)
  deriving DecidableEq

/-- Why the OMS is constrained. -/
inductive ModeReason
  | pnlUnavailable
  | pnlStale (ageSec : Option ℚ)
  | marginTimeInvalid
  | marginStale (ageSec : Option ℚ)
  | marginReduceOnly (ratio : ℚ)
  | marginDegraded (ratio : ℚ)
  | deploymentLoss (loss : ℚ)
  deriving DecidableEq

/-- What an update does. -/
inductive RiskEffect
  | triggerKill (reason : KillReason)
  | reduceOnly (reason : ModeReason)
  | degraded (reason : ModeReason)
  | clearDailyPnlTruth
  | clearMarginHealth
  | clearDeploymentLoss
  | persist
  deriving DecidableEq

/-- The controller: its durable state and its two counters. -/
structure AccountRisk where
  durable : RiskDurableState
  marginRecoveryCount : ℕ := 0
  cashFlowRecoveryCount : ℕ := 0
  deriving DecidableEq

/-! ## The account -/

/-- What an update is measured by. -/
structure EquityUpdate where
  day : RiskDay
  equity : ℚ
  externalCashFlowTotal : ℚ
  deriving DecidableEq

/-- The numbers of an account that must be finite. -/
def AccountData.numbers (a : AccountData) : List RawFloat :=
  [a.balance, a.equity, a.available, a.usedMargin, a.externalCashFlowTotal]

/-- The checks at the head of `on_account_update`. -/
def readAccount (day : RiskDay) (a : AccountData) : Except KillReason EquityUpdate :=
  if a.numbers.contains .invalid then .error .nonNumeric
  else if a.numbers.contains .nonFinite then .error .invalidValues
  else
    match a.equity, a.usedMargin, a.externalCashFlowTotal with
    | .is equity, .is usedMargin, .is externalCashFlowTotal =>
      if equity ≤ 0 ∨ usedMargin < 0 then .error .invalidValues
      else .ok ⟨day, equity, externalCashFlowTotal⟩
    | _, _, _ => .error .invalidValues

/-- The age of a snapshot, infinite (`none`) for one of time zero. -/
def snapshotAgeSec (now time : ℚ) : Option ℚ :=
  if time = 0 then none else some (max 0 (now - time))

/-- Is a snapshot too old?  A limit of zero is none. -/
def tooOld (maxAge : ℚ) (age : Option ℚ) : Bool :=
  0 < maxAge ∧ ∀ seconds ∈ age, maxAge < seconds

/-- The time of a snapshot: zero where there is no number, `none` where it is no time. -/
def snapshotTime? : RawFloat → Option ℚ
  | .invalid => some 0
  | .nonFinite => none
  | .is time => if time < 0 then none else some time

/-- `deployed_capital_within_equity_limit`. -/
def capitalWithinLimit (cfg : AccountRiskConfig) (equity : ℚ) : Bool :=
  cfg.maxDeployedCapital / equity ≤ Sidecar.maxCanaryDeployedEquityFraction + 1 / 10 ^ 12

/-! ## Baselines -/

namespace RiskBaselines

/-- Does an update begin a day? -/
def begins (b : RiskBaselines) (s : EquityUpdate) : Bool :=
  b.riskDay ≠ s.day.1 ∨ b.initialEquity = 0

/-- The baselines of the day. -/
def startDay (b : RiskBaselines) (s : EquityUpdate) : RiskBaselines :=
  if b.begins s then
    { b with
      riskDay := s.day.1
      initialEquity := s.equity
      initialExternalCashFlowTotal := s.externalCashFlowTotal
      peakEquity := s.equity }
  else b

/-- The equity without what came in or went out since the day began. -/
def adjustedEquity (b : RiskBaselines) (s : EquityUpdate) : ℚ :=
  s.equity - (s.externalCashFlowTotal - b.initialExternalCashFlowTotal)

/-- The baseline of the deployment. -/
def trackDeployment (cfg : AccountRiskConfig) (b : RiskBaselines) (s : EquityUpdate) :
    RiskBaselines :=
  if 0 < cfg.maxDeploymentLoss then
    let (start, startCashFlow, adjusted, loss) :=
      Sidecar.updateDeploymentLoss s.equity s.externalCashFlowTotal b.deploymentStartEquity
        b.deploymentStartExternalCashFlowTotal
    { b with
      deploymentStartEquity := start
      deploymentStartExternalCashFlowTotal := startCashFlow
      deploymentAdjustedEquity := adjusted
      deploymentLoss := loss }
  else b

/-- The peak of the day. -/
def trackPeak (b : RiskBaselines) (s : EquityUpdate) : RiskBaselines :=
  if b.peakEquity < b.adjustedEquity s then { b with peakEquity := b.adjustedEquity s } else b

/-- What an update makes of the baselines. -/
def track (cfg : AccountRiskConfig) (b : RiskBaselines) (s : EquityUpdate) : RiskBaselines :=
  { ((b.startDay s).trackDeployment cfg s).trackPeak s with lastEquity := s.equity }

/-- Did a baseline or the peak change? -/
def changed (cfg : AccountRiskConfig) (b : RiskBaselines) (s : EquityUpdate) : Bool :=
  b.begins s ∨ (0 < cfg.maxDeploymentLoss ∧ b.deploymentStartEquity ≤ 0) ∨
    (b.startDay s).peakEquity < (b.startDay s).adjustedEquity s

end RiskBaselines

/-! ## An update -/

namespace AccountRisk

variable (cfg : AccountRiskConfig)

/-- `trigger_kill_switch`, whose latch is journalled. -/
def triggerKill (k : AccountRisk) (reason : KillReason) : AccountRisk × List RiskEffect :=
  ({ k with durable := { k.durable with killSwitchTriggered := true } },
    [.triggerKill reason, .persist])

/-- `_check_cash_flow_truth`: does the update stop here? -/
def checkCashFlowTruth (k : AccountRisk) (u : AccountUpdate) :
    AccountRisk × List RiskEffect × Bool :=
  if cfg.cashFlowTruthEnabled = false then (k, [], false)
  else
    let time := (snapshotTime? u.account.cashFlowSnapshotTime).getD 0
    let synced := u.account.cashFlowSnapshotSynced &&
      (snapshotTime? u.account.cashFlowSnapshotTime).isSome
    let age := snapshotAgeSec u.cashFlowNow time
    let stale := tooOld cfg.cashFlowSnapshotMaxAgeSec age
    if cfg.cashFlowTruthRequireSnapshot && (!synced || stale) then
      ({ k with cashFlowRecoveryCount := 0 },
        [.reduceOnly (if synced && stale then .pnlStale age else .pnlUnavailable)], true)
    else if u.cashFlowConstraint = false then ({ k with cashFlowRecoveryCount := 0 }, [], false)
    else if k.cashFlowRecoveryCount + 1 < cfg.cashFlowRecoveryChecks then
      ({ k with cashFlowRecoveryCount := k.cashFlowRecoveryCount + 1 }, [], true)
    else ({ k with cashFlowRecoveryCount := 0 }, [.clearDailyPnlTruth], true)

/-- The end of `_check_margin_health`, with a fresh ratio below the kill ratio. -/
def marginConstraint (k : AccountRisk) (u : AccountUpdate) (ratio : ℚ) :
    AccountRisk × List RiskEffect :=
  if cfg.marginReduceOnlyRatio ≤ ratio then
    ({ k with marginRecoveryCount := 0 }, [.reduceOnly (.marginReduceOnly ratio)])
  else if cfg.marginDegradedRatio ≤ ratio then
    ({ k with marginRecoveryCount := 0 }, [.degraded (.marginDegraded ratio)])
  else if u.marginConstraint = false ∨ cfg.marginRecoveryRatio < ratio then
    ({ k with marginRecoveryCount := 0 }, [])
  else if cfg.marginRecoveryChecks ≤ k.marginRecoveryCount + 1 then
    ({ k with marginRecoveryCount := 0 }, [.clearMarginHealth])
  else ({ k with marginRecoveryCount := k.marginRecoveryCount + 1 }, [])

/-- `_check_margin_health`: was the kill switch triggered? -/
def checkMarginHealth (k : AccountRisk) (u : AccountUpdate) :
    AccountRisk × List RiskEffect × Bool :=
  if cfg.marginHealthEnabled = false ∨ u.account.marginSnapshotSynced = false then (k, [], false)
  else
    match snapshotTime? u.account.marginSnapshotTime with
    | none => ({ k with marginRecoveryCount := 0 }, [.reduceOnly .marginTimeInvalid], false)
    | some time =>
      let age := snapshotAgeSec u.marginNow time
      if tooOld cfg.marginSnapshotMaxAgeSec age then
        ({ k with marginRecoveryCount := 0 }, [.reduceOnly (.marginStale age)], false)
      else
        match u.account.maintenanceMarginRatio with
        | .invalid | .nonFinite =>
          let (k, effects) := k.triggerKill .marginInvalid
          (k, effects, true)
        | .is ratio =>
          if ratio < 0 then
            let (k, effects) := k.triggerKill .marginInvalid
            (k, effects, true)
          else if cfg.marginKillRatio ≤ ratio then
            let (k, effects) := k.triggerKill (.margin ratio cfg.marginKillRatio)
            (k, effects, true)
          else
            let (k, effects) := k.marginConstraint cfg u ratio
            (k, effects, false)

/-- The loss of the day. -/
def dailyLoss (b : RiskBaselines) (s : EquityUpdate) : ℚ :=
  b.initialEquity - s.equity + (s.externalCashFlowTotal - b.initialExternalCashFlowTotal)

/-- The drawdown from the peak of the day, as a fraction of it. -/
def drawdownFraction (b : RiskBaselines) (s : EquityUpdate) : ℚ :=
  max 0 ((b.peakEquity - b.adjustedEquity s) / b.peakEquity)

/-- The loss and the drawdown of the day. -/
def checkDay (k : AccountRisk) (s : EquityUpdate) : AccountRisk × List RiskEffect :=
  let b := k.durable.baselines
  if 0 < cfg.maxDailyLoss ∧ cfg.maxDailyLoss < dailyLoss b s then
    k.triggerKill (.dailyLoss (dailyLoss b s))
  else if 0 < cfg.maxDrawdownPct ∧ 0 < b.peakEquity ∧
    cfg.maxDrawdownPct < drawdownFraction b s then
    k.triggerKill (.drawdown (drawdownFraction b s) cfg.maxDrawdownPct)
  else (k, [])

/-- The loss of the deployment, and then those of the day. -/
def checkLosses (k : AccountRisk) (s : EquityUpdate) : AccountRisk × List RiskEffect :=
  let loss := k.durable.baselines.deploymentLoss
  match Sidecar.deploymentLossAction loss cfg.maxDeploymentLoss
      cfg.deploymentLossReduceOnlyFraction with
  | .kill => k.triggerKill (.deploymentLoss loss cfg.maxDeploymentLoss)
  | .reduceOnly =>
    let (k, effects) := k.checkDay cfg s
    (k, .reduceOnly (.deploymentLoss loss) :: effects)
  | .none =>
    let (k, effects) := k.checkDay cfg s
    (k, .clearDeploymentLoss :: effects)

/-- The baselines follow an update. -/
def tracked (k : AccountRisk) (s : EquityUpdate) : AccountRisk :=
  { k with durable := { k.durable with baselines := k.durable.baselines.track cfg s } }

/-- The end of an update: the baselines, the margin and the losses. -/
def measure (k : AccountRisk) (u : AccountUpdate) (s : EquityUpdate) :
    AccountRisk × List RiskEffect :=
  let journalled := if k.durable.baselines.changed cfg s then [RiskEffect.persist] else []
  match (k.tracked cfg s).checkMarginHealth cfg u with
  | (k, effects, true) => (k, journalled ++ effects)
  | (k, effects, false) =>
    let (k, losses) := k.checkLosses cfg s
    (k, journalled ++ effects ++ losses)

/-- `_refresh_rearm_state`, whose release is journalled. -/
def refresh (k : AccountRisk) (u : AccountUpdate) : AccountRisk × List RiskEffect :=
  if u.released then
    ({ k with durable := { k.durable with killSwitchTriggered := false } }, [.persist])
  else (k, [])

/-- `on_account_update` once the latch was refreshed. -/
def assess (k : AccountRisk) (u : AccountUpdate) : AccountRisk × List RiskEffect :=
  if k.durable.killSwitchTriggered ∨ cfg.active = false then (k, [])
  else
    match readAccount u.day u.account with
    | .error reason => k.triggerKill reason
    | .ok s =>
      match k.checkCashFlowTruth cfg u with
      | (k, effects, true) => (k, effects)
      | (k, effects, false) =>
        if 0 < cfg.maxDeployedCapital ∧ capitalWithinLimit cfg s.equity = false then
          let (k, kills) := k.triggerKill .deployedCapital
          (k, effects ++ kills)
        else
          let (k, measured) := k.measure cfg u s
          (k, effects ++ measured)

/-- `on_account_update`. -/
def onAccountUpdate (k : AccountRisk) (u : AccountUpdate) : AccountRisk × List RiskEffect :=
  let (k, refreshed) := k.refresh u
  let (k, effects) := k.assess cfg u
  (k, refreshed ++ effects)

end AccountRisk

/-! ## The repository -/

/-- The state of a new deployment. -/
def RiskDurableState.fresh (cfg : AccountRiskConfig) : RiskDurableState where
  deploymentId := cfg.deploymentId
  deploymentPolicyFingerprint := cfg.deploymentPolicyFingerprint

/-- Is the identity of a record that of the deployment, where one is expected? -/
def identityHolds (expected stored : String) : Bool := expected = "" ∨ stored = expected

/-- `_decode` of a record: one of another deployment or policy fails closed. -/
def decode (cfg : AccountRiskConfig) (record : RiskDurableState) : RiskDurableState :=
  let b := record.baselines
  let restored : RiskDurableState := {
    baselines := {
      riskDay := b.riskDay
      initialEquity := b.initialEquity
      initialExternalCashFlowTotal := b.initialExternalCashFlowTotal
      peakEquity := b.peakEquity
      lastEquity := b.lastEquity }
    deploymentId := if cfg.deploymentId = "" then record.deploymentId else cfg.deploymentId
    deploymentPolicyFingerprint := cfg.deploymentPolicyFingerprint
    killSwitchTriggered := record.killSwitchTriggered }
  if identityHolds cfg.deploymentId record.deploymentId = false ∨
      identityHolds cfg.deploymentPolicyFingerprint record.deploymentPolicyFingerprint = false
      then
    { restored with killSwitchTriggered := true }
  else { restored with baselines := b }

/-- `restore`: the state of a process that starts on a journal. -/
def restore (cfg : AccountRiskConfig) : Option RiskDurableState → RiskDurableState
  | none => .fresh cfg
  | some record => decode cfg record

end ChronosHFT.Risk
