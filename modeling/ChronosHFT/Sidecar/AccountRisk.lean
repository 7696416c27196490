import ChronosHFT.Lib.Calendar
import ChronosHFT.Sidecar.Observation

/-!
# The equity baselines

`evaluate_equity` of `risk/sidecar_account_risk.py`: the equity of a snapshot is compared with
the first of its day, with the peak of the day and, corrected by the deposits and withdrawals,
with the first of the deployment.  The baselines are kept in the `EquityState`.

A snapshot that leaves before the baselines are touched is not evaluated; the others are
`EquitySample`s, and `trackEquity` is what one of them does to the baselines.  What a list of
them does is then a fold, whose baselines are those of the first sample of the day and of the
first one of all (`Baselined`). -/

namespace ChronosHFT.Sidecar

open List

/-! ## Snapshots -/

/-- The settings of the account risk that are about equity. -/
structure AccountPolicy where
  dailyLossEnabled : Bool
  maxDailyLoss : ℚ
  maxDrawdownPct : ℚ
  dailyLossReduceOnlyFraction : ℚ
  maxDeployedCapital : ℚ
  maxDeploymentLoss : ℚ
  deploymentLossReduceOnlyFraction : ℚ

/-- What `evaluate_equity` reads of a snapshot; a missing total is `invalid`, a missing capture
time is the time of the clock, and a missing day of the cash flows is empty. -/
structure EquitySnapshot where
  totalMarginBalance : RawFloat
  dailyExternalCashFlowTotal : RawFloat
  deploymentExternalCashFlowTotal : RawFloat
  capturedAt : RawFloat
  cashFlowRiskDay : String := ""
  deriving DecidableEq, Repr

/-- A snapshot that is evaluated, with its day. -/
structure EquitySample where
  equity : ℚ
  dailyExternalCashFlowTotal : ℚ
  deploymentExternalCashFlowTotal : ℚ
  capturedAt : ℚ
  riskDay : String
  date : Calendar.utcDate capturedAt = some riskDay

/-- What comes before the baselines: the evaluation exits, raises, or goes on with a sample. -/
inductive EquityGate
  | exits (action : RiskAction) (reason : String)
  | raises
  | passes (sample : EquitySample)

/-- `MAX_CANARY_DEPLOYED_EQUITY_FRACTION`. -/
def maxCanaryDeployedEquityFraction : ℚ := 2 / 100

/-- The first part of `evaluate_equity`. -/
def AccountPolicy.gate (policy : AccountPolicy) (snapshot : EquitySnapshot) : EquityGate :=
  if policy.dailyLossEnabled = false ∧ policy.maxDeploymentLoss ≤ 0 then .exits .none ""
  else
    match snapshot.totalMarginBalance, snapshot.dailyExternalCashFlowTotal,
      snapshot.deploymentExternalCashFlowTotal, snapshot.capturedAt with
    | .is equity, .is daily, .is deployment, .is capturedAt =>
      if capturedAt ≤ 0 then .exits .reduceOnly "daily_equity_snapshot_invalid"
      else if 0 < policy.maxDeployedCapital ∧ equity ≤ 0 then
        .exits .kill "canary_account_equity_invalid"
      else if 0 < policy.maxDeployedCapital ∧
          maxCanaryDeployedEquityFraction + 1 / 10 ^ 12 < policy.maxDeployedCapital / equity then
        .exits .kill "canary_deployed_capital_exceeds_current_equity_fraction"
      else
        match h : Calendar.utcDate capturedAt with
        | none => .raises
        | some riskDay =>
          if snapshot.cashFlowRiskDay ≠ "" ∧ snapshot.cashFlowRiskDay ≠ riskDay then
            .exits .reduceOnly "cash_flow_risk_day_mismatch"
          else
            .passes {
              equity := equity
              dailyExternalCashFlowTotal := daily
              deploymentExternalCashFlowTotal := deployment
              capturedAt := capturedAt
              riskDay := riskDay
              date := h }
    | _, _, _, _ => .exits .reduceOnly "daily_equity_snapshot_invalid"

/-- The sample of a snapshot that is evaluated. -/
def EquityGate.samples : EquityGate → List EquitySample
  | .passes sample => [sample]
  | _ => []

/-! ## Baselines -/

/-- `update_deployment_loss`: the start and its cash flows, the adjusted equity and the loss. -/
def updateDeploymentLoss (equity externalCashFlowTotal startEquity startExternalCashFlowTotal :
    ℚ) :
    ℚ × ℚ × ℚ × ℚ :=
  let (startEquity, startExternalCashFlowTotal) :=
    if startEquity ≤ 0 then (equity, externalCashFlowTotal)
    else (startEquity, startExternalCashFlowTotal)
  let adjustedEquity := equity - (externalCashFlowTotal - startExternalCashFlowTotal)
  (startEquity, startExternalCashFlowTotal, adjustedEquity, max 0 (startEquity - adjustedEquity))

namespace EquityState

/-- Whether there are no baselines yet. -/
def baselineMissing (e : EquityState) : Bool :=
  e.dayStartEquity = 0 ∧ e.peakAdjustedEquity = 0 ∧ e.lastEquity = 0

/-- The baselines of a new day. -/
def startDay (e : EquityState) (s : EquitySample) : EquityState :=
  if e.riskDay ≠ s.riskDay ∨ e.baselineMissing then
    { e with
      riskDay := s.riskDay
      dayStartEquity := s.equity
      dayStartExternalCashFlowTotal := s.dailyExternalCashFlowTotal
      peakAdjustedEquity := s.equity }
  else e

/-- The equity of a sample, without what came in or went out since the day began. -/
def adjustedEquity (e : EquityState) (s : EquitySample) : ℚ :=
  s.equity - (s.dailyExternalCashFlowTotal - e.dayStartExternalCashFlowTotal)

/-- The baseline of the deployment. -/
def trackDeployment (policy : AccountPolicy) (e : EquityState) (s : EquitySample) :
    EquityState :=
  if 0 < policy.maxDeploymentLoss then
    let (start, startCashFlow, adjusted, loss) :=
      updateDeploymentLoss s.equity s.deploymentExternalCashFlowTotal e.deploymentStartEquity
        e.deploymentStartExternalCashFlowTotal
    { e with
      deploymentStartEquity := start
      deploymentStartExternalCashFlowTotal := startCashFlow
      deploymentAdjustedEquity := adjusted
      deploymentLoss := loss }
  else e

/-- The peak of the day. -/
def trackPeak (e : EquityState) (adjusted : ℚ) : EquityState :=
  if e.peakAdjustedEquity ≤ 0 ∨ e.peakAdjustedEquity < adjusted then
    { e with peakAdjustedEquity := adjusted }
  else e

/-- What `evaluate_equity` makes of the baselines. -/
def trackEquity (policy : AccountPolicy) (e : EquityState) (s : EquitySample) : EquityState :=
  let e := e.startDay s
  let adjusted := e.adjustedEquity s
  { (e.trackDeployment policy s).trackPeak adjusted with lastEquity := s.equity }

end EquityState

/-! ## Losses -/

/-- The losses of a sample, against the baselines it left. -/
structure EquityMetrics where
  adjustedEquity : ℚ
  dailyLoss : ℚ
  peakDrawdownPct : ℚ
  deploymentLoss : ℚ
  deriving DecidableEq, Repr

/-- The losses in the metrics. -/
def EquityState.metrics (e : EquityState) (s : EquitySample) : EquityMetrics where
  adjustedEquity := e.adjustedEquity s
  dailyLoss := max 0 (e.dayStartEquity - e.adjustedEquity s)
  peakDrawdownPct :=
    if 0 < e.peakAdjustedEquity then
      max 0 ((e.peakAdjustedEquity - e.adjustedEquity s) / e.peakAdjustedEquity)
    else 0
  deploymentLoss := e.deploymentLoss

/-- `deployment_loss_action`. -/
def deploymentLossAction (loss maximumLoss reduceOnlyFraction : ℚ) : RiskAction :=
  if maximumLoss ≤ 0 then .none
  else if maximumLoss ≤ loss then .kill
  else
    let threshold := maximumLoss * min 1 (max 0 reduceOnlyFraction)
    if 0 < threshold ∧ threshold ≤ loss then .reduceOnly else .none

/-- The format `.6f` of a number that is not negative. -/
def fixedSix (x : ℚ) : String :=
  let micro := (Calendar.roundHalfEven (x * 1000000)).toNat
  let decimals := toString (micro % 1000000)
  toString (micro / 1000000) ++ "." ++
    String.ofList (List.replicate (6 - decimals.length) '0') ++ decimals

/-- The end of `evaluate_equity`: the action of the losses, and the reason. -/
def AccountPolicy.equityAction (policy : AccountPolicy) (m : EquityMetrics) :
    RiskAction × String :=
  let deployment := deploymentLossAction m.deploymentLoss policy.maxDeploymentLoss
    policy.deploymentLossReduceOnlyFraction
  let daily : Bool := policy.dailyLossEnabled ∧ 0 < policy.maxDailyLoss
  let drawdown : Bool := policy.dailyLossEnabled ∧ 0 < policy.maxDrawdownPct
  let fraction := policy.dailyLossReduceOnlyFraction
  if deployment = .kill then (.kill, s!"deployment_loss_kill:{fixedSix m.deploymentLoss}")
  else if daily ∧ policy.maxDailyLoss ≤ m.dailyLoss then
    (.kill, s!"daily_loss_kill:{fixedSix m.dailyLoss}")
  else if drawdown ∧ policy.maxDrawdownPct ≤ m.peakDrawdownPct then
    (.kill, s!"peak_drawdown_kill:{fixedSix m.peakDrawdownPct}")
  else if deployment = .reduceOnly then
    (.reduceOnly, s!"deployment_loss_reduce_only:{fixedSix m.deploymentLoss}")
  else if daily ∧ 0 < fraction ∧ policy.maxDailyLoss * fraction ≤ m.dailyLoss then
    (.reduceOnly, s!"daily_loss_reduce_only:{fixedSix m.dailyLoss}")
  else if drawdown ∧ 0 < fraction ∧ policy.maxDrawdownPct * fraction ≤ m.peakDrawdownPct then
    (.reduceOnly, s!"peak_drawdown_reduce_only:{fixedSix m.peakDrawdownPct}")
  else (.none, "")

/-- `evaluate_equity`: the baselines, and the action with its reason or nothing when it raises.
-/
def AccountPolicy.evaluateEquity (policy : AccountPolicy) (snapshot : EquitySnapshot)
    (e : EquityState) : EquityState × Option (RiskAction × String) :=
  match policy.gate snapshot with
  | .exits action reason => (e, some (action, reason))
  | .raises => (e, none)
  | .passes sample =>
    let e := e.trackEquity policy sample
    (e, some (policy.equityAction (e.metrics sample)))

/-! ## One sample -/

namespace EquityState

variable (policy : AccountPolicy) (e : EquityState) (s : EquitySample)

/-- The sample begins a day. -/
def Begins : Prop := e.riskDay ≠ s.riskDay ∨ e.baselineMissing = true

instance : Decidable (e.Begins s) := inferInstanceAs (Decidable (_ ∨ _))

theorem startDay_eq : e.startDay s =
    if e.Begins s then
      { e with
        riskDay := s.riskDay
        dayStartEquity := s.equity
        dayStartExternalCashFlowTotal := s.dailyExternalCashFlowTotal
        peakAdjustedEquity := s.equity }
    else e := rfl

/-- The adjusted equity goes by the cash flows of the day. -/
theorem adjustedEquity_startDay : (e.startDay s).adjustedEquity s =
    if e.Begins s then s.equity else e.adjustedEquity s := by
  rw [startDay_eq]
  split
  · unfold adjustedEquity
    ring
  · rfl

theorem trackDeployment_day :
    (e.trackDeployment policy s).riskDay = e.riskDay ∧
      (e.trackDeployment policy s).dayStartEquity = e.dayStartEquity ∧
      (e.trackDeployment policy s).dayStartExternalCashFlowTotal =
        e.dayStartExternalCashFlowTotal ∧
      (e.trackDeployment policy s).peakAdjustedEquity = e.peakAdjustedEquity := by
  unfold trackDeployment
  split <;> exact ⟨rfl, rfl, rfl, rfl⟩

@[simp] theorem riskDay_trackEquity : (e.trackEquity policy s).riskDay = s.riskDay := by
  have hday : (e.startDay s).riskDay = s.riskDay := by
    rw [startDay_eq]
    split
    · rfl
    · rename_i hgoes
      exact not_not.mp fun hne => hgoes (.inl hne)
  unfold trackEquity trackPeak
  dsimp only
  split <;> exact (trackDeployment_day policy _ s).1.trans hday

theorem dayStart_trackEquity : (e.trackEquity policy s).dayStartEquity =
    if e.Begins s then s.equity else e.dayStartEquity := by
  have hstart : (e.startDay s).dayStartEquity =
      if e.Begins s then s.equity else e.dayStartEquity := by
    rw [startDay_eq]
    split <;> rfl
  unfold trackEquity trackPeak
  dsimp only
  split <;> exact (trackDeployment_day policy _ s).2.1.trans hstart

theorem dayCashFlow_trackEquity : (e.trackEquity policy s).dayStartExternalCashFlowTotal =
    if e.Begins s then s.dailyExternalCashFlowTotal else e.dayStartExternalCashFlowTotal := by
  have hstart : (e.startDay s).dayStartExternalCashFlowTotal =
      if e.Begins s then s.dailyExternalCashFlowTotal
      else e.dayStartExternalCashFlowTotal := by
    rw [startDay_eq]
    split <;> rfl
  unfold trackEquity trackPeak
  dsimp only
  split <;> exact (trackDeployment_day policy _ s).2.2.1.trans hstart

theorem peak_trackPeak (adjusted : ℚ) : (e.trackPeak adjusted).peakAdjustedEquity =
    if e.peakAdjustedEquity ≤ 0 then adjusted else max e.peakAdjustedEquity adjusted := by
  unfold trackPeak
  by_cases hpeak : e.peakAdjustedEquity ≤ 0
  · rw [if_pos (.inl hpeak), if_pos hpeak]
  by_cases hadjusted : e.peakAdjustedEquity < adjusted
  · rw [if_pos (.inr hadjusted), if_neg hpeak, max_eq_right hadjusted.le]
  · rw [if_neg (not_or.mpr ⟨hpeak, hadjusted⟩), if_neg hpeak, max_eq_left (not_lt.mp hadjusted)]

theorem peak_trackEquity : (e.trackEquity policy s).peakAdjustedEquity =
    if e.Begins s then s.equity
    else if e.peakAdjustedEquity ≤ 0 then e.adjustedEquity s
    else max e.peakAdjustedEquity (e.adjustedEquity s) := by
  have htrack : (e.trackEquity policy s).peakAdjustedEquity =
      (((e.startDay s).trackDeployment policy s).trackPeak
        ((e.startDay s).adjustedEquity s)).peakAdjustedEquity := rfl
  rw [htrack, peak_trackPeak, (trackDeployment_day policy _ s).2.2.2, adjustedEquity_startDay,
    startDay_eq]
  by_cases hbegins : e.Begins s
  · simp only [if_pos hbegins, max_self, ite_self]
  · simp only [if_neg hbegins]

theorem deploymentStart_trackEquity : (e.trackEquity policy s).deploymentStartEquity =
    if 0 < policy.maxDeploymentLoss ∧ e.deploymentStartEquity ≤ 0 then s.equity
    else e.deploymentStartEquity := by
  have hstart : (e.startDay s).deploymentStartEquity = e.deploymentStartEquity := by
    rw [startDay_eq]
    split <;> rfl
  have htrack : (e.trackEquity policy s).deploymentStartEquity =
      ((e.startDay s).trackDeployment policy s).deploymentStartEquity := by
    unfold trackEquity trackPeak
    dsimp only
    split <;> rfl
  rw [htrack]
  unfold trackDeployment updateDeploymentLoss
  by_cases hlimit : 0 < policy.maxDeploymentLoss
  · by_cases hnone : e.deploymentStartEquity ≤ 0
    · simp [hlimit, hnone, hstart]
    · simp [hlimit, hnone, hstart]
  · simp [hlimit, hstart]

theorem deploymentCashFlow_trackEquity :
    (e.trackEquity policy s).deploymentStartExternalCashFlowTotal =
      if 0 < policy.maxDeploymentLoss ∧ e.deploymentStartEquity ≤ 0 then
        s.deploymentExternalCashFlowTotal
      else e.deploymentStartExternalCashFlowTotal := by
  have hstart : (e.startDay s).deploymentStartEquity = e.deploymentStartEquity ∧
      (e.startDay s).deploymentStartExternalCashFlowTotal =
        e.deploymentStartExternalCashFlowTotal := by
    rw [startDay_eq]
    split <;> exact ⟨rfl, rfl⟩
  have htrack : (e.trackEquity policy s).deploymentStartExternalCashFlowTotal =
      ((e.startDay s).trackDeployment policy s).deploymentStartExternalCashFlowTotal := by
    unfold trackEquity trackPeak
    dsimp only
    split <;> rfl
  rw [htrack]
  unfold trackDeployment updateDeploymentLoss
  by_cases hlimit : 0 < policy.maxDeploymentLoss
  · by_cases hnone : e.deploymentStartEquity ≤ 0
    · simp [hlimit, hnone, hstart]
    · simp [hlimit, hnone, hstart]
  · simp [hlimit, hstart]

/-- The loss of a deployment goes by its start. -/
theorem deploymentLoss_trackEquity (hlimit : 0 < policy.maxDeploymentLoss) :
    (e.trackEquity policy s).deploymentLoss =
      max 0 ((e.trackEquity policy s).deploymentStartEquity -
        (s.equity - (s.deploymentExternalCashFlowTotal -
          (e.trackEquity policy s).deploymentStartExternalCashFlowTotal))) := by
  have htrack : ∀ adjusted,
      ((e.startDay s).trackDeployment policy s).deploymentLoss =
        max 0 (((e.startDay s).trackDeployment policy s).deploymentStartEquity -
          (s.equity - (s.deploymentExternalCashFlowTotal -
            ((e.startDay s).trackDeployment policy s).deploymentStartExternalCashFlowTotal))) ∧
      (((e.startDay s).trackDeployment policy s).trackPeak adjusted).deploymentLoss =
        ((e.startDay s).trackDeployment policy s).deploymentLoss := by
    intro adjusted
    refine ⟨?_, ?_⟩
    · unfold trackDeployment updateDeploymentLoss
      rw [if_pos hlimit]
    · unfold trackPeak
      split <;> rfl
  unfold trackEquity
  dsimp only
  rw [(htrack _).2, (htrack 0).1]
  unfold trackPeak
  split <;> rfl

/-! ## The same baselines -/

/-- The two measure losses from the same baselines. -/
structure Agrees (e e' : EquityState) : Prop where
  riskDay : e'.riskDay = e.riskDay
  dayStart : e'.dayStartEquity = e.dayStartEquity
  dayCashFlow : e'.dayStartExternalCashFlowTotal = e.dayStartExternalCashFlowTotal
  peak : e'.peakAdjustedEquity = e.peakAdjustedEquity
  missing : e'.baselineMissing = e.baselineMissing
  deploymentStart : e'.deploymentStartEquity = e.deploymentStartEquity
  deploymentCashFlow :
    e'.deploymentStartExternalCashFlowTotal = e.deploymentStartExternalCashFlowTotal

variable {policy e s} {e' : EquityState}

theorem Agrees.refl (e : EquityState) : e.Agrees e := ⟨rfl, rfl, rfl, rfl, rfl, rfl, rfl⟩

theorem Agrees.trans {e'' : EquityState} (h : e.Agrees e') (h' : e'.Agrees e'') : e.Agrees e'' :=
  ⟨h'.riskDay.trans h.riskDay, h'.dayStart.trans h.dayStart, h'.dayCashFlow.trans h.dayCashFlow,
    h'.peak.trans h.peak, h'.missing.trans h.missing, h'.deploymentStart.trans h.deploymentStart,
    h'.deploymentCashFlow.trans h.deploymentCashFlow⟩

/-- A sample does the same to the same baselines. -/
theorem Agrees.trackEquity (h : e.Agrees e') :
    (e.trackEquity policy s).Agrees (e'.trackEquity policy s) := by
  have hbegins : e'.Begins s ↔ e.Begins s := by
    unfold Begins
    rw [h.riskDay, h.missing]
  have hadjusted : e'.adjustedEquity s = e.adjustedEquity s := by
    unfold adjustedEquity
    rw [h.dayCashFlow]
  have hday : (e'.trackEquity policy s).dayStartEquity =
      (e.trackEquity policy s).dayStartEquity := by
    simp only [dayStart_trackEquity, hbegins, h.dayStart]
  have hpeak : (e'.trackEquity policy s).peakAdjustedEquity =
      (e.trackEquity policy s).peakAdjustedEquity := by
    simp only [peak_trackEquity, hbegins, hadjusted, h.peak]
  refine ⟨?_, hday, ?_, hpeak, ?_, ?_, ?_⟩
  · rw [riskDay_trackEquity, riskDay_trackEquity]
  · simp only [dayCashFlow_trackEquity, hbegins, h.dayCashFlow]
  · unfold baselineMissing
    rw [hday, hpeak]
    rfl
  · simp only [deploymentStart_trackEquity, h.deploymentStart]
  · simp only [deploymentCashFlow_trackEquity, h.deploymentStart, h.deploymentCashFlow]

/-! ## All samples -/

/-- What some samples make of the baselines. -/
def trackAll (policy : AccountPolicy) (e : EquityState) (samples : List EquitySample) :
    EquityState :=
  samples.foldl (fun e s => e.trackEquity policy s) e

variable {later samples : List EquitySample} {first : EquitySample}

theorem trackAll_append :
    e.trackAll policy (samples ++ later) = (e.trackAll policy samples).trackAll policy later :=
  foldl_append

theorem Agrees.trackAll (h : e.Agrees e') (samples : List EquitySample) :
    (e.trackAll policy samples).Agrees (e'.trackAll policy samples) := by
  induction samples generalizing e e' with
  | nil => exact h
  | cons s rest ih => exact ih h.trackEquity

/-- The baselines of a day that has begun: it is that day, and there are baselines. -/
structure OnDay (e : EquityState) (day : String) : Prop where
  riskDay : e.riskDay = day
  present : e.baselineMissing = false
  peak : 0 < e.peakAdjustedEquity

variable (policy) in
/-- **A sample of the same day** keeps the start of the day, and the peak does not fall. -/
theorem OnDay.trackEquity {day : String} (h : e.OnDay day) (hday : s.riskDay = day) :
    (e.trackEquity policy s).OnDay day ∧
      (e.trackEquity policy s).dayStartEquity = e.dayStartEquity ∧
      (e.trackEquity policy s).dayStartExternalCashFlowTotal = e.dayStartExternalCashFlowTotal ∧
      e.peakAdjustedEquity ≤ (e.trackEquity policy s).peakAdjustedEquity := by
  have hgoes : ¬ e.Begins s := by
    unfold Begins
    rw [h.riskDay, h.present, hday]
    simp
  have hpeak : (e.trackEquity policy s).peakAdjustedEquity =
      max e.peakAdjustedEquity (e.adjustedEquity s) := by
    rw [peak_trackEquity, if_neg hgoes, if_neg (not_le.mpr h.peak)]
  have hgrows : e.peakAdjustedEquity ≤ (e.trackEquity policy s).peakAdjustedEquity := by
    rw [hpeak]
    exact le_max_left _ _
  have hpositive := h.peak.trans_le hgrows
  refine ⟨⟨?_, ?_, hpositive⟩, ?_, ?_, hgrows⟩
  · rw [riskDay_trackEquity, hday]
  · unfold baselineMissing
    simp [hpositive.ne']
  · rw [dayStart_trackEquity, if_neg hgoes]
  · rw [dayCashFlow_trackEquity, if_neg hgoes]

variable (policy) in
/-- **Samples of the same day.** -/
theorem OnDay.trackAll {day : String} (h : e.OnDay day) (hday : ∀ s ∈ samples, s.riskDay = day) :
    (e.trackAll policy samples).OnDay day ∧
      (e.trackAll policy samples).dayStartEquity = e.dayStartEquity ∧
      (e.trackAll policy samples).dayStartExternalCashFlowTotal =
        e.dayStartExternalCashFlowTotal ∧
      e.peakAdjustedEquity ≤ (e.trackAll policy samples).peakAdjustedEquity := by
  induction samples generalizing e with
  | nil => exact ⟨h, rfl, rfl, le_rfl⟩
  | cons s rest ih =>
    obtain ⟨hon, hstart, hcash, hpeak⟩ := h.trackEquity policy
      (hday s mem_cons_self)
    obtain ⟨hon', hstart', hcash', hpeak'⟩ := ih hon fun s hs => hday s (mem_cons_of_mem _ hs)
    exact ⟨hon', hstart'.trans hstart, hcash'.trans hcash, hpeak.trans hpeak'⟩

variable (policy) in
/-- **The first sample of a day** sets its baselines. -/
theorem Begins.onDay (h : e.Begins s) (hpositive : 0 < s.equity) :
    (e.trackEquity policy s).OnDay s.riskDay ∧
      (e.trackEquity policy s).dayStartEquity = s.equity ∧
      (e.trackEquity policy s).dayStartExternalCashFlowTotal = s.dailyExternalCashFlowTotal := by
  have hpeak : (e.trackEquity policy s).peakAdjustedEquity = s.equity := by
    rw [peak_trackEquity, if_pos h]
  refine ⟨⟨riskDay_trackEquity policy e s, ?_, hpeak ▸ hpositive⟩, ?_, ?_⟩
  · unfold baselineMissing
    simp [hpeak, hpositive.ne']
  · rw [dayStart_trackEquity, if_pos h]
  · rw [dayCashFlow_trackEquity, if_pos h]

variable (policy) in
/-- A deployment that has begun keeps its start. -/
theorem deployment_trackAll (h : 0 < e.deploymentStartEquity) (samples : List EquitySample) :
    (e.trackAll policy samples).deploymentStartEquity = e.deploymentStartEquity ∧
      (e.trackAll policy samples).deploymentStartExternalCashFlowTotal =
        e.deploymentStartExternalCashFlowTotal := by
  induction samples generalizing e with
  | nil => exact ⟨rfl, rfl⟩
  | cons s rest ih =>
    have hgoes : ¬ (0 < policy.maxDeploymentLoss ∧ e.deploymentStartEquity ≤ 0) :=
      fun hbegins => absurd h (not_lt.mpr hbegins.2)
    have hstart : (e.trackEquity policy s).deploymentStartEquity = e.deploymentStartEquity := by
      rw [deploymentStart_trackEquity, if_neg hgoes]
    have hcash : (e.trackEquity policy s).deploymentStartExternalCashFlowTotal =
        e.deploymentStartExternalCashFlowTotal := by
      rw [deploymentCashFlow_trackEquity, if_neg hgoes]
    obtain ⟨hstart', hcash'⟩ := ih (hstart ▸ h)
    exact ⟨hstart'.trans hstart, hcash'.trans hcash⟩

/-- The risk day is that of the last sample. -/
theorem riskDay_trackAll {last : EquitySample}
    (h : samples.getLast? = some last) : (e.trackAll policy samples).riskDay = last.riskDay := by
  obtain ⟨init, rfl⟩ := List.getLast?_eq_some_iff.mp h
  rw [trackAll_append]
  exact riskDay_trackEquity policy _ last

/-- `first` is the first sample of the day, which had not begun before. -/
structure DayBegan (e₀ : EquityState) (samples : List EquitySample) (day : String)
    (first : EquitySample) : Prop where
  found : samples.find? (fun s => s.riskDay = day) = some first
  begins : e₀.Begins first

/-- Samples between two of one day are of that day. -/
theorem sameDay (hordered : (first :: later).Pairwise fun a b => a.capturedAt ≤ b.capturedAt)
    (hlast : ∀ last, later.getLast? = some last → last.riskDay = first.riskDay) :
    ∀ s ∈ later, s.riskDay = first.riskDay := by
  rcases eq_nil_or_concat later with rfl | ⟨init, last, rfl⟩
  · exact nofun
  rw [concat_eq_append] at *
  have hday := hlast last (by simp)
  obtain ⟨hfirst, hpairs⟩ := pairwise_cons.mp hordered
  intro s hs
  have hsame : s.capturedAt ≤ last.capturedAt := by
    rcases mem_append.mp hs with hinit | heq
    · exact (pairwise_append.mp hpairs).2.2 s hinit last (mem_singleton_self _)
    · rw [mem_singleton.mp heq]
  have hdate := Calendar.utcDate_convex (hfirst s hs) hsame first.date (hday ▸ last.date)
  exact Option.some.inj (s.date.symm.trans hdate)

/-- **From the first sample of a day on**, while the day lasts. -/
theorem DayBegan.trackAll (h : e.DayBegan samples (e.trackAll policy samples).riskDay first)
    (hordered : samples.Pairwise fun a b => a.capturedAt ≤ b.capturedAt)
    (hpositive : ∀ s ∈ samples, 0 < s.equity) : (e.trackAll policy samples).OnDay first.riskDay ∧
      (e.trackAll policy samples).dayStartEquity = first.equity ∧
      (e.trackAll policy samples).dayStartExternalCashFlowTotal =
        first.dailyExternalCashFlowTotal := by
  obtain ⟨hday, before, after, heq, hbefore⟩ := List.find?_eq_some_iff_append.mp h.found
  have hsplit : e.trackAll policy samples =
      ((e.trackAll policy before).trackEquity policy first).trackAll policy after := by
    rw [heq]
    exact trackAll_append
  replace hday : first.riskDay = (e.trackAll policy samples).riskDay := by simpa using hday
  rw [← hday] at hbefore
  have hafter : ∀ s ∈ after, s.riskDay = first.riskDay := by
    rw [heq] at hordered
    refine sameDay (pairwise_append.mp hordered).2.1 fun last hlast => ?_
    rw [hday]
    refine (riskDay_trackAll ?_).symm
    rw [heq, List.getLast?_append, List.getLast?_cons, hlast]
    rfl
  -- before it there was no day, or another one
  have hbegins : (e.trackAll policy before).Begins first := by
    rcases eq_nil_or_concat before with hnil | ⟨init, last, hconcat⟩
    · rw [hnil]
      exact h.begins
    left
    rw [concat_eq_append] at hconcat
    have hend : before.getLast? = some last := by simp [hconcat]
    rw [riskDay_trackAll hend]
    simpa using hbefore last (hconcat ▸ by simp)
  have hfirst : 0 < first.equity := hpositive first (List.mem_of_find?_eq_some h.found)
  obtain ⟨hon, hstart, hcash⟩ := hbegins.onDay policy hfirst
  obtain ⟨hon', hstart', hcash', -⟩ := hon.trackAll policy hafter
  rw [hsplit]
  exact ⟨hon', hstart'.trans hstart, hcash'.trans hcash⟩

/-- **The peak of a day** does not fall while the day lasts. -/
theorem DayBegan.peak (h : e.DayBegan samples (e.trackAll policy samples).riskDay first)
    (hordered : (samples ++ later).Pairwise fun a b => a.capturedAt ≤ b.capturedAt)
    (hpositive : ∀ s ∈ samples ++ later, 0 < s.equity)
    (hday : (e.trackAll policy (samples ++ later)).riskDay =
      (e.trackAll policy samples).riskDay) :
    (e.trackAll policy samples).peakAdjustedEquity ≤
      (e.trackAll policy (samples ++ later)).peakAdjustedEquity := by
  obtain ⟨hbefore, hafter, hcross⟩ := pairwise_append.mp hordered
  obtain ⟨hon, -, -⟩ := h.trackAll hbefore fun s hs => hpositive s (mem_append_left _ hs)
  have hlater : ∀ s ∈ later, s.riskDay = first.riskDay := by
    have hmem : first ∈ samples := List.mem_of_find?_eq_some h.found
    refine sameDay (pairwise_cons.mpr ⟨hcross first hmem, hafter⟩) fun last hlast => ?_
    rw [← hon.riskDay, ← hday]
    refine (riskDay_trackAll ?_).symm
    rw [List.getLast?_append, hlast]
    rfl
  rw [trackAll_append]
  exact (hon.trackAll policy hlater).2.2.2

/-- **The first sample of all** starts the deployment. -/
theorem deployment_first
    (hlimit : 0 < policy.maxDeploymentLoss) (hnone : e.deploymentStartEquity ≤ 0)
    (hfirst : samples.head? = some first) (hpositive : 0 < first.equity) :
    (e.trackAll policy samples).deploymentStartEquity = first.equity ∧
      (e.trackAll policy samples).deploymentStartExternalCashFlowTotal =
        first.deploymentExternalCashFlowTotal := by
  obtain ⟨rest, rfl⟩ := List.head?_eq_some_iff.mp hfirst
  have hstart : (e.trackEquity policy first).deploymentStartEquity = first.equity := by
    rw [deploymentStart_trackEquity, if_pos ⟨hlimit, hnone⟩]
  have hcash : (e.trackEquity policy first).deploymentStartExternalCashFlowTotal =
      first.deploymentExternalCashFlowTotal := by
    rw [deploymentCashFlow_trackEquity, if_pos ⟨hlimit, hnone⟩]
  obtain ⟨hstart', hcash'⟩ := deployment_trackAll policy (hstart ▸ hpositive) rest
  exact ⟨hstart'.trans hstart, hcash'.trans hcash⟩

end EquityState

end ChronosHFT.Sidecar
