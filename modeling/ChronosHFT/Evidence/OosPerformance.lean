import ChronosHFT.Lib.Dict
import ChronosHFT.Evidence.OosReconstruction

/-!
# The out-of-sample performance

`reconstruct_oos_evidence` of `data/oos_reconstruction.py` with its parts: the positions at the
start of the window, the profit and the largest drawdown of the window, and the markouts of its
executions.

The quantities are decimals, and decimals are numbers here; the floats they are written out as
are left out.  Times and the statistics of the markouts are floats of the source; their
arithmetic is a parameter, `Numerics`. -/

namespace ChronosHFT.Evidence

open Oms (Side)

/-- The arithmetic of floats, and the conversions and statistics of the language. -/
structure Numerics where
  /-- The nearest float. -/
  round : ℚ → ℚ
  round_mono : Monotone round
  round_round : ∀ x, round (round x) = round x
  round_zero : round 0 = 0
  /-- `str(value)` of a decimal. -/
  str : ℚ → String
  /-- `datetime.fromtimestamp(value, utc).date().isoformat()`. -/
  date : ℚ → String
  /-- `statistics.fmean`. -/
  fmean : List ℚ → ℚ
  /-- `statistics.stdev`. -/
  stdev : List ℚ → ℚ
  /-- `math.sqrt`. -/
  sqrt : ℚ → ℚ

/-- `MarkObservation`; the funding rate and time are not used. -/
structure MarkObservation where
  symbol : String
  exchangeTime : ℚ
  markPrice : ℚ
  deriving DecidableEq, Repr

/-- `FundingCashFlow`. -/
structure FundingCashFlow where
  asset : String
  eventTime : ℚ
  amount : ℚ
  deriving DecidableEq, Repr

/-- The market journal of `RawEvidence`. -/
structure MarketJournalIdentity where
  sha256 : String
  recordCount : ℕ
  finalHash : String
  markCount : ℕ
  accountCount : ℕ
  deriving DecidableEq, Repr

/-- `RawEvidence`. -/
structure RawEvidence where
  omsIdentity : OmsJournalIdentity
  executions : List Execution
  externalCashFlowTimes : List ℚ
  marketJournal : MarketJournalIdentity
  marks : List MarkObservation
  fundingCashFlows : List FundingCashFlow

/-- `OOSReconstructionRequirements`, with the checks of `__post_init__`. -/
structure Requirements where
  markoutHorizonsMs : List ℕ
  maxMarkoutLagMs : ℕ
  minUtcDayClusters : ℕ
  flatTolerance : ℚ
  pnlCrosscheckToleranceUsdt : ℚ
  horizons_ne_nil : markoutHorizonsMs ≠ []
  horizons_pos : ∀ horizon ∈ markoutHorizonsMs, 0 < horizon
  horizons_nodup : markoutHorizonsMs.Nodup
  lag_pos : 0 < maxMarkoutLagMs
  two_le_clusters : 2 ≤ minUtcDayClusters
  flatTolerance_pos : 0 < flatTolerance
  pnlTolerance_pos : 0 < pnlCrosscheckToleranceUsdt

/-- A check that must hold. -/
def ensure (condition : Prop) [Decidable condition] (text : String) : Except String Unit :=
  if condition then .ok () else .error text

namespace Execution

/-- `signed_quantity`. -/
def signedQuantity (execution : Execution) : ℚ :=
  if execution.side = .buy then execution.quantity else -execution.quantity

/-- `notional`. -/
def notional (execution : Execution) : ℚ := execution.quantity * execution.price

end Execution

/-! ## Positions -/

/-- Add an execution to the positions. -/
def addExecution (positions : Dict String ℚ) (execution : Execution) : Dict String ℚ :=
  positions.set execution.symbol (positions.getD execution.symbol 0 + execution.signedQuantity)

/-- `_position_at`. -/
def positionAt (executions : List Execution) (cutoff : ℚ) : Dict String ℚ :=
  (executions.takeWhile fun execution => execution.exchangeTime < cutoff).foldl addExecution ∅

/-- `_require_flat`. -/
def requireFlat (N : Numerics) (positions : Dict String ℚ) (symbols : List String)
    (tolerance : ℚ)
    (boundary : String) : Except String Unit :=
  let breaches := symbols.filter fun symbol => tolerance < |positions.getD symbol 0|
  ensure (breaches = []) (s!"OOS {boundary} boundary is not flat: " ++
    ",".intercalate ((breaches.insertionSort (· ≤ ·)).map fun symbol =>
      s!"{symbol}={N.str (positions.getD symbol 0)}"))

/-! ## The equity curve -/

/-- An item of `events`. -/
inductive CurveEvent
  | funding (flow : FundingCashFlow)
  | execution (execution : Execution)
  | mark (mark : MarkObservation)
  deriving DecidableEq

namespace CurveEvent

/-- The time an event is sorted by. -/
def time : CurveEvent → ℚ
  | funding flow => flow.eventTime
  | execution fill => fill.exchangeTime
  | mark observation => observation.exchangeTime

/-- The order of events at one time. -/
def rank : CurveEvent → ℕ
  | funding _ => 0
  | execution _ => 1
  | mark _ => 2

/-- The key of `events.sort`. -/
def Before (a b : CurveEvent) : Prop := a.time < b.time ∨ (a.time = b.time ∧ a.rank ≤ b.rank)

instance : DecidableRel Before := fun _ _ => inferInstanceAs (Decidable (_ ∨ _))

end CurveEvent

/-- The variables of the loop of `_equity_curve`. -/
structure Curve where
  latestMarks : Dict String ℚ
  positions : Dict String ℚ
  cash : ℚ
  peak : ℚ
  maxDrawdown : ℚ

namespace Curve

/-- The effect of an event on the cash, the positions and the marks. -/
def apply (c : Curve) : CurveEvent → Curve
  | .execution execution =>
    { c with
      positions := addExecution c.positions execution
      cash := c.cash - execution.signedQuantity * execution.price - execution.commission }
  | .funding flow => { c with cash := c.cash + flow.amount }
  | .mark mark => { c with latestMarks := c.latestMarks.set mark.symbol mark.markPrice }

/-- The cash and the positions at the latest marks. -/
def equity (c : Curve) : ℚ :=
  c.cash + c.positions.sumBy fun symbol quantity =>
    match c.latestMarks.get? symbol with
    | none => 0
    | some markPrice => quantity * markPrice

/-- One turn of the loop. -/
def step (c : Curve) (event : CurveEvent) : Except String Curve :=
  let c := c.apply event
  match c.positions.items.find? fun entry => entry.2 ≠ 0 ∧ c.latestMarks.get? entry.1 = none with
  | some entry => .error s!"missing mark while position is open: {entry.1}"
  | none =>
    let peak := max c.peak c.equity
    .ok { c with
      peak := peak
      maxDrawdown := max c.maxDrawdown (peak - c.equity) }

end Curve

/-- The marks `_equity_curve` starts with. -/
def marksAtStart (marks : List MarkObservation) (startedAt : ℚ) : Dict String ℚ :=
  (marks.takeWhile fun mark => mark.exchangeTime ≤ startedAt).foldl
    (fun latest mark => latest.set mark.symbol mark.markPrice) ∅

/-- `events` of `_equity_curve`, sorted. -/
def curveEvents (executions : List Execution) (marks : List MarkObservation)
    (funding : List FundingCashFlow)
    (startedAt endedAt : ℚ) : List CurveEvent :=
  (executions.map CurveEvent.execution ++ funding.map CurveEvent.funding ++
    (marks.filter fun mark => startedAt < mark.exchangeTime ∧ mark.exchangeTime ≤ endedAt).map
      CurveEvent.mark).insertionSort CurveEvent.Before

/-- `_equity_curve`: the cash at the end, and the largest drawdown. -/
def equityCurve (executions : List Execution) (marks : List MarkObservation)
    (funding : List FundingCashFlow)
    (symbols : List String) (startedAt endedAt : ℚ) : Except String (ℚ × ℚ) := do
  let latestMarks := marksAtStart marks startedAt
  let missing := (symbols.filter fun symbol =>
    latestMarks.get? symbol = none).insertionSort (· ≤ ·)
  ensure (missing = []) ("no mark at or before OOS start for: " ++ ",".intercalate missing)
  let curve ← (curveEvents executions marks funding startedAt endedAt).foldlM Curve.step
    ⟨latestMarks, ∅, 0, 0, 0⟩
  return (curve.cash, curve.maxDrawdown)

/-! ## Markouts -/

/-- `bisect.bisect_left` on times in order. -/
def bisectLeft (times : List ℚ) (target : ℚ) : ℕ :=
  (times.takeWhile fun time => time < target).length

/-- `_TWO_SIDED_95_T_CRITICAL`, from one degree of freedom on. -/
def twoSided95TCritical : List ℚ :=
  [12.706, 4.303, 3.182, 2.776, 2.571, 2.447, 2.365, 2.306, 2.262, 2.228, 2.201, 2.179, 2.160,
    2.145, 2.131, 2.120,
   2.110, 2.101, 2.093, 2.086, 2.080, 2.074, 2.069, 2.064, 2.060, 2.056, 2.052, 2.048, 2.045,
     2.042]

section Markouts

variable (N : Numerics)

/-- The time at which the markout of an execution is due. -/
def markoutTarget (execution : Execution) (horizonMs : ℕ) : ℚ :=
  N.round (execution.exchangeTime + N.round (horizonMs / 1000))

/-- The mark of the markout of an execution. -/
def markoutMark (marks : List MarkObservation) (horizonMs maxLagMs : ℕ) (execution : Execution) :
    Except String MarkObservation :=
  let target := markoutTarget N execution horizonMs
  let own := marks.filter fun mark => mark.symbol = execution.symbol
  match own[bisectLeft (own.map MarkObservation.exchangeTime) target]? with
  | none => .error s!"missing {horizonMs}ms markout for {execution.executionId}"
  | some mark =>
    if N.round (maxLagMs / 1000) < N.round (mark.exchangeTime - target) then
      .error s!"stale {horizonMs}ms markout for {execution.executionId}"
    else .ok mark

/-- `net_bps` of an execution at a mark. -/
def netBps (execution : Execution) (mark : MarkObservation) : ℚ :=
  let direction : ℚ := if execution.side = .buy then 1 else -1
  direction * (mark.markPrice - execution.price) / execution.price * 10000 -
    execution.commission / execution.notional * 10000

/-- The clusters of `_daily_cluster_lcb95`, in the order of the days. -/
def dailyClusters (observations : List (ℚ × ℚ)) : List (List ℚ) :=
  let clusters := observations.foldl (fun (clusters : Dict String (List ℚ)) observation =>
    clusters.set (N.date observation.1) (clusters.getD (N.date observation.1) [] ++
      [observation.2])) ∅
  (clusters.items.insertionSort fun a b => a.1 ≤ b.1).map Prod.snd

/-- `_daily_cluster_lcb95`: the mean, its lower bound and the number of days. -/
def dailyClusterLcb95 (observations : List (ℚ × ℚ)) (minimumClusters : ℕ) :
    Except String (ℚ × ℚ × ℕ) :=
  let dailyMeans := (dailyClusters N observations).map N.fmean
  let clusterCount := dailyMeans.length
  if clusterCount < minimumClusters then
    .error s!"markout evidence has too few independent UTC-day clusters: {clusterCount}<{minimumClusters}"
  else
    let mean := N.fmean dailyMeans
    let critical := N.round (twoSided95TCritical.getD (clusterCount - 2) 1.96)
    .ok (mean, N.round (mean -
      N.round (N.round (critical * N.stdev dailyMeans) / N.sqrt clusterCount)), clusterCount)

/-- The metrics of one horizon. -/
structure MarkoutMetrics where
  sampleCount : ℕ
  meanNetEdgeBps : ℚ
  netEdgeBpsLcb95 : ℚ
  clusterCount : ℕ
  maxMarkLagMs : ℕ
  deriving DecidableEq, Repr

/-- The metrics of the executions at their marks. -/
def horizonMetrics (executions : List Execution) (marks : List MarkObservation)
    (maxLagMs minClusters : ℕ) :
    Except String MarkoutMetrics :=
  let observations := List.zipWith (fun (execution : Execution) mark =>
    (execution.exchangeTime, N.round (netBps execution mark))) executions marks
  (dailyClusterLcb95 N observations minClusters).map fun bound =>
    ⟨observations.length, bound.1, bound.2.1, bound.2.2, maxLagMs⟩

/-- `_markout_metrics`. -/
def markoutMetrics (executions : List Execution) (marks : List MarkObservation)
    (horizonsMs : List ℕ)
    (maxLagMs minClusters : ℕ) : Except String (List (ℕ × MarkoutMetrics)) :=
  horizonsMs.mapM fun horizonMs => do
    let own ← executions.mapM (markoutMark N marks horizonMs maxLagMs)
    let metrics ← horizonMetrics N executions own maxLagMs minClusters
    return (horizonMs, metrics)

end Markouts

/-! ## The reconstruction -/

/-- `_quote_asset`. -/
def quoteAsset (symbol : String) : Except String String :=
  match ["USDT", "USDC", "BUSD", "FDUSD"].find? fun suffix =>
    suffix.toList.isSuffixOf symbol.toList with
  | some suffix => .ok suffix
  | none => .error s!"unsupported linear-contract quote asset for {symbol}"

/-- The evidence that is returned; the fixed texts are left out. -/
structure OosEvidence where
  deploymentId : String
  deploymentConfigSha256 : String
  omsJournal : OmsJournalIdentity
  marketJournal : MarketJournalIdentity
  requirements : Requirements
  trainingEndedAt : ℚ
  startedAt : ℚ
  endedAt : ℚ
  sampleCount : ℕ
  fillCount : ℕ
  makerFillFraction : ℚ
  rpiFillFraction : ℚ
  rpiCommissionRate : ℚ
  totalCommissionUsdt : ℚ
  totalBookedFeeUsdt : ℚ
  fundingPnlUsdt : ℚ
  netPnlUsdt : ℚ
  exchangeNetPnlUsdt : ℚ
  maxDrawdownUsdt : ℚ
  markout : List (ℕ × MarkoutMetrics)

/-- The fees of one execution of the window. -/
def checkFees (execution : Execution) : Except String Unit := do
  let expectedAsset ← quoteAsset execution.symbol
  ensure (execution.commissionAsset = expectedAsset)
    s!"unsupported commission asset for {execution.executionId}: {execution.commissionAsset}"
  ensure (execution.bookedFee = execution.commission)
    s!"booked fee differs from exchange fee for {execution.executionId}"

/-- `curve_marks`: the last mark of each symbol at the start, and the marks after it, in order.
-/
def curveMarks (marks : List MarkObservation) (symbols : List String) (startedTs endedTs : ℚ) :
    Except String (List MarkObservation) := do
  let before ← symbols.mapM fun symbol =>
    match (marks.filter fun mark => mark.symbol = symbol ∧
      mark.exchangeTime ≤ startedTs).getLast? with
    | none => .error s!"no mark at or before OOS start for: {symbol}"
    | some mark => .ok mark
  return (before ++ marks.filter fun mark => mark.symbol ∈ symbols ∧
    startedTs < mark.exchangeTime ∧
    mark.exchangeTime ≤ endedTs).insertionSort fun a b =>
      a.exchangeTime < b.exchangeTime ∨ (a.exchangeTime = b.exchangeTime ∧ a.symbol ≤ b.symbol)

/-- `reconstruct_oos_evidence`. -/
def reconstructOosEvidence (N : Numerics) (raw : RawEvidence)
    (deploymentId deploymentConfigSha256 : String)
    (symbols : List String) (trainingEnded started ended : ℚ) (requirements : Requirements) :
    Except String OosEvidence := do
  let symbols := symbols.map fun symbol => (Text.strip symbol).toUpper
  ensure (symbols ≠ [] ∧ symbols.Nodup) "configured symbols are invalid"
  ensure (trainingEnded < started ∧
    started < ended) "require training_ended_at < started_at < ended_at"
  let startedTs := N.round started
  let endedTs := N.round ended
  let offConfig := ((raw.executions.map Execution.symbol).filter fun symbol =>
    symbol ∉ symbols).dedup
  ensure (offConfig = [])
    ("OMS evidence contains off-config executions: " ++
      ",".intercalate (offConfig.insertionSort (· ≤ ·)))
  let startPositions := positionAt raw.executions startedTs
  requireFlat N startPositions symbols requirements.flatTolerance "start"
  let oosExecutions := raw.executions.filter fun execution =>
    startedTs ≤ execution.exchangeTime ∧ execution.exchangeTime ≤ endedTs
  ensure (oosExecutions ≠ []) "OOS window has no executions"
  let finalPositions := oosExecutions.foldl addExecution startPositions
  requireFlat N finalPositions symbols requirements.flatTolerance "end"
  ensure (∀ time ∈ raw.externalCashFlowTimes, ¬(startedTs ≤ time ∧ time ≤ endedTs))
    "OOS window contains an external account cash flow"
  let markoutMarks := raw.marks.filter fun mark => mark.symbol ∈ symbols ∧
    startedTs ≤ mark.exchangeTime ∧
    mark.exchangeTime ≤ N.round
    (N.round (endedTs + N.round (requirements.markoutHorizonsMs.foldr max 0 / 1000)) +
      N.round (requirements.maxMarkoutLagMs / 1000))
  let oosSampleCount := markoutMarks.countP fun mark =>
    startedTs ≤ mark.exchangeTime ∧ mark.exchangeTime ≤ endedTs
  ensure (oosSampleCount ≠ 0) "OOS window has no mark observations"
  let oosFunding := raw.fundingCashFlows.filter fun flow => startedTs ≤ flow.eventTime ∧
    flow.eventTime ≤ endedTs
  let makerCount := oosExecutions.countP Execution.isMaker
  let rpiCount := oosExecutions.countP fun execution =>
    execution.isRpi ∧ execution.timeInForce = "RPI" ∧ execution.orderType = "LIMIT"
  ensure (makerCount = oosExecutions.length) "OOS evidence contains a non-maker execution"
  ensure (rpiCount = oosExecutions.length) "OOS evidence contains a non-RPI execution"
  let totalNotional := (oosExecutions.map Execution.notional).sum
  let totalCommission := (oosExecutions.map Execution.commission).sum
  let totalBookedFee := (oosExecutions.map Execution.bookedFee).sum
  ensure (0 < totalNotional) "OOS execution notional is not positive"
  let _ ← oosExecutions.mapM checkFees
  ensure (totalCommission = 0 ∧ totalBookedFee = 0)
    "OOS RPI executions did not have exactly zero booked commission"
  let fundingTotal := (oosFunding.map FundingCashFlow.amount).sum
  let exchangeNetPnl := (oosExecutions.map Execution.realizedPnl).sum - totalCommission +
    fundingTotal
  let marks ← curveMarks raw.marks symbols startedTs endedTs
  let (reconstructedNetPnl,
    maxDrawdown) ← equityCurve oosExecutions marks oosFunding symbols startedTs endedTs
  ensure (|reconstructedNetPnl - exchangeNetPnl| ≤ requirements.pnlCrosscheckToleranceUsdt)
    ("exchange realized PnL does not match fill-ledger reconstruction: " ++
      s!"exchange={N.str exchangeNetPnl} reconstructed={N.str reconstructedNetPnl}")
  let markout ← markoutMetrics N oosExecutions markoutMarks requirements.markoutHorizonsMs
    requirements.maxMarkoutLagMs requirements.minUtcDayClusters
  return {
    deploymentId := deploymentId
    deploymentConfigSha256 := deploymentConfigSha256.toLower
    omsJournal := raw.omsIdentity
    marketJournal := raw.marketJournal
    requirements := requirements
    trainingEndedAt := trainingEnded
    startedAt := started
    endedAt := ended
    sampleCount := oosSampleCount
    fillCount := oosExecutions.length
    makerFillFraction := N.round (makerCount / oosExecutions.length)
    rpiFillFraction := N.round (rpiCount / oosExecutions.length)
    rpiCommissionRate := totalCommission / totalNotional
    totalCommissionUsdt := totalCommission
    totalBookedFeeUsdt := totalBookedFee
    fundingPnlUsdt := fundingTotal
    netPnlUsdt := reconstructedNetPnl
    exchangeNetPnlUsdt := exchangeNetPnl
    maxDrawdownUsdt := maxDrawdown
    markout := markout }

end ChronosHFT.Evidence
