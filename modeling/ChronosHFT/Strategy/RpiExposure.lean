import ChronosHFT.Lib.Dict
import ChronosHFT.Lib.Text
import ChronosHFT.Oms.Order

/-!
# RPI exposure

`alpha/rpi_intensity.py` and the evidence part of `strategy/glft.py`: how long an acknowledged
RPI quote rested at which depth, and how often it was filled there.

A quote is measured from the snapshot that acknowledges it to its terminal snapshot.  Every order
book adds the time since the last one to the depth the quote had, and every new trade is counted
at the depth the quote has.  Whatever makes the measurement doubtful *censors* it; the first
reason stays.  The terminal snapshot turns the measurement into a sample, which is committed to
the journal and, when it is not censored, added to the accumulator of its symbol.

`math.log` and the rounding to twelve digits are parameters of `Settings`.
-/

namespace ChronosHFT.Strategy.Rpi

open Oms

/-! ## Parameters and values -/

/-- The settings of the measurement. -/
structure Settings where
  /-- `rpi_depth_bin_width_bps` -/
  binWidth : ℚ := 1 / 2
  /-- `rpi_max_initial_book_age_seconds` -/
  maxInitialBookAge : ℚ := 5
  /-- `math.log(a / b) * 10_000.0` -/
  logBps : ℚ → ℚ → ℚ
  /-- `float(f"{value:.12g}")` -/
  twelveDigits : ℚ → ℚ := id
  twelveDigits_nonneg : ∀ value, 0 ≤ value → 0 ≤ twelveDigits value := by exact fun _ h => h

/-- The aggregate of one depth. -/
structure Bucket where
  exposureSeconds : ℚ := 0
  fillCount : ℕ := 0
  sampleCount : ℕ := 0
deriving DecidableEq, Repr

/-- `RPIExposureBin`. -/
structure ExposureBin where
  depthBps : ℚ
  exposureSeconds : ℚ
  fillCount : ℕ
  sampleCount : ℕ
deriving DecidableEq, Repr

/-- The first reason stays; reasons are not empty. -/
def note (reason : String) (condition : Bool) (text : String) : String :=
  if condition ∧ reason = "" then text else reason

/-! ## One order (`RPIOrderExposure`) -/

/-- `RPIOrderExposure`. -/
structure OrderExposure where
  acknowledgedAt : ℚ
  lastObservation : ℚ
  bins : Dict ℚ Bucket := ∅
  seenTradeIds : Finset String := ∅
  fillCount : ℕ := 0
  censorReason : String := ""
  currentDepthBin : Option ℚ

/-- `_quantized_depth`; `none` is a depth that is no number. -/
def quantizedDepth (settings : Settings) (depth : Option ℚ) : Option ℚ :=
  match depth with
  | none => none
  | some depth =>
    if depth < 0 then none
    else
      let quantized := ⌊depth / settings.binWidth + 1 / 2⌋ * settings.binWidth
      if quantized < 0 then none else some (settings.twelveDigits quantized)

namespace OrderExposure

/-- `RPIOrderExposure(..)`, for a positive acknowledgement time. -/
def init (settings : Settings) (acknowledgedAt : ℚ) (initialDepth : Option ℚ)
    (censorReason : String) : OrderExposure :=
  let current := quantizedDepth settings initialDepth
  { acknowledgedAt := acknowledgedAt
    lastObservation := acknowledgedAt
    censorReason := note censorReason current.isNone "invalid_initial_depth"
    currentDepthBin := current }

/-- `mark_censored`. -/
def markCensored (e : OrderExposure) (reason : String) : OrderExposure :=
  { e with censorReason := note e.censorReason true reason }

/-- `_accrue`; `false` is a failure. -/
def accrue (e : OrderExposure) (observedAt : ℚ) : OrderExposure × Bool :=
  match e.currentDepthBin with
  | none => (e.markCensored "exposure_without_depth", false)
  | some depth =>
    if e.censorReason ≠ "" then (e.markCensored "exposure_without_depth", false)
    else
      let duration := observedAt - e.lastObservation
      if duration ≤ 0 then (e.markCensored "invalid_exposure_duration", false)
      else
        let bucket := e.bins.getD depth {}
        ({ e with
           bins := e.bins.set depth
             { bucket with
               exposureSeconds := bucket.exposureSeconds + duration
               sampleCount := bucket.sampleCount + 1 }
           lastObservation := observedAt }, true)

/-- `observe_depth`. -/
def observeDepth (settings : Settings) (e : OrderExposure) (observedAt : ℚ) (depth : Option ℚ) :
    OrderExposure :=
  if e.censorReason ≠ "" then e
  else if observedAt ≤ 0 then e.markCensored "invalid_book_monotonic"
  else if observedAt < e.lastObservation then e.markCensored "non_monotonic_book_time"
  else
    match if e.lastObservation < observedAt then e.accrue observedAt else (e, true) with
    | (accrued, false) => accrued
    | (accrued, true) =>
      match quantizedDepth settings depth with
      | none => accrued.markCensored "invalid_contemporaneous_depth"
      | some next => { accrued with currentDepthBin := some next }

/-- `record_fill`. -/
def recordFill (e : OrderExposure) (tradeId : String) : OrderExposure :=
  let tradeId := Text.strip tradeId
  if e.censorReason ≠ "" then e
  else if tradeId = "" then e.markCensored "missing_trade_id"
  else if tradeId ∈ e.seenTradeIds then e
  else
    match e.currentDepthBin with
    | none => e.markCensored "fill_without_depth"
    | some depth =>
      let bucket := e.bins.getD depth {}
      { e with
        seenTradeIds := insert tradeId e.seenTradeIds
        bins := e.bins.set depth { bucket with fillCount := bucket.fillCount + 1 }
        fillCount := e.fillCount + 1 }

/-- The bins with exposure, by depth. -/
def exposureBins (e : OrderExposure) : List ExposureBin :=
  ((e.bins.items.filter fun item => decide (0 < item.2.exposureSeconds)).map fun item =>
    (⟨item.1, item.2.exposureSeconds, item.2.fillCount,
      item.2.sampleCount⟩ : ExposureBin)).insertionSort
      fun a b => a.depthBps ≤ b.depthBps

end OrderExposure

/-- `RPIOrderExposureResult`. -/
structure ExposureResult where
  censorReason : String
  terminalAt : ℚ
  fillCount : ℕ
  bins : List ExposureBin
deriving DecidableEq, Repr

/-- The exposure up to the end, and the time it ends at. -/
def OrderExposure.endAt (e : OrderExposure) (terminalAt : ℚ) : OrderExposure × ℚ :=
  if terminalAt ≤ 0 then (e.markCensored "invalid_terminal_monotonic", e.lastObservation)
  else if terminalAt < e.lastObservation then
    (e.markCensored "terminal_before_last_book", terminalAt)
  else if e.lastObservation < terminalAt then ((e.accrue terminalAt).1, terminalAt)
  else (e, terminalAt)

/-- `finish`. -/
def OrderExposure.finish (e : OrderExposure) (terminalAt : ℚ) : ExposureResult :=
  let ended := (e.endAt terminalAt).1
  let bins := ended.exposureBins
  let reason := note ended.censorReason bins.isEmpty "no_positive_exposure"
  let reason := note reason (decide ((bins.map ExposureBin.fillCount).sum ≠ ended.fillCount))
    "fill_without_positive_exposure"
  { censorReason := reason
    terminalAt := (e.endAt terminalAt).2
    fillCount := ended.fillCount
    bins := if reason = "" then bins else [] }

/-! ## The accumulator of a symbol (`RPIIntensityAccumulator`) -/

/-- `add_acked_bin`; `none` is a bin that is rejected. -/
def addAckedBin (acc : Dict ℚ Bucket) (bin : ExposureBin) : Option (Dict ℚ Bucket) :=
  if bin.depthBps < 0 ∨ bin.exposureSeconds ≤ 0 ∨ bin.sampleCount = 0 then none
  else
    let previous := acc.getD bin.depthBps {}
    some (acc.set bin.depthBps
      { exposureSeconds := previous.exposureSeconds + bin.exposureSeconds
        fillCount := previous.fillCount + bin.fillCount
        sampleCount := previous.sampleCount + bin.sampleCount })

/-- Add the bins of a sample, up to the first that is rejected. -/
def addBins (acc : Dict ℚ Bucket) : List ExposureBin → Dict ℚ Bucket
  | [] => acc
  | bin :: rest =>
    match addAckedBin acc bin with
    | none => acc
    | some added => addBins added rest

/-! ## The strategy (`glft.py`) -/

/-- What the measurement reads of `OrderStateSnapshot`. -/
structure Snapshot where
  clientOid : String
  exchangeOid : String := ""
  symbol : String
  status : OrderStatus
  /-- The side of the snapshot, or of the active intent. -/
  side : Option Side := some .buy
  price : ℚ
  volume : ℚ
  filledVolume : ℚ := 0
  updateTime : ℚ := 0
  updatedMonotonic : ℚ := 0
  /-- `is_rpi` of the snapshot, or of the active intent. -/
  isRpi : Bool := true
  recoveredFromJournal : Bool := false
deriving DecidableEq, Repr

/-- `_AcknowledgedRPIQuote`. -/
structure Quote where
  symbol : String
  clientOid : String
  exchangeOid : String
  side : Side
  price : ℚ
  quantity : ℚ
  acknowledgedAtTime : ℚ
  acknowledgedAtMonotonic : ℚ
  exposure : Option OrderExposure
  censorReason : String := ""
  seenTradeIds : Finset String := ∅

/-- `mark_censored`: the exposure is censored for the same reason. -/
def Quote.markCensored (quote : Quote) (reason : String) : Quote :=
  let reason := note quote.censorReason true reason
  { quote with
    censorReason := reason, exposure := quote.exposure.map fun e => e.markCensored reason }

/-- A committed `rpi_exposure_sample`, its constants left out. -/
structure Sample where
  symbol : String
  clientOid : String
  exchangeOid : String
  terminalStatus : OrderStatus
  side : Side
  price : ℚ
  quantity : ℚ
  ackTime : ℚ
  ackMonotonic : ℚ
  terminalTime : ℚ
  terminalMonotonic : ℚ
  exposureBins : List ExposureBin
  fillCount : ℕ
  censored : Bool
  censorReason : String
deriving DecidableEq, Repr

/-- The strategy, as far as it measures RPI exposure. -/
structure State where
  /-- `latest_rpi_mid` -/
  latestMid : Dict String ℚ := ∅
  /-- `latest_rpi_book_monotonic`; missing is minus infinity. -/
  latestBook : Dict String ℚ := ∅
  /-- `rpi_acknowledged_quotes` -/
  acknowledged : Dict String Quote := ∅
  /-- `rpi_intensity_accumulators` -/
  accumulators : Dict String (Dict ℚ Bucket) := ∅
  /-- The samples in the journal. -/
  samples : List Sample := []
  /-- Samples handed to the journal so far. -/
  attempts : ℕ := 0

/-- `_positive_snapshot_time`, on numbers that are finite. -/
def positive (value : ℚ) : ℚ := if 0 < value then value else 0

/-- `_rpi_depth_bps`; `none` is not a number. -/
def depthBps (settings : Settings) (side : Side) (price mid : ℚ) : Option ℚ :=
  if mid ≤ 0 ∨ price ≤ 0 then none
  else
    match side with
    | .buy => some (settings.logBps mid price)
    | .sell => some (settings.logBps price mid)

namespace State

/-- Why a quote cannot be measured from its first snapshot on. -/
def startReason (settings : Settings) (s : State) (snapshot : Snapshot) (reason : String) :
    String :=
  let ack := positive snapshot.updatedMonotonic
  let reason := note reason snapshot.recoveredFromJournal "recovered_order_clock_domain"
  let reason := note reason (decide (Text.strip snapshot.exchangeOid = ""))
    "missing_exchange_oid_at_rest_ack"
  let reason := note reason (decide (positive snapshot.price = 0 ∨ positive snapshot.volume = 0))
    "invalid_order_price_or_quantity"
  let reason := note reason (decide (ack = 0)) "missing_oms_ack_monotonic"
  match s.latestBook.get? snapshot.symbol with
  | none => note reason true "missing_pre_ack_orderbook"
  | some book =>
    if book ≤ 0 ∨ s.latestMid.getD snapshot.symbol 0 ≤ 0 then
      note reason true "missing_pre_ack_orderbook"
    else if ack ≠ 0 ∧ ack < book then note reason true "first_segment_not_observable"
    else if ack ≠ 0 ∧ settings.maxInitialBookAge < ack - book then
      note reason true "stale_pre_ack_orderbook"
    else reason

/-- The quote a first snapshot starts; `none` when the order is not measured. -/
def newQuote (settings : Settings) (s : State) (snapshot : Snapshot) (reason : String) :
    Option Quote :=
  if snapshot.isRpi = false then none
  else
    match snapshot.side with
    | none => none
    | some side =>
      let ack := positive snapshot.updatedMonotonic
      let price := positive snapshot.price
      let reason := s.startReason settings snapshot reason
      let exposure :=
        if ack = 0 then none
        else
          some (OrderExposure.init settings ack
            (depthBps settings side price (s.latestMid.getD snapshot.symbol 0)) reason)
      some
        { symbol := snapshot.symbol
          clientOid := snapshot.clientOid
          exchangeOid := Text.strip snapshot.exchangeOid
          side := side
          price := price
          quantity := positive snapshot.volume
          acknowledgedAtTime := positive snapshot.updateTime
          acknowledgedAtMonotonic := ack
          exposure := exposure
          censorReason := (exposure.map OrderExposure.censorReason).getD reason }

/-- `_start_rpi_exposure`. -/
def startExposure (settings : Settings) (s : State) (snapshot : Snapshot) (reason : String) :
    State :=
  if s.acknowledged.contains snapshot.clientOid then s
  else
    match s.newQuote settings snapshot reason with
    | none => s
    | some quote => { s with acknowledged := s.acknowledged.set snapshot.clientOid quote }

end State

/-- `mark_censored` under a condition. -/
def Quote.markIf (quote : Quote) (condition : Bool) (reason : String) : Quote :=
  if condition then quote.markCensored reason else quote

/-- The censoring a terminal snapshot adds before the exposure is finished. -/
def Quote.atTerminal (quote : Quote) (snapshot : Snapshot) : Quote :=
  let exchangeOid := Text.strip snapshot.exchangeOid
  let quote := quote.markIf snapshot.recoveredFromJournal "recovered_order_clock_domain"
  let quote := quote.markIf (decide (exchangeOid = "" ∨ exchangeOid ≠ quote.exchangeOid))
    "terminal_exchange_oid_mismatch"
  let quote := quote.markIf (decide (positive snapshot.updateTime = 0)) "missing_terminal_time"
  let quote := quote.markIf (decide (0 < snapshot.filledVolume ∧ quote.seenTradeIds = ∅))
    "fill_event_missing_before_terminal"
  quote.markIf (decide (snapshot.filledVolume ≤ 0 ∧ quote.seenTradeIds ≠ ∅))
    "fill_event_without_terminal_volume"

/-- The bins of a quote at its terminal snapshot, and why it is censored. -/
def Quote.finish (quote : Quote) (terminalMonotonic : ℚ) : List ExposureBin × String :=
  match quote.exposure with
  | none => ([], note quote.censorReason true "missing_exposure_clock")
  | some e =>
    let e := if quote.censorReason = "" then e else e.markCensored quote.censorReason
    let result := e.finish terminalMonotonic
    let reason := note quote.censorReason (decide (result.censorReason ≠ "")) result.censorReason
    if reason = "" ∧ result.fillCount ≠ quote.seenTradeIds.card then
      ([], "fill_count_not_attributed_to_depth")
    else (result.bins, reason)

/-- The sample of a quote at its terminal snapshot. -/
def Quote.sample (quote : Quote) (snapshot : Snapshot) : Sample :=
  let quote := quote.atTerminal snapshot
  let finished := quote.finish (positive snapshot.updatedMonotonic)
  { symbol := snapshot.symbol
    clientOid := snapshot.clientOid
    exchangeOid := quote.exchangeOid
    terminalStatus := snapshot.status
    side := quote.side
    price := quote.price
    quantity := quote.quantity
    ackTime := quote.acknowledgedAtTime
    ackMonotonic := quote.acknowledgedAtMonotonic
    terminalTime := positive snapshot.updateTime
    terminalMonotonic := positive snapshot.updatedMonotonic
    exposureBins := finished.1
    fillCount := quote.seenTradeIds.card
    censored := decide (finished.2 ≠ "")
    censorReason := finished.2 }

namespace State

variable (settings : Settings) (commits : ℕ → Bool)

/-- `record_strategy_evidence` of a sample: a commit that fails leaves nothing behind. -/
def commit (s : State) (sample : Sample) : State :=
  let attempted := { s with attempts := s.attempts + 1 }
  if commits s.attempts = false then attempted
  else if sample.censored then { attempted with samples := s.samples ++ [sample] }
  else
    { attempted with
      samples := s.samples ++ [sample]
      accumulators := s.accumulators.set sample.symbol
        (addBins (s.accumulators.getD sample.symbol ∅) sample.exposureBins) }

/-- `_terminal_rpi_exposure`. -/
def terminalExposure (s : State) (snapshot : Snapshot) : State :=
  match s.acknowledged.get? snapshot.clientOid with
  | some quote =>
    { s with acknowledged := s.acknowledged.erase snapshot.clientOid }.commit commits
      (quote.sample snapshot)
  | none =>
    match s.newQuote settings snapshot "missing_pending_ack_snapshot" with
    | none => s
    | some quote => s.commit commits (quote.sample snapshot)

/-- `_record_rpi_order_snapshot`, for a live strategy. -/
def onOrder (s : State) (snapshot : Snapshot) : State :=
  if snapshot.status = .pendingAck then s.startExposure settings snapshot ""
  else
    let started :=
      if snapshot.status = .new ∨ snapshot.status = .partiallyFilled then
        s.startExposure settings snapshot "missing_pending_ack_snapshot"
      else s
    if snapshot.status ∈ [OrderStatus.filled, .cancelled, .rejected, .expired] then
      started.terminalExposure settings commits snapshot
    else if snapshot.status = .rejectedLocally then
      { started with acknowledged := started.acknowledged.erase snapshot.clientOid }
    else started

/-- `on_trade`, for a live strategy. -/
def onTrade (s : State) (orderId tradeId : String) : State :=
  match s.acknowledged.get? orderId with
  | none => s
  | some quote =>
    let id := Text.strip tradeId
    let counted :=
      if id = "" then quote.markCensored "missing_trade_id"
      else if id ∈ quote.seenTradeIds then quote
      else
        { quote with
          seenTradeIds := insert id quote.seenTradeIds
          exposure := quote.exposure.map fun e => e.recordFill id }
    { s with acknowledged := s.acknowledged.set orderId counted }

/-- Every acknowledged quote of a symbol changed. -/
def mapQuotes (s : State) (symbol : String) (f : Quote → Quote) : State :=
  { s with
    acknowledged := s.acknowledged.mapValues fun quote =>
      if quote.symbol = symbol then f quote else quote }

/-- `_observe_rpi_orderbook`; a book without a monotonic time is `none`. -/
def observeOrderbook (s : State) (symbol : String) (mid : ℚ) (bookMonotonic : Option ℚ)
    (callbackMonotonic : ℚ) : State :=
  match bookMonotonic with
  | none => s.mapQuotes symbol fun quote => quote.markCensored "unreliable_orderbook_monotonic"
  | some book =>
    if callbackMonotonic + 1 / 1000000 < book then
      s.mapQuotes symbol fun quote => quote.markCensored "unreliable_orderbook_monotonic"
    else if (s.latestBook.get? symbol).any (fun previous => decide (book < previous)) then
      s.mapQuotes symbol fun quote => quote.markCensored "non_monotonic_orderbook_stream"
    else
      let observed := s.mapQuotes symbol fun quote =>
        { quote with
          exposure := quote.exposure.map fun e =>
            e.observeDepth settings book (depthBps settings quote.side quote.price mid) }
      { observed with
        latestMid := observed.latestMid.set symbol mid
        latestBook := observed.latestBook.set symbol book }

end State

end ChronosHFT.Strategy.Rpi
