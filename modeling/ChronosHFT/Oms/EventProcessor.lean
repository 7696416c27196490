import ChronosHFT.Oms.ExecutionIdentity
import ChronosHFT.Oms.Exposure
import ChronosHFT.Oms.Journal

/-!
# Exchange events

`oms/exchange_event_processor.py`: one exchange order update is normalised,
matched to an order, screened, and applied.

The update goes through in two halves.  `judge` makes every decision that can
end the call before anything is booked; a refused update changes no ledger.
`applyJudged` then carries out the update, and for a fill it does so in the
order of the source: the execution is journaled and its identity remembered
**first**, then the order books the fill, then the strategy ledger, the net
position and the account follow, and the open quantities are recomputed last.
An error in the middle is caught by the caller and what has been done stays
done; so every stage returns the state it leaves behind.

Numbers arrive as whatever the transport delivered (`RawNum`); the normaliser
refuses what is not a finite number.  The journal accepts what is written to it,
and the fee schedule and the clock are arguments (`EventEnv`).
-/

namespace ChronosHFT.Oms

/-- What `float(x)` makes of a value: a finite number, a NaN or an infinity, or a
`TypeError`/`ValueError`. -/
inductive RawNum where
  | finite (value : ℚ)
  | notFinite
  | notNumeric
deriving DecidableEq, Repr

/-- `ExchangeOrderUpdate` as it arrives. -/
structure RawOrderUpdate where
  clientOid : String
  exchangeOid : String
  symbol : String
  status : String
  filledQty : RawNum
  filledPrice : RawNum
  cumFilledQty : RawNum
  updateTime : RawNum
  receivedTimestamp : RawNum := .finite 0
  receivedMonotonic : RawNum := .finite 0
  dispatchTimestamp : RawNum := .finite 0
  dispatchMonotonic : RawNum := .finite 0
  correctedReceivedTimestamp : RawNum := .finite 0
  commission : Option RawNum := none
  realizedPnl : Option RawNum := none
  clockOffsetMs : Option RawNum := none
  seq : RawNum := .finite 0
  tradeId : RawNum := .finite (-1)
  commissionAsset : String := ""
  isMaker : Option Bool := none
  orderType : String := ""
  timeInForce : String := ""
deriving DecidableEq, Repr

/-- `ExchangeOrderUpdate` after `_normalize_exchange_order_update_numbers`. -/
structure ExchangeOrderUpdate where
  clientOid : String
  exchangeOid : String
  symbol : String
  status : String
  filledQty : ℚ
  filledPrice : ℚ
  cumFilledQty : ℚ
  updateTime : ℚ
  seq : ℤ := 0
  tradeId : ℤ := -1
  commission : Option ℚ := none
  commissionAsset : String := ""
  realizedPnl : Option ℚ := none
  isMaker : Option Bool := none
  orderType : String := ""
  timeInForce : String := ""
deriving DecidableEq, Repr

namespace RawOrderUpdate

/-- One entry of `_ORDER_UPDATE_NONNEGATIVE_FLOAT_FIELDS`. -/
def nonnegative (field : String) : RawNum → Except String ℚ
  | .notNumeric => .error (field ++ ":not_numeric")
  | .notFinite => .error (field ++ ":not_finite")
  | .finite value => if value < 0 then .error (field ++ ":negative") else .ok value

/-- One entry of `_ORDER_UPDATE_OPTIONAL_FLOAT_FIELDS`. -/
def optional (field : String) : Option RawNum → Except String (Option ℚ)
  | none => .ok none
  | some .notNumeric => .error (field ++ ":not_numeric")
  | some .notFinite => .error (field ++ ":not_finite")
  | some (.finite value) => .ok (some value)

/-- `seq` and `trade_id`: a whole number, not below its minimum. -/
def integer (field : String) (minimum : ℤ) : RawNum → Except String ℤ
  | .finite value =>
    if value.den ≠ 1 then .error (field ++ ":not_integer")
    else if value.num < minimum then .error (field ++ ":below_minimum")
    else .ok value.num
  | _ => .error (field ++ ":not_integer")

/-- `update.status` as `_apply_event` rewrites it. -/
def statusText (raw : RawOrderUpdate) : String :=
  if raw.status.toUpper = "EXPIRED_IN_MATCH" then "EXPIRED" else raw.status.toUpper

/-- `_normalize_exchange_order_update_numbers`; the error is the detail text. -/
def normalize (raw : RawOrderUpdate) : Except String ExchangeOrderUpdate := do
  let filledQty ← nonnegative "filled_qty" raw.filledQty
  let filledPrice ← nonnegative "filled_price" raw.filledPrice
  let cumFilledQty ← nonnegative "cum_filled_qty" raw.cumFilledQty
  let updateTime ← nonnegative "update_time" raw.updateTime
  let _ ← nonnegative "received_timestamp" raw.receivedTimestamp
  let _ ← nonnegative "received_monotonic" raw.receivedMonotonic
  let _ ← nonnegative "dispatch_timestamp" raw.dispatchTimestamp
  let _ ← nonnegative "dispatch_monotonic" raw.dispatchMonotonic
  let _ ← nonnegative "corrected_received_timestamp" raw.correctedReceivedTimestamp
  let commission ← optional "commission" raw.commission
  let realizedPnl ← optional "realized_pnl" raw.realizedPnl
  let _ ← optional "clock_offset_ms" raw.clockOffsetMs
  let seq ← integer "seq" 0 raw.seq
  let tradeId ← integer "trade_id" (-1) raw.tradeId
  if cumFilledQty + max qtyEps (|cumFilledQty| * qtyEps) < filledQty then
    throw "filled_qty:exceeds_cumulative"
  return { clientOid := raw.clientOid
           exchangeOid := raw.exchangeOid
           symbol := raw.symbol
           status := raw.statusText
           filledQty := filledQty
           filledPrice := filledPrice
           cumFilledQty := cumFilledQty
           updateTime := updateTime
           seq := seq
           tradeId := tradeId
           commission := commission
           commissionAsset := raw.commissionAsset
           realizedPnl := realizedPnl
           isMaker := raw.isMaker
           orderType := raw.orderType
           timeInForce := raw.timeInForce }

end RawOrderUpdate

/-- The statuses `_SUPPORTED_ORDER_UPDATE_STATUSES` lists. -/
inductive UpdateStatus where
  | new
  | partiallyFilled
  | filled
  | canceled
  | expired
  | rejected
deriving DecidableEq, Repr

namespace UpdateStatus

/-- The status a text spells, if it is supported. -/
def ofText? (text : String) : Option UpdateStatus :=
  if text = "NEW" then some new
  else if text = "PARTIALLY_FILLED" then some partiallyFilled
  else if text = "FILLED" then some filled
  else if text = "CANCELED" then some canceled
  else if text = "EXPIRED" then some expired
  else if text = "REJECTED" then some rejected
  else none

/-- `FILLED` or `PARTIALLY_FILLED`. -/
def isFill : UpdateStatus → Bool
  | partiallyFilled | filled => true
  | _ => false

end UpdateStatus

/-! ## State -/

/-- The part of the OMS that exchange events read and write. -/
structure OmsState where
  /-- `gateway_name`, upper case. -/
  venue : String
  orders : Dict String Order := ∅
  /-- `exchange_id_map`; the mapped order object is named by its client id. -/
  exchangeIdMap : Dict String String := ∅
  executionIds : Finset String := ∅
  restConfirmedExecutionIds : Finset String := ∅
  tradeCursors : Dict String ℤ := ∅
  /-- `terminated_oid_queue`, oldest first. -/
  terminatedOids : List String := []
  /-- `TOMBSTONE_MAX`. -/
  tombstoneMax : ℕ := 10000
  exposure : Exposure := {}
  balance : ℚ := 0
  positionStateEventTime : Dict String ℚ := ∅
  exchangePositionEventTime : Dict String ℚ := ∅
  accountStateEventTime : ℚ := 0
  exchangeAccountEventTime : ℚ := 0
  lifecycle : LifecycleState := .live
  lastFreezeReason : String := ""
  /-- `_pending_reconcile_requests`: reason and suspicious order id. -/
  reconcileRequests : List (String × String) := []
  /-- Symbols this module asked the guards to freeze, with the reason. -/
  symbolFreezeRequests : List (String × String) := []
  journal : List JournalRecord := []

/-- What an event reads besides the state. -/
structure EventEnv where
  now : ℚ
  /-- `_get_fee_rate`. -/
  feeRate : Order → Option Bool → ℚ
  /-- `_extract_quote_asset`. -/
  quoteAsset : String → String

namespace OmsState

/-- Append a record to the journal. -/
def log (s : OmsState) (record : JournalRecord) : OmsState :=
  { s with journal := s.journal ++ [record] }

/-- `_audit` with a kind the rebuilder ignores. -/
def audit (s : OmsState) (kind : String) : OmsState := s.log (.other kind)

/-- The order object behind a client id changed. -/
def putOrder (s : OmsState) (key : String) (order : Order) : OmsState :=
  { s with orders := s.orders.set key order }

/-- `_remember_terminated_oid`. -/
def rememberTerminatedOid (s : OmsState) (oid : String) : OmsState :=
  if oid = "" ∨ oid ∈ s.terminatedOids then s
  else if s.tombstoneMax ≤ s.terminatedOids.length then
    { s with terminatedOids := s.terminatedOids.tail ++ [oid] }
  else
    { s with terminatedOids := s.terminatedOids ++ [oid] }

/-- `_write_tombstone`. -/
def writeTombstone (s : OmsState) (order : Order) : OmsState :=
  (s.rememberTerminatedOid order.clientOid).rememberTerminatedOid order.exchangeOid

/-- `_queue_reconcile_request_locked`, while the OMS is running. -/
def queueReconcile (s : OmsState) (reason suspiciousOid : String) : OmsState :=
  if s.lifecycle = .halted then s
  else
    let queued :=
      if (reason, suspiciousOid) ∈ s.reconcileRequests then s
      else { s with reconcileRequests := s.reconcileRequests ++ [(reason, suspiciousOid)] }
    if s.lifecycle = .reconciling then queued
    else { queued with lifecycle := .frozen, lastFreezeReason := reason }

/-- The freeze shared by the quarantine functions. -/
def freezeUnlessSettling (s : OmsState) (reason : String) : OmsState :=
  if s.lifecycle = .halted ∨ s.lifecycle = .reconciling then s
  else { s with lifecycle := .frozen,
                lastFreezeReason := reason }.log (.lifecycle .frozen reason)

/-- `self.orders.get(client_oid)`, then `self.exchange_id_map.get(exchange_oid)`;
the answer carries the client id the order is filed under. -/
def findOrder (s : OmsState) (u : ExchangeOrderUpdate) : Option (String × Order) :=
  match s.orders.get? u.clientOid with
  | some order => some (u.clientOid, order)
  | none =>
    if u.exchangeOid = "" then none
    else
      match s.exchangeIdMap.get? u.exchangeOid with
      | none => none
      | some key => (s.orders.get? key).map fun order => (key, order)

end OmsState

/-! ## Decisions before anything is booked -/

/-- `gap_detail`: why a reported fill cannot be booked from this message. -/
inductive GapDetail where
  /-- `terminal_snapshot_ahead_of_trade_history` -/
  | terminalSnapshotAhead
  /-- `missing_trade_id` -/
  | missingTradeId
  /-- `missing_last_fill_quantity` -/
  | missingLastFillQuantity
  /-- `missing_last_fill_price` -/
  | missingLastFillPrice
  /-- `cumulative_delta_exceeds_last_fill:{delta}!={filled}` -/
  | cumulativeDeltaExceedsLastFill (delta filledQty : ℚ)
deriving DecidableEq, Repr

/-- How `_apply_event` decides to treat an update. -/
inductive Judgement where
  /-- A terminal update for an order that is already tombstoned. -/
  | lateDuplicate (oid : String)
  /-- No order is known under either id. -/
  | unknownOrder (tombstonedOid : String)
  | staleSeq
  | staleTime
  | unsupportedStatus (label : String)
  | exchangeOidMismatch (order : Order)
  | cumFillRegression (key : String) (order : Order)
  | executionGap (key : String) (order : Order) (delta : ℚ) (detail : GapDetail)
  | duplicateExecution (key : String) (order : Order)
  | proceed (key : String) (order : Order) (status : UpdateStatus)
deriving DecidableEq, Repr

/-- `incoming_delta`. -/
def incomingDelta (order : Order) (u : ExchangeOrderUpdate) : ℚ :=
  u.cumFilledQty - order.filledVolume

/-- The chain of gap tests. -/
def gapDetail (u : ExchangeOrderUpdate) (status : UpdateStatus) (delta : ℚ) : Option GapDetail :=
  if status.isFill = false then some .terminalSnapshotAhead
  else if u.tradeId < 0 then some .missingTradeId
  else if u.filledQty ≤ 0 then some .missingLastFillQuantity
  else if u.filledPrice ≤ 0 then some .missingLastFillPrice
  else if max qtyEps (|delta| * qtyEps) < |delta - u.filledQty| then
    some (.cumulativeDeltaExceedsLastFill delta u.filledQty)
  else none

namespace OmsState

/-- `_execution_id` for a message with a trade id; the gap tests have refused every
other message before the identity is asked for. -/
def executionId (s : OmsState) (order : Order) (u : ExchangeOrderUpdate) : String :=
  executionIdOf s.venue order.intent.symbol u.tradeId.toNat

/-- `tombstoned_oid`. -/
def tombstonedOid (s : OmsState) (u : ExchangeOrderUpdate) : String :=
  if u.clientOid ≠ "" ∧ u.clientOid ∈ s.terminatedOids then u.clientOid
  else if u.exchangeOid ≠ "" ∧ u.exchangeOid ∈ s.terminatedOids then u.exchangeOid
  else ""

/-- `update.order_type` or `update.time_in_force` contradicts the order. -/
def semanticMismatch (order : Order) (u : ExchangeOrderUpdate) : Bool :=
  decide ((u.orderType ≠ "" ∧ u.orderType ≠ order.intent.orderType) ∨
    (u.timeInForce ≠ "" ∧ order.intent.orderType = "LIMIT" ∧
      u.timeInForce ≠ order.intent.timeInForce))

/-- Every decision of `_apply_event` up to the booking. -/
def judge (s : OmsState) (u : ExchangeOrderUpdate) : Judgement :=
  match s.findOrder u with
  | none =>
    if s.tombstonedOid u ≠ "" ∧ u.status ∈ ["CANCELED", "EXPIRED", "REJECTED"] ∧
        u.cumFilledQty ≤ qtyEps ∧ u.filledQty ≤ qtyEps then
      .lateDuplicate (s.tombstonedOid u)
    else .unknownOrder (s.tombstonedOid u)
  | some (key, order) =>
    if u.seq ≠ 0 ∧ u.seq ≤ order.lastUpdateSeq then .staleSeq
    else if u.seq = 0 ∧ u.updateTime ≠ 0 ∧ order.lastExchangeUpdateTime ≠ 0 ∧
        u.updateTime + fillEps < order.lastExchangeUpdateTime ∧
        u.cumFilledQty ≤ order.filledVolume + qtyEps then .staleTime
    else
      match UpdateStatus.ofText? u.status with
      | none =>
        .unsupportedStatus
          (String.ofList ((if u.status = "" then "EMPTY" else u.status).toList.take 64))
      | some status =>
        if u.exchangeOid ≠ "" ∧ order.exchangeOid ≠ "" ∧ order.exchangeOid ≠ u.exchangeOid then
          .exchangeOidMismatch order
        else if u.cumFilledQty + qtyEps < order.filledVolume then
          .cumFillRegression key order
        else if qtyEps < incomingDelta order u then
          match gapDetail u status (incomingDelta order u) with
          | some detail => .executionGap key order (incomingDelta order u) detail
          | none =>
            if s.executionId order u ∈ s.executionIds then .duplicateExecution key order
            else .proceed key order status
        else .proceed key order status

end OmsState

/-! ## Booking -/

/-- The `ValueError`s that end the booking of an update. -/
inductive BookingError where
  | order (error : OrderError)
  | ledger (error : LedgerError)
deriving DecidableEq, Repr

/-- `_get_fill_commission`. -/
def fillCommission (env : EventEnv) (u : ExchangeOrderUpdate) (order : Order)
    (fillNotional : ℚ) : ℚ :=
  match u.commission with
  | none => fillNotional * env.feeRate order u.isMaker
  | some commission =>
    let asset :=
      (if u.commissionAsset = "" then env.quoteAsset order.intent.symbol
        else u.commissionAsset).toUpper
    if asset ∈ ["", "USDT", "USDC", "BUSD", "FDUSD"] then commission
    else fillNotional * env.feeRate order u.isMaker

namespace OmsState

/-- The payload `_record_execution` journals. -/
def executionRecord (s : OmsState) (order : Order) (u : ExchangeOrderUpdate)
    (fillQty fee : ℚ) : ExecutionRecord where
  executionId := s.executionId order u
  clientOid := order.clientOid
  exchangeOid := if u.exchangeOid = "" then order.exchangeOid else u.exchangeOid
  strategyId := order.intent.strategyId
  symbol := order.intent.symbol
  side := order.intent.side.value
  fillQty := fillQty
  fillPrice := u.filledPrice
  cumFilledQty := u.cumFilledQty
  exchangeStatus := u.status
  exchangeTime := u.updateTime
  tradeId := u.tradeId
  commission := u.commission
  bookedFee := fee
  realizedPnl := u.realizedPnl
  preStatus := order.status.value

/-- `_record_execution`: the record is committed and the identity remembered. -/
def recordExecution (s : OmsState) (order : Order) (u : ExchangeOrderUpdate)
    (fillQty fee : ℚ) : OmsState :=
  { s.log (.execution (s.executionRecord order u fillQty fee)) with
    executionIds := insert (s.executionId order u) s.executionIds }

/-- `position_already_synced`: an account update at or after the fill has already
set the position. -/
def positionAlreadySynced (s : OmsState) (symbol : String) (u : ExchangeOrderUpdate) : Bool :=
  decide (u.updateTime ≠ 0 ∧ u.updateTime ≤ s.exchangePositionEventTime.getD symbol 0 + fillEps)

/-- `account_already_synced`. -/
def accountAlreadySynced (s : OmsState) (u : ExchangeOrderUpdate) : Bool :=
  decide (u.updateTime ≠ 0 ∧ u.updateTime ≤ s.exchangeAccountEventTime + fillEps)

/-- The net position after a fill, and its realised profit: an account update may
have covered the fill already. -/
def bookPosition (s : OmsState) (order : Order) (u : ExchangeOrderUpdate) (delta : ℚ) :
    Except LedgerError (OmsState × ℚ) :=
  let symbol := order.intent.symbol
  if s.positionAlreadySynced symbol u then
    .ok (s.audit "fill_position_already_covered", 0)
  else
    match s.exposure.onFill symbol order.intent.side delta u.filledPrice with
    | .error err => .error err
    | .ok (exposure, pnl) =>
      .ok ({ s with
             exposure := exposure
             positionStateEventTime :=
               if u.updateTime ≠ 0 then
                 s.positionStateEventTime.set symbol
                   (max (s.positionStateEventTime.getD symbol 0) u.updateTime)
               else s.positionStateEventTime }, pnl)

/-- The residual of the symbol's position is booked to `exchange_recovery`. -/
def reconcileStrategy (s : OmsState) (symbol : String) : OmsState :=
  { s with
    exposure := s.exposure.reconcileStrategyPosition symbol
      (s.exposure.netPositions.getD symbol 0) (s.exposure.avgPrices.getD symbol 0) }

/-- The account balance after a fill. -/
def bookBalance (s : OmsState) (u : ExchangeOrderUpdate) (localPnl fee : ℚ) : OmsState :=
  if s.accountAlreadySynced u then s.audit "fill_account_already_covered"
  else
    { s with
      balance := s.balance + u.realizedPnl.getD localPnl - fee
      accountStateEventTime :=
        if u.updateTime ≠ 0 then max s.accountStateEventTime u.updateTime
        else s.accountStateEventTime }

/-- The fill of an update that carries one: execution, order, strategy ledger,
position, residual, account, in this order. -/
def bookFill (env : EventEnv) (s : OmsState) (key : String) (order : Order)
    (u : ExchangeOrderUpdate) : OmsState × Except BookingError Bool :=
  let delta := incomingDelta order u
  let fee := fillCommission env u order (delta * u.filledPrice)
  let recorded := s.recordExecution order u delta fee
  match order.addFill env.now delta u.filledPrice
      { exchangeStatus := u.status, updateTime := u.updateTime, seq := u.seq } with
  | (after, .error err) => (recorded.putOrder key after, .error (.order err))
  | (after, .ok hadFill) =>
    let ordered := recorded.putOrder key after
    match ordered.exposure.onStrategyFill order.intent.strategyId order.intent.symbol
        order.intent.side delta u.filledPrice with
    | .error err => (ordered, .error (.ledger err))
    | .ok (exposure, _) =>
      let attributed := { ordered with exposure := exposure }
      match attributed.bookPosition order u delta with
      | .error err => (attributed, .error (.ledger err))
      | .ok (positioned, pnl) =>
        ((positioned.reconcileStrategy order.intent.symbol).bookBalance u pnl fee,
          .ok hadFill)

/-- A message that reports a fill status: the fill if there is one, then the
completion of a `FILLED` message. -/
def applyFillUpdate (env : EventEnv) (s : OmsState) (key : String) (order : Order)
    (u : ExchangeOrderUpdate) (complete : Bool) : OmsState × Except BookingError Bool :=
  let (booked, result) :=
    if qtyEps < incomingDelta order u then s.bookFill env key order u
    else
      (s.putOrder key (order.noteExchangeUpdate env.now
        { exchangeStatus := u.status, updateTime := u.updateTime, seq := u.seq,
          exchangeOid := u.exchangeOid }), .ok false)
  match result with
  | .error err => (booked, .error err)
  | .ok hadFill =>
    if complete then
      match booked.orders.get? key with
      | none => (booked, .ok hadFill)
      | some current =>
        match current.markFilled env.now u.updateTime u.seq with
        | (after, .error err) => (booked.putOrder key after, .error (.order err))
        | (after, .ok _) => ((booked.putOrder key after).writeTombstone after, .ok hadFill)
    else (booked, .ok hadFill)

/-- A status change without a fill: the order moves, and a terminal one is
tombstoned. -/
def applyMove (s : OmsState) (key : String) (moved : Order × Except OrderError Bool)
    (after : OmsState → OmsState) : OmsState × Except BookingError Bool :=
  match moved with
  | (order, .error err) => (s.putOrder key order, .error (.order err))
  | (order, .ok _) => (after (s.putOrder key order), .ok false)

/-- The `try` block of `_apply_event`. -/
def applyStatus (env : EventEnv) (s : OmsState) (key : String) (order : Order)
    (u : ExchangeOrderUpdate) : UpdateStatus → OmsState × Except BookingError Bool
  | .new =>
    s.applyMove key (order.markNew env.now u.exchangeOid u.updateTime u.seq) fun next =>
      if u.exchangeOid = "" then next
      else { next with exchangeIdMap := next.exchangeIdMap.set u.exchangeOid key }
  | .canceled =>
    s.applyMove key (order.markCancelled env.now u.updateTime u.seq u.status)
      fun next => next.writeTombstone order
  | .expired =>
    s.applyMove key (order.markExpired env.now u.updateTime u.seq)
      fun next => next.writeTombstone order
  | .rejected =>
    s.applyMove key (order.markRejected env.now "exchange_rejected" u.updateTime u.seq u.status)
      fun next => next.writeTombstone order
  | .partiallyFilled => s.applyFillUpdate env key order u false
  | .filled => s.applyFillUpdate env key order u true

/-- What follows the `try` block: the open quantities are recomputed and a changed
order is journaled.  After an error only a reconcile is queued. -/
def finishUpdate (previous : Order) (key : String) :
    OmsState × Except BookingError Bool → OmsState
  | (s, .error _) =>
    (s.audit "invalid_transition").queueReconcile ("Invalid transition " ++ previous.clientOid)
      previous.clientOid
  | (s, .ok hadFill) =>
    let refreshed := { s with exposure := s.exposure.updateOpenOrders s.orders }
    match refreshed.orders.get? key with
    | none => refreshed
    | some order =>
      if order.status ≠ previous.status ∨ hadFill = true then
        refreshed.log (.orderSnapshot order.toRecord "exchange_update")
      else refreshed

/-- The audit and the guard request of a semantic mismatch. -/
def noteMismatch (s : OmsState) (order : Order) (u : ExchangeOrderUpdate) : OmsState :=
  if semanticMismatch order u then
    let reason := "exchange_order_semantics_mismatch:" ++ order.clientOid
    { s.audit "exchange_order_semantics_mismatch" with
      symbolFreezeRequests := s.symbolFreezeRequests ++ [(order.intent.symbol.toUpper, reason)] }
  else s

/-- `_quarantine_invalid_order_update_locked`. -/
def quarantineInvalid (s : OmsState) (clientOid exchangeOid symbol detail : String) : OmsState :=
  let suspicious := if clientOid = "" then exchangeOid else clientOid
  let reason := "execution_truth:" ++ (if symbol = "" then "UNKNOWN" else symbol.toUpper) ++
    ":" ++
    (if suspicious = "" then "UNKNOWN" else suspicious) ++ ":invalid_update:" ++ detail
  ((s.audit "invalid_exchange_order_update").freezeUnlessSettling reason).queueReconcile
    ("Invalid exchange order update: " ++ detail) suspicious

/-- `_quarantine_execution_gap_locked`. -/
def quarantineGap (s : OmsState) (order : Order) (label : String) : OmsState :=
  let reason := "execution_truth:" ++ order.intent.symbol ++ ":" ++ order.clientOid ++ ":" ++
    label
  ((s.audit "execution_truth_gap").freezeUnlessSettling reason).queueReconcile
    ("Unverified execution gap " ++ order.clientOid) order.clientOid

/-- The journal text of a gap, without the numbers of the last kind. -/
def gapLabel : GapDetail → String
  | .terminalSnapshotAhead => "terminal_snapshot_ahead_of_trade_history"
  | .missingTradeId => "missing_trade_id"
  | .missingLastFillQuantity => "missing_last_fill_quantity"
  | .missingLastFillPrice => "missing_last_fill_price"
  | .cumulativeDeltaExceedsLastFill .. => "cumulative_delta_exceeds_last_fill"

/-- Carry out a judgement. -/
def applyJudged (env : EventEnv) (s : OmsState) (u : ExchangeOrderUpdate) :
    Judgement → OmsState
  | .lateDuplicate _ => s.audit "late_duplicate_ignored"
  | .unknownOrder tombstoned =>
    let suspicious := if u.clientOid = "" then u.exchangeOid else u.clientOid
    let noted := if tombstoned = "" then s else s.audit "late_tombstone_truth_conflict"
    (noted.audit "unknown_order_update").queueReconcile ("Unknown Order " ++
      suspicious) suspicious
  | .staleSeq => s.audit "stale_update_ignored"
  | .staleTime => s.audit "stale_exchange_time_update_ignored"
  | .unsupportedStatus label =>
    (s.audit "unhandled_exchange_status").quarantineInvalid u.clientOid u.exchangeOid u.symbol
      ("status:unsupported:" ++ label)
  | .exchangeOidMismatch order =>
    (s.audit "exchange_oid_mismatch").queueReconcile
      ("Exchange OID mismatch " ++ order.clientOid) order.clientOid
  | .cumFillRegression _ order =>
    ((s.noteMismatch order u).audit "cum_fill_regression").queueReconcile
      ("Cum fill regression " ++ order.clientOid) order.clientOid
  | .executionGap _ order _ detail =>
      (s.noteMismatch order u).quarantineGap order (gapLabel detail)
  | .duplicateExecution _ order => (s.noteMismatch order u).audit "duplicate_execution_ignored"
  | .proceed key order status =>
    finishUpdate order key ((s.noteMismatch order u).applyStatus env key order u status)

/-- `_apply_event` on an order update. -/
def applyEvent (env : EventEnv) (s : OmsState) (raw : RawOrderUpdate) : OmsState :=
  match raw.normalize with
  | .error detail => s.quarantineInvalid raw.clientOid raw.exchangeOid raw.symbol detail
  | .ok u => s.applyJudged env u (s.judge u)

end OmsState

end ChronosHFT.Oms
