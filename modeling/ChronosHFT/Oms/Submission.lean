import ChronosHFT.Oms.EventProcessor

/-!
# Commands

What the OMS does of its own accord: `submit_order`, the settlement of its result,
and `cancel_order` (`oms/order_submission.py`, `oms/submit_settlement.py`,
`oms/cancellation_manager.py`), with the records each of them appends.

`admission` is the chain of checks of `submit_order` under the lock.  The parameter
checks of the validator and the exposure checks are computed; the verdicts of the
other components (guards, health, margin, budgets, permit, calibration) are data
of `SubmitEnv`, in the order in which they are asked for.

Two ends differ in what they journal.  An admitted intent becomes an order, filed
and journaled before the first byte is sent.  A refused one is journaled too: a
snapshot of an order that was never filed, built from whatever the intent says.
-/

namespace ChronosHFT.Oms

/-- The market data cache.  `update_mark_price` files a price under
`symbol.upper().strip()` and refuses an empty symbol; the books are the gateway's,
by venue symbol. -/
structure Quotes extends MarketData where
  canonical : ∀ symbol, 0 < markPrice symbol → symbol ≠ "" ∧ symbol.toUpper = symbol

/-- What `validate_params` reads of a contract. -/
structure ContractInfo where
  minNotional : ℚ
  supportsRpi : Bool
deriving DecidableEq, Repr

/-- The validator's limits and what it reads when it is called. -/
structure ValidatorEnv where
  maxOrderQty : ℚ
  maxOrderNotional : ℚ
  maxDeviationPct : ℚ
  maxSpreadPct : ℚ
  freshnessEnabled : Bool
  /-- `_validate_market_data_freshness`; `""` is fresh. -/
  freshnessError : String
  /-- `mark_price`, `bid_price` and `ask_price` of `get_risk_snapshot`. -/
  snapshotMark : ℚ
  snapshotBid : ℚ
  snapshotAsk : ℚ
  /-- `_check_rate_limit`; `""` is admitted. -/
  rateLimit : String
deriving DecidableEq, Repr

/-- What `submit_order` reads besides the state.  A text is the reason a component
gives for refusing; `""` refuses nothing. -/
structure SubmitEnv where
  now : ℚ
  market : Quotes
  contract : String → Option ContractInfo
  validator : ValidatorEnv
  limits : Exposure.RiskLimits
  mode : CapabilityMode
  degradedAggressiveToPassive : Bool
  blockReason : String
  safetyReason : String
  marginAvailable : Bool
  budgetReason : String
  permitReason : String
  calibrationReason : String

/-- Why `submit_order` refuses an intent. -/
inductive SubmitRejection where
  /-- A reason given by another component, as it stands. -/
  | component (reason : String)
  | modeReduceOnly
  | modePassiveOnly
  | rpiRequiresLimitOrder
  | postOnlyRequiresLimitOrder
  | postOnlyIncompatibleTimeInForce (timeInForce : String)
  | rpiCapabilityUnknown (symbol : String)
  | rpiUnsupportedSymbol (symbol : String)
  | nonPositivePriceOrVolume
  | notionalBelowMin (notional : ℚ)
  | qtyExceeded (volume limit : ℚ)
  | notionalExceeded (notional limit : ℚ)
  | priceDeviation (price mark : ℚ)
  | spreadTooWide (bid ask : ℚ)
  | insufficientMargin
  | reduceOnly (reason : RiskRejection)
  | exposureLimit (reason : RiskRejection)
deriving DecidableEq, Repr

/-! ## Admission -/

/-- A reason text as a verdict. -/
def verdict (reason : String) : Except SubmitRejection Unit :=
  if reason = "" then .ok () else .error (.component reason)

/-- `adapt_intent_for_trading_mode`. -/
def adaptIntent (env : SubmitEnv) (intent : OrderIntent) : Except SubmitRejection OrderIntent :=
  match env.mode with
  | .reduceOnly => if intent.reduceOnly then .ok intent else .error .modeReduceOnly
  | .passiveOnly => if intent.isPostOnly then .ok intent else .error .modePassiveOnly
  | .degraded =>
    if env.degradedAggressiveToPassive ∧ intent.isPostOnly = false then
      .ok (OrderIntent.postInit
        { intent with
          orderType := "LIMIT"
          timeInForce := "GTX"
          isPostOnly := true
          policy := .passive
          tag := if intent.tag = "" then "degraded" else intent.tag ++ "|degraded" })
    else .ok intent
  | _ => .ok intent

/-- The checks of `validate_params` on the shape of the order. -/
def validateShape (intent : OrderIntent) (info : Option ContractInfo) :
    Except SubmitRejection Unit :=
  if intent.timeInForce = "RPI" ∧ intent.orderType ≠ "LIMIT" then
    .error .rpiRequiresLimitOrder
  else if intent.isPostOnly ∧ intent.orderType ≠ "LIMIT" then
    .error .postOnlyRequiresLimitOrder
  else if intent.isPostOnly ∧ intent.timeInForce ∉ ["GTX", "RPI"] then
    .error (.postOnlyIncompatibleTimeInForce intent.timeInForce)
  else if intent.timeInForce = "RPI" then
    match info with
    | none => .error (.rpiCapabilityUnknown intent.symbol)
    | some info =>
      if info.supportsRpi then .ok () else .error (.rpiUnsupportedSymbol intent.symbol)
  else .ok ()

/-- The checks of `validate_params` on price and volume. -/
def validateSize (v : ValidatorEnv) (intent : OrderIntent) (info : Option ContractInfo) :
    Except SubmitRejection Unit :=
  let notional := intent.price * intent.volume
  if intent.price ≤ 0 ∨ intent.volume ≤ 0 then .error .nonPositivePriceOrVolume
  else if (info.elim false fun c => decide (notional < max c.minNotional 5)) = true then
    .error (.notionalBelowMin notional)
  else if v.maxOrderQty < intent.volume then .error (.qtyExceeded intent.volume v.maxOrderQty)
  else if intent.reduceOnly = false ∧ v.maxOrderNotional < notional then
    .error (.notionalExceeded notional v.maxOrderNotional)
  else .ok ()

/-- The checks of `validate_params` against the market; they apply to orders that
may add risk. -/
def validateMarket (v : ValidatorEnv) (market : MarketData) (intent : OrderIntent) :
    Except SubmitRejection Unit :=
  let mark :=
    if v.snapshotMark ≤ 0 ∧ v.freshnessEnabled = false then market.markPrice intent.symbol
    else v.snapshotMark
  let (bid, ask) :=
    if v.freshnessEnabled = false ∧ (v.snapshotBid ≤ 0 ∨ v.snapshotAsk ≤ 0) then
      market.bestQuote intent.symbol
    else (v.snapshotBid, v.snapshotAsk)
  if intent.reduceOnly then .ok ()
  else if v.freshnessEnabled ∧ v.freshnessError ≠ "" then .error (.component v.freshnessError)
  else if 0 < mark ∧ v.maxDeviationPct < |intent.price - mark| / mark then
    .error (.priceDeviation intent.price mark)
  else if 0 < bid ∧ 0 < ask ∧ bid ≤ ask ∧ v.maxSpreadPct < (ask - bid) / ((bid + ask) / 2) then
    .error (.spreadTooWide bid ask)
  else .ok ()

/-- `validate_params`. -/
def validateParams (v : ValidatorEnv) (market : MarketData) (intent : OrderIntent)
    (info : Option ContractInfo) : Except SubmitRejection Unit := do
  validateShape intent info
  validateSize v intent info
  validateMarket v market intent
  verdict v.rateLimit

/-- The exposure checks of `submit_order`. -/
def checkExposure (env : SubmitEnv) (e : Exposure) (intent : OrderIntent) :
    Except SubmitRejection Unit :=
  if intent.reduceOnly then
    match e.checkReduceOnly intent.symbol intent.side intent.volume with
    | .error reason => .error (.reduceOnly reason)
    | .ok () => .ok ()
  else if env.marginAvailable = false then .error .insufficientMargin
  else
    match e.checkRisk env.market.toMarketData env.limits intent.symbol intent.side intent.volume
        intent.price with
    | .error reason => .error (.exposureLimit reason)
    | .ok () => .ok ()

/-- The checks on an adapted intent. -/
def checkAdapted (env : SubmitEnv) (e : Exposure) (intent : OrderIntent) :
    Except SubmitRejection Unit := do
  validateParams env.validator env.market.toMarketData intent
    (env.contract intent.symbol.toUpper)
  verdict env.safetyReason
  checkExposure env e intent
  verdict env.budgetReason
  verdict env.permitReason
  verdict env.calibrationReason

/-- The critical section of `submit_order`: the intent to send, or the intent to
reject with the reason. -/
def admission (env : SubmitEnv) (e : Exposure) (intent : OrderIntent) :
    Except (OrderIntent × SubmitRejection) OrderIntent :=
  match verdict env.blockReason with
  | .error reason => .error (intent, reason)
  | .ok () =>
    match adaptIntent env intent with
    | .error reason => .error (intent, reason)
    | .ok adapted =>
      match checkAdapted env e adapted with
      | .error reason => .error (adapted, reason)
      | .ok () => .ok adapted

namespace OmsState

/-! ## Submission -/

/-- `_reject_intent_locally`.  The order is journaled as a snapshot and never filed.
The reason text is an argument: it ends up in `error_msg`. -/
def rejectIntentLocally (s : OmsState) (now : ℚ) (clientOid : String) (intent : OrderIntent)
    (reason : String) : OmsState :=
  let order := ((Order.init clientOid intent now).markRejectedLocally now reason).1
  ((s.log (.orderSnapshot order.toRecord "intent_rejected")).writeTombstone order).audit
    "intent_rejected"

/-- Recompute the open quantities. -/
def refreshOpenOrders (s : OmsState) : OmsState :=
  { s with exposure := s.exposure.updateOpenOrders s.orders }

/-- An order is filed and its two records are committed before it is sent. -/
def prepareSubmit (s : OmsState) (now : ℚ) (clientOid : String) (intent : OrderIntent)
    (source : String) : OmsState :=
  let order := ((Order.init clientOid intent now).markSubmitting now).1
  ((s.putOrder clientOid order).refreshOpenOrders.log
      (.orderSnapshot order.toRecord source)).log
    (.commandPrepared
      { commandId := "SUBMIT:" ++ clientOid
        commandType := .submit
        clientOid := clientOid
        exchangeOid := order.exchangeOid
        order := order.toRecord })

/-- `submit_order` up to the dispatch.  `clientOid` is the fresh identifier the call
draws, `reasonText` how a rejection is spelled. -/
def submitOrder (env : SubmitEnv) (s : OmsState) (clientOid : String) (intent : OrderIntent)
    (reasonText : SubmitRejection → String) : OmsState :=
  match admission env s.exposure intent with
  | .error (rejected, reason) =>
    s.rejectIntentLocally env.now clientOid rejected (reasonText reason)
  | .ok admitted => s.prepareSubmit env.now clientOid admitted "accepted"

/-- `_estimate_emergency_price`. -/
def estimateEmergencyPrice (s : OmsState) (market : MarketData) (lastTradePrice : String → ℚ)
    (symbol : String) (side : Side) : ℚ :=
  let (bid, ask) := market.bestQuote symbol
  let average := |s.exposure.avgPrices.getD symbol 0|
  if side = .buy ∧ 0 < ask then ask
  else if side = .sell ∧ 0 < bid then bid
  else if 0 < market.markPrice symbol then market.markPrice symbol
  else if 0 < lastTradePrice symbol then lastTradePrice symbol
  else if 0 < average then average
  else 1

/-- The intent of one symbol of `emergency_reduce_only_flatten`; `qty` is the
position rounded to the contract's lot. -/
def emergencyIntent (s : OmsState) (market : MarketData) (lastTradePrice : String → ℚ)
    (symbol : String) (volume qty : ℚ) (reason : String) : OrderIntent :=
  let side := if 0 < volume then Side.sell else Side.buy
  OrderIntent.postInit
    { strategyId := "system_emergency"
      symbol := symbol.toUpper
      side := side
      price := s.estimateEmergencyPrice market lastTradePrice symbol.toUpper side
      volume := qty
      orderType := "MARKET"
      timeInForce := "IOC"
      reduceOnly := true
      policy := .aggressive
      tag := "reduce_only_flatten:" ++ reason }

/-- One symbol of `emergency_reduce_only_flatten`, up to the dispatch. -/
def emergencyFlatten (s : OmsState) (now : ℚ) (market : MarketData) (lastTradePrice : String → ℚ)
    (clientOid symbol : String) (volume qty : ℚ) (reason : String) : OmsState :=
  if symbol = "" ∨ |volume| ≤ qtyEps ∨ qty ≤ 0 then s
  else
    s.prepareSubmit now clientOid
      (s.emergencyIntent market lastTradePrice symbol volume qty reason)
      "emergency_flatten"

/-! ## Settlement -/

/-- What the gateway answers to a command. -/
structure CommandReply where
  outcome : CommandOutcome
  exchangeOid : String := ""
  errorCode : String := ""
  errorMessage : String := ""
deriving DecidableEq, Repr

/-- `error_message or error_code or fallback`. -/
def CommandReply.message (reply : CommandReply) (fallback : String) : String :=
  if reply.errorMessage ≠ "" then reply.errorMessage
  else if reply.errorCode ≠ "" then reply.errorCode
  else fallback

/-- The `command_result` record of a reply. -/
def commandResult (commandType : CommandType) (order : Order) (reply : CommandReply) :
    CommandResult where
  commandId :=
    (match commandType with
      | .submit => "SUBMIT:"
      | .cancel => "CANCEL:") ++ order.clientOid
  commandType := commandType
  clientOid := order.clientOid
  exchangeOid := if reply.exchangeOid = "" then order.exchangeOid else reply.exchangeOid
  outcome := reply.outcome
  errorCode := reply.errorCode
  errorMessage := reply.errorMessage

/-- A submit is still waiting for its outcome. -/
def awaitsSubmit (order : Order) : Bool :=
  decide (order.status = .submitting ∨ order.status = .submitUnknown)

/-- `_bind_submit_exchange_oid_locked`: an acknowledgement names the order unless
the venue has named it otherwise. -/
def bindExchangeOid (s : OmsState) (key : String) (order : Order) (exchangeOid : String) :
    OmsState × Order :=
  if exchangeOid = "" then (s, order)
  else if order.exchangeOid ≠ "" ∧ order.exchangeOid ≠ exchangeOid then
    (s.audit "submit_exchange_oid_mismatch", order)
  else if ((s.exchangeIdMap.get? exchangeOid).elim false fun mapped => decide (mapped ≠ key)) =
      true then
    (s.audit "submit_exchange_oid_collision", order)
  else
    ({ s with exchangeIdMap := s.exchangeIdMap.set exchangeOid key },
      { order with exchangeOid := exchangeOid })

/-- The submit was acknowledged. -/
def settleAck (s : OmsState) (now : ℚ) (key : String) (order : Order) (reply : CommandReply) :
    OmsState :=
  let (bound, named) := s.bindExchangeOid key order reply.exchangeOid
  let after := if awaitsSubmit order then (named.markPendingAck now named.exchangeOid).1
    else named
  (bound.putOrder key after).log
    (.orderSnapshot after.toRecord
      (if awaitsSubmit order then "rest_ack" else "rest_ack_after_exchange_truth"))

/-- The outcome of the submit is not known. -/
def settleUnknown (s : OmsState) (now : ℚ) (key : String) (order : Order)
    (reply : CommandReply) :
    OmsState :=
  let message :=
    if reply.errorMessage = "" then "submit_outcome_unknown" else reply.errorMessage
  let after :=
    if order.status = .submitting then (order.markSubmitUnknown now message).1 else order
  (s.putOrder key after).log
    (.orderSnapshot after.toRecord
      (if after.status = .submitUnknown then "send_unknown"
        else "send_unknown_after_exchange_truth"))

/-- The venue refused the order: unless exchange truth says otherwise, it is
dropped. -/
def settleRejected (s : OmsState) (now : ℚ) (key : String) (order : Order)
    (reply : CommandReply) : OmsState :=
  if awaitsSubmit order then
    let after := (order.markRejectedLocally now (reply.message "gateway_send_rejected")).1
    let logged := (s.putOrder key after).log (.orderSnapshot after.toRecord "send_failed")
    ({ logged with orders := logged.orders.erase key }.refreshOpenOrders).writeTombstone after
  else s.log (.orderSnapshot order.toRecord "send_rejection_after_exchange_truth")

/-- The result of a submit: journaled, then settled. -/
def settleSubmit (s : OmsState) (now : ℚ) (clientOid : String) (reply : CommandReply) :
    OmsState :=
  match s.orders.get? clientOid with
  | none => s
  | some order =>
    let logged := s.log (.commandResult (commandResult .submit order reply))
    match reply.outcome with
    | .acknowledged => logged.settleAck now clientOid order reply
    | .unknown => logged.settleUnknown now clientOid order reply
    | .rejected => logged.settleRejected now clientOid order reply

/-- An unknown submit the venue has confirmed to be absent. -/
def confirmAbsent (s : OmsState) (now : ℚ) (clientOid : String) : OmsState :=
  match s.orders.get? clientOid with
  | none => s
  | some order =>
    if order.status = .submitUnknown then
      let after := (order.markRejectedLocally now "exchange_confirmed_order_absent").1
      (((s.putOrder clientOid after).log
        (.orderSnapshot after.toRecord "submit_unknown_absent")).writeTombstone
          after).refreshOpenOrders
    else s

/-! ## Cancellation -/

/-- `cancel_order` up to the dispatch, once no submit is in the way. -/
def cancelOrder (s : OmsState) (now : ℚ) (clientOid : String) : OmsState :=
  match s.orders.get? clientOid with
  | none => s
  | some order =>
    if order.isActive = false ∨ order.status = .cancelling then s
    else
      match order.markCancelling now with
      | (_, .error _) => s
      | (after, .ok _) =>
        ((s.putOrder clientOid after).log
            (.orderSnapshot after.toRecord "cancel_requested")).log
          (.commandPrepared
            { commandId := "CANCEL:" ++ clientOid
              commandType := .cancel
              clientOid := clientOid
              exchangeOid := after.exchangeOid
              order := after.toRecord })

/-- The result of a cancel.  An acknowledgement changes nothing by itself; the
order it reports arrives as an order update. -/
def settleCancel (s : OmsState) (now : ℚ) (clientOid : String) (reply : CommandReply) :
    OmsState :=
  match s.orders.get? clientOid with
  | none => s
  | some order =>
    let logged := s.log (.commandResult (commandResult .cancel order reply))
    if reply.outcome = .acknowledged then logged.audit "cancel_acknowledged"
    else if order.isActive = false then
      logged.audit "cancel_response_superseded_by_terminal_update"
    else
      let after :=
        match order.markCancelUnknown now (reply.message "cancel_outcome_unknown") with
        | (after, .ok _) => after
        | (_, .error _) =>
          order.noteExchangeUpdate now
            { exchangeStatus := "CANCEL_UNKNOWN", updateTime := now }
      ((logged.putOrder clientOid after).log
        (.orderSnapshot after.toRecord "cancel_unknown")).audit "cancel_outcome_unknown"

end OmsState

end ChronosHFT.Oms
