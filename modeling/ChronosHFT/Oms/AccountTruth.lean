import ChronosHFT.Oms.EventProcessor

/-!
# Trades from the REST history

`oms/account_truth.py`: every trade the venue reports is applied a second time
from the REST trade history, so that a fill the user stream lost is booked and one
it delivered is confirmed.

A trade at or below the symbol's cursor has been dealt with.  A trade whose
identity is known is confirmed and moves the cursor.  Any other trade is turned
into an order update whose cumulative quantity is *computed from the local order*
(`filled_volume + qty`), applied like a stream update, and taken to be booked when
the order's filled volume has reached that number.

An order the OMS does not know is created from the venue's answer
(`createRecoveredOrder`): active, and with nothing filled.
-/

namespace ChronosHFT.Oms

/-- A trade of `get_user_trades`, with its numbers read. -/
structure ExchangeTrade where
  symbol : String
  id : ℤ
  orderId : String
  qty : RawNum
  price : RawNum
  /-- `time`, in milliseconds. -/
  time : RawNum
  commission : RawNum := .finite 0
  realizedPnl : RawNum := .finite 0
  commissionAsset : String := ""
  maker : Option Bool := none
deriving DecidableEq, Repr

/-- The venue's answer to `query_order`, as `_create_recovered_order` reads it. -/
structure RemoteOrder where
  symbol : String
  orderId : String
  clientOrderId : String
  /-- `Side(..)` of the answer. -/
  side : Side
  /-- `origQty`, or `executedQty`/`qty` when it is missing. -/
  volume : ℚ
  /-- `price`, or `avgPrice`/`trade_price` when it is missing. -/
  price : ℚ
  orderType : String := "LIMIT"
  timeInForce : String := "GTC"
  reduceOnly : Bool := false
deriving DecidableEq, Repr

/-- The venue's answer to `query_order`, as `_apply_exchange_order_snapshot` reads it. -/
structure OrderSnapshot where
  remote : RemoteOrder
  status : String
  executedQty : RawNum
  /-- `avgPrice`, or `price` when it is missing. -/
  avgPrice : RawNum
  /-- `updateTime`, or `time`, in milliseconds. -/
  updateTime : RawNum
  /-- `type` and `timeInForce`, upper case; empty when missing. -/
  typeText : String := ""
  timeInForceText : String := ""
deriving DecidableEq, Repr

/-- The status of a snapshot as the update status spells it. -/
def OrderSnapshot.statusText (snapshot : OrderSnapshot) : String :=
  if snapshot.status.toUpper = "EXPIRED_IN_MATCH" then "EXPIRED" else snapshot.status.toUpper

/-- The `ValueError`s of `_create_recovered_order`. -/
inductive RemoteOrderError where
  | missingSymbol
  | missingIdentifier
  | nonPositiveVolume
  | nonPositivePrice
deriving DecidableEq, Repr

namespace RemoteOrder

/-- `EXTERNAL_{symbol}_{exchange_oid}` for an order without a client id. -/
def clientOid (remote : RemoteOrder) : String :=
  if remote.clientOrderId = "" then
    "EXTERNAL_" ++ remote.symbol.toUpper ++ "_" ++ remote.orderId
  else remote.clientOrderId

/-- The intent of a recovered order. -/
def intent (remote : RemoteOrder) : OrderIntent :=
  OrderIntent.postInit
    { strategyId := Exposure.exchangeRecovery
      symbol := remote.symbol.toUpper
      side := remote.side
      price := remote.price
      volume := remote.volume
      orderType := remote.orderType
      timeInForce := remote.timeInForce
      isPostOnly := decide (remote.timeInForce.toUpper ∈ ["GTX", "RPI"])
      reduceOnly := remote.reduceOnly
      policy := .passive
      tag := "exchange_recovered" }

/-- The order `_create_recovered_order` files: acknowledged, nothing filled. -/
def order (remote : RemoteOrder) (now : ℚ) : Order :=
  let submitted := ((Order.init remote.clientOid remote.intent now).markSubmitting now).1
  (submitted.markNew now remote.orderId 0 0).1

end RemoteOrder

namespace OmsState

/-- `_create_recovered_order`. -/
def createRecoveredOrder (s : OmsState) (remote : RemoteOrder) (now : ℚ) :
    Except RemoteOrderError OmsState :=
  if remote.symbol = "" then .error .missingSymbol
  else if remote.clientOrderId = "" ∧ remote.orderId = "" then .error .missingIdentifier
  else if remote.volume ≤ 0 then .error .nonPositiveVolume
  else if remote.price ≤ 0 then .error .nonPositivePrice
  else
    let filed := s.putOrder remote.clientOid (remote.order now)
    .ok ({ filed with
           exchangeIdMap :=
             if remote.orderId = "" then filed.exchangeIdMap
             else filed.exchangeIdMap.set remote.orderId remote.clientOid }.audit
      "external_order_recovered")

/-- `_advance_trade_cursor`. -/
def advanceTradeCursor (s : OmsState) (symbol : String) (tradeId : ℤ) (source : String) :
    OmsState :=
  let symbol := symbol.toUpper
  if tradeId < 0 ∨ source = "user_stream" then s
  else if tradeId ≤ cursorOf s.tradeCursors symbol then s
  else
    { s.log (.tradeCursorAdvanced symbol tradeId source) with
      tradeCursors := s.tradeCursors.set symbol tradeId
      executionIds := discardCursorCovered s.executionIds symbol tradeId }

/-- `_finite_truth_float` with `minimum=0.0`. -/
def truthNonneg : RawNum → Option ℚ
  | .finite value => if value < 0 then none else some value
  | _ => none

/-- `_finite_truth_float` without a minimum. -/
def truthFinite : RawNum → Option ℚ
  | .finite value => some value
  | _ => none

/-- The update a REST trade is turned into. -/
def tradeUpdate (order : Order) (trade : ExchangeTrade) (qty price timeMs commission pnl : ℚ) :
    RawOrderUpdate :=
  let cumulative := min order.intent.volume (order.filledVolume + qty)
  { clientOid := order.clientOid
    exchangeOid := if order.exchangeOid = "" then trade.orderId else order.exchangeOid
    symbol := trade.symbol.toUpper
    status :=
      if order.intent.volume - doneEps ≤ cumulative then "FILLED" else "PARTIALLY_FILLED"
    filledQty := .finite qty
    filledPrice := .finite price
    cumFilledQty := .finite cumulative
    updateTime := .finite (timeMs / 1000)
    seq := .finite 0
    tradeId := .finite trade.id
    commission := some (.finite commission)
    commissionAsset := trade.commissionAsset
    realizedPnl := some (.finite pnl)
    isMaker := trade.maker }

/-- After a late trade reopened a cancelled or expired order, the terminal state is
put back. -/
def restoreTerminal (s : OmsState) (key : String) (before : Order) (now updateTime : ℚ) :
    OmsState :=
  match s.orders.get? key with
  | none => s
  | some order =>
    let restore (moved : Order × Except OrderError Bool) : OmsState :=
      let placed := s.putOrder key moved.1
      { placed with exposure := placed.exposure.updateOpenOrders placed.orders }.log
        (.orderSnapshot moved.1.toRecord "terminal_restored_after_trade_backfill")
    let time := max before.lastExchangeUpdateTime updateTime
    if order.status ≠ .partiallyFilled then s
    else if before.status = .cancelled then restore (order.markCancelled now time 0 "CANCELED")
    else if before.status = .expired then restore (order.markExpired now time 0)
    else s

/-- A REST trade whose order has been found: confirmed, or applied. -/
def applyTradeTo (env : EventEnv) (s : OmsState) (key : String) (trade : ExchangeTrade)
    (qty price timeMs commission pnl : ℚ) : OmsState × Bool :=
  let symbol := trade.symbol.toUpper
  let executionId := executionIdOf s.venue symbol trade.id.toNat
  match s.orders.get? key with
  | none => (s, false)
  | some order =>
    if executionId ∈ s.executionIds then
      let confirmed :=
        { s with
          restConfirmedExecutionIds := insert executionId s.restConfirmedExecutionIds }
      ((confirmed.advanceTradeCursor symbol trade.id "rest_confirmed_duplicate").audit
        "trade_backfill_duplicate_confirmed", true)
    else
      let cumulative := min order.intent.volume (order.filledVolume + qty)
      let applied := s.applyEvent env (tradeUpdate order trade qty price timeMs commission pnl)
      match applied.orders.get? key with
      | none => (applied, false)
      | some after =>
        if after.filledVolume + qtyEps < cumulative then
          (applied.audit "trade_backfill_apply_failed", false)
        else
          let restored := applied.restoreTerminal key order env.now (timeMs / 1000)
          let confirmed :=
            { restored with
              restConfirmedExecutionIds :=
                insert executionId restored.restConfirmedExecutionIds }
          (confirmed.advanceTradeCursor symbol trade.id "rest_backfill", true)

/-- `freeze_system` without cancelling. -/
def freezeSystem (s : OmsState) (reason : String) : OmsState :=
  if s.lifecycle = .halted then s
  else
    let frozen := { s with lifecycle := .frozen, lastFreezeReason := reason }
    if s.lifecycle = .frozen then frozen.audit "freeze_reasserted"
    else frozen.log (.lifecycle .frozen reason)

/-- The order a snapshot is about: on file under its client id, mapped by its exchange
id, or created from the answer. -/
def snapshotOrder (s : OmsState) (remote : RemoteOrder) (now : ℚ) :
    Except RemoteOrderError (OmsState × String) :=
  if remote.clientOrderId ≠ "" ∧ s.orders.contains remote.clientOrderId then
    .ok (s, remote.clientOrderId)
  else
    match if remote.orderId = "" then none else s.exchangeIdMap.get? remote.orderId with
    | some key => .ok (s, key)
    | none =>
      match s.createRecoveredOrder remote now with
      | .error err => .error err
      | .ok created => .ok (created, remote.clientOid)

/-- The update a snapshot is turned into: it names no trade, so it books no fill. -/
def snapshotUpdate (order : Order) (snapshot : OrderSnapshot) (executed avgPrice timeMs : ℚ) :
    RawOrderUpdate :=
  { clientOid := order.clientOid
    exchangeOid :=
      if snapshot.remote.orderId = "" then order.exchangeOid else snapshot.remote.orderId
    symbol := order.intent.symbol
    status := snapshot.statusText
    filledQty := .finite (max 0 (executed - order.filledVolume))
    filledPrice := .finite avgPrice
    cumFilledQty := .finite executed
    updateTime := .finite (timeMs / 1000)
    seq := .finite 0
    orderType := snapshot.typeText
    timeInForce := snapshot.timeInForceText }

/-- A snapshot with readable numbers, on the order it is about. -/
def applySnapshotTo (env : EventEnv) (s : OmsState) (key : String) (snapshot : OrderSnapshot)
    (executed avgPrice timeMs : ℚ) : OmsState × Bool :=
  match s.orders.get? key with
  | none => (s, false)
  | some order =>
    if order.filledVolume + qtyEps < executed then
      ((s.audit "order_snapshot_trade_truth_missing").freezeSystem
        ("execution_truth:" ++ order.intent.symbol ++ ":" ++ order.clientOid ++
          ":order_snapshot_ahead"), false)
    else
      ((s.applyEvent env (snapshotUpdate order snapshot executed avgPrice timeMs)).audit
        "order_snapshot_applied", true)

/-- `_apply_exchange_order_snapshot`. -/
def applyExchangeOrderSnapshot (env : EventEnv) (s : OmsState) (snapshot : OrderSnapshot) :
    OmsState × Bool :=
  if UpdateStatus.ofText? snapshot.statusText = none then
    (s.audit "unhandled_order_snapshot_status", false)
  else
    match truthNonneg snapshot.executedQty, truthNonneg snapshot.avgPrice,
        truthNonneg snapshot.updateTime with
    | some executed, some avgPrice, some timeMs =>
      if 0 < executed ∧ avgPrice ≤ 0 then (s.audit "invalid_order_snapshot", false)
      else
        match s.snapshotOrder snapshot.remote env.now with
        | .error _ => (s, false)
        | .ok (state, key) => state.applySnapshotTo env key snapshot executed avgPrice timeMs
    | _, _, _ => (s.audit "invalid_order_snapshot", false)

/-- `_apply_exchange_trade`.  `remote` is what `query_order` answers for an order id
that is not mapped; `none` stands for no answer and for `NOT_FOUND`. -/
def applyExchangeTrade (env : EventEnv) (s : OmsState) (trade : ExchangeTrade)
    (remote : Option RemoteOrder) : OmsState × Bool :=
  let symbol := trade.symbol.toUpper
  if symbol = "" ∨ trade.id < 0 then (s, false)
  else if trade.id ≤ cursorOf s.tradeCursors symbol then (s, true)
  else
    match truthNonneg trade.qty, truthNonneg trade.price, truthNonneg trade.time,
        truthFinite trade.commission, truthFinite trade.realizedPnl with
    | some qty, some price, some timeMs, some commission, some pnl =>
      if qty ≤ 0 ∨ price ≤ 0 then (s, false)
      else
        match s.exchangeIdMap.get? trade.orderId with
        | some key => s.applyTradeTo env key trade qty price timeMs commission pnl
        | none =>
          match remote with
          | none => (s, false)
          | some remote =>
            match s.createRecoveredOrder remote env.now with
            | .error _ => (s, false)
            | .ok created =>
              created.applyTradeTo env remote.clientOid trade qty price timeMs commission pnl
    | _, _, _, _, _ => (s, false)

end OmsState

end ChronosHFT.Oms
