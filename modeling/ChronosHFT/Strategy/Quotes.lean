import ChronosHFT.Lib.Dict
import ChronosHFT.Oms.Guards
import ChronosHFT.Oms.Order

/-!
# The quotes of a strategy

`strategy/base.py` and `strategy/glft.py`: the orders a GLFT strategy has out.  Three structures
of the strategy shadow the order state machine of the OMS: a quote slot for each symbol and side,
the active orders, and the set of orders whose cancel it has asked for.

A callback of the order book withdraws quotes that have become stale, and then follows the plan
the model comes to: leave the quotes alone, take them all back (warm-up), bring them to new
prices and volumes, or run one cycle of the RPI calibration.  What the plan is, and with which
numbers, is an input; what it does to the quotes and to the execution is the code's.

The other side is the OMS as the strategy sees it: it answers submits and cancels, moves each
order along its state machine, and delivers a snapshot of every move, in order.  A cancel it has
accepted is *outstanding* until the OMS gives the order back as live.  An answer is read off
`answers`, one for each call. -/

namespace ChronosHFT.Strategy

open Oms

/-! ## What the strategy is given -/

/-- How the execution answers a call. -/
inductive Answer where
  | accepted
  | refused
  | raised
deriving DecidableEq, Repr

/-- What quoting reads of `ContractInfo`. -/
structure ContractInfo where
  tickSize : ℚ
  stepSize : ℚ
  minNotional : ℚ
deriving DecidableEq, Repr

/-- What a strategy is built with: the reference data, the answers of its execution and the
settings of the stale-quote guard. -/
structure Env where
  getInfo : String → Option ContractInfo
  roundPrice : String → ℚ → ℚ := fun _ price => price
  roundQty : String → ℚ → ℚ := fun _ qty => qty
  /-- The answer to the call with this number. -/
  answers : ℕ → Answer
  strategyName : String := "glft"
  staleQuoteGuardEnabled : Bool := true
  staleQuoteMinDepthBps : ℚ := 0
  /-- `math.log(a / b) * 10_000.0` -/
  logBps : ℚ → ℚ → ℚ
  cooldownMs : ℚ := 200

/-- The mode of the OMS at a submit, as `adapt_intent_for_trading_mode` reads it. -/
structure TradingMode where
  capability : OMSCapabilityMode := .live
  degradedAggressiveToPassive : Bool := false
deriving DecidableEq, Repr

/-- `adapt_intent_for_trading_mode`: the intent to go on with, or `none` when it is refused. -/
def adaptIntent (mode : TradingMode) (intent : OrderIntent) : Option OrderIntent :=
  match mode.capability with
  | .reduceOnly => if intent.reduceOnly then some intent else none
  | .passiveOnly => if intent.isPostOnly then some intent else none
  | .degraded =>
    if mode.degradedAggressiveToPassive ∧ ¬intent.isPostOnly then
      some (OrderIntent.postInit
        { intent with
          orderType := "LIMIT"
          timeInForce := "GTX"
          isPostOnly := true
          policy := .passive
          tag := if intent.tag = "" then "degraded" else intent.tag ++ "|degraded" })
    else some intent
  | _ => some intent

/-! ## State -/

/-- One side of a symbol's quote slot. -/
structure Quote where
  oid : Option ℕ := none
  price : Option ℚ := none
  volume : Option ℚ := none
deriving DecidableEq, Repr

/-- `quote_state[symbol]`; `last_update` starts at minus infinity. -/
structure QuoteState where
  bid : Quote := {}
  ask : Quote := {}
  lastUpdate : Option ℚ := none
deriving DecidableEq, Repr

/-- What a strategy reads of `OrderStateSnapshot`. -/
structure Snapshot where
  clientOid : ℕ
  symbol : String
  status : OrderStatus
deriving DecidableEq, Repr

/-- An order of the OMS. -/
structure OmsOrder where
  intent : OrderIntent
  status : OrderStatus := .created
deriving DecidableEq, Repr

/-- The OMS as the strategy meets it.  Client ids are drawn fresh; they are numbered here. -/
structure OmsView where
  orders : Dict ℕ OmsOrder := ∅
  nextOid : ℕ := 0
  /-- Orders with a cancel that was accepted and has not failed. -/
  outstanding : Finset ℕ := ∅
  /-- Snapshots on their way to the strategy, oldest first. -/
  snapshots : List Snapshot := []

/-- A call of the execution, with what came of it. -/
inductive ExecutionCall where
  | submit (intent : OrderIntent) (oid : Option ℕ)
  | cancel (oid : ℕ) (answer : Answer)
  | cancelAll (symbol : String) (answer : Answer)
deriving DecidableEq, Repr

/-- A decision to withdraw one order: whether the order was active, whether a cancel of it was
outstanding, and whether the execution was called. -/
structure Removal where
  oid : ℕ
  active : Bool
  outstanding : Bool
  called : Bool
deriving DecidableEq, Repr

/-- The strategy and the OMS it trades through.  `calls`, `delivered` and `removals` record what
has happened. -/
structure Desk where
  quotes : Dict String QuoteState := ∅
  activeOrders : Dict ℕ OrderIntent := ∅
  ordersCancelling : Finset ℕ := ∅
  calibrationExpiryHandled : Bool := false
  oms : OmsView := {}
  calls : List ExecutionCall := []
  delivered : List Snapshot := []
  removals : List Removal := []

/-! ## What a callback is given -/

/-- The numbers one side is to be quoted with. -/
structure Target where
  price : ℚ
  volume : ℚ
deriving DecidableEq, Repr

/-- The price or the volume of a quote differs by a tick or a step. -/
def Changed (info : ContractInfo) (quote : Quote) (target : Target) : Prop :=
  (∀ price, quote.price = some price → info.tickSize ≤ |target.price - price|) ∨
    ∀ volume, quote.volume = some volume →
    max info.stepSize (1 / 10 ^ 12) ≤ |target.volume - volume|

instance (info : ContractInfo) (quote : Quote) (target : Target) :
    Decidable (Changed info quote target) :=
  inferInstanceAs (Decidable ((∀ price ∈ quote.price, info.tickSize ≤ |target.price - price|) ∨
    ∀ volume ∈ quote.volume, max info.stepSize (1 / 10 ^ 12) ≤ |target.volume - volume|))

/-- The arguments of `_update_quotes`, and what it reads of its surroundings. -/
structure QuoteUpdate where
  canSubmit : Bool := true
  mode : TradingMode := {}
  now : ℚ
  bid : Target
  ask : Target
  timeInForce : String := "GTX"
deriving DecidableEq, Repr

/-- The order a calibration cycle comes to. -/
structure CalibrationOrder where
  side : Side
  price : ℚ
  volume : ℚ
  reduceOnly : Bool := false
  permitId : String := ""
  depthBps : ℚ := 0
  referenceMid : ℚ := 0
deriving DecidableEq, Repr

/-- What a calibration cycle reads of its surroundings. -/
structure CalibrationCycle where
  mode : TradingMode := {}
  /-- `active_order_count` of the outbound gate. -/
  activeOrderCount : ℕ := 0
  transition : Bool := true
  /-- Orders acknowledged for longer than an order may live. -/
  timedOut : Finset ℕ := ∅
  /-- The order the checks behind the active orders lead to. -/
  order : Option CalibrationOrder := none

/-- What a callback of the order book goes on with after the stale-quote guard. -/
inductive Plan where
  | idle
  | warmUp
  | quote (update : QuoteUpdate)
  | expire (transition : Bool)
  | calibrate (cycle : CalibrationCycle)

namespace Desk

/-- One side of a symbol's slot. -/
def quote (d : Desk) (symbol : String) : Side → Quote
  | .buy => (d.quotes.getD symbol {}).bid
  | .sell => (d.quotes.getD symbol {}).ask

/-- One side of a symbol's slot changed. -/
def setQuote (d : Desk) (symbol : String) (side : Side) (quote : Quote) : Desk :=
  let state := d.quotes.getD symbol {}
  { d with
    quotes := d.quotes.set symbol
      (match side with
        | .buy => { state with bid := quote }
        | .sell => { state with ask := quote }) }

/-! ## Orders (`base.py`) -/

/-- One side of the slot, emptied when it holds the order of the snapshot. -/
def clearSlot (d : Desk) (snapshot : Snapshot) (side : Side) : Desk :=
  if (d.quote snapshot.symbol side).oid = some snapshot.clientOid then
    d.setQuote snapshot.symbol side {}
  else d

/-- `on_order`: a terminal snapshot takes the order out of every structure of the strategy. -/
def onOrder (d : Desk) (snapshot : Snapshot) : Desk :=
  if snapshot.status ∉ OrderStatus.terminalStatuses then d
  else
    let forgotten :=
      { d with
        activeOrders := d.activeOrders.erase snapshot.clientOid
        ordersCancelling := d.ordersCancelling.erase snapshot.clientOid }
    (forgotten.clearSlot snapshot .buy).clearSlot snapshot .sell

/-- `execution.submit`: an accepted intent is an order of the OMS under a fresh id.  `none` is an
exception. -/
def submit (env : Env) (d : Desk) (intent : OrderIntent) : Desk × Option (Option ℕ) :=
  match env.answers d.calls.length with
  | .accepted =>
    let oid := d.oms.nextOid
    ({ d with
       oms := { d.oms with orders := d.oms.orders.set oid { intent := intent },
                           nextOid := oid + 1 }
       calls := d.calls ++ [.submit intent (some oid)] }, some (some oid))
  | .refused => ({ d with calls := d.calls ++ [.submit intent none] }, some none)
  | .raised => ({ d with calls := d.calls ++ [.submit intent none] }, none)

/-- The notional of an intent is below the least the venue takes. -/
def belowMinNotional (env : Env) (intent : OrderIntent) : Bool :=
  match env.getInfo intent.symbol with
  | some info => decide (intent.price * intent.volume < max info.minNotional 5)
  | none => false

/-- `send_intent`. -/
def sendIntent (env : Env) (mode : TradingMode) (d : Desk) (intent : OrderIntent) :
    Desk × Option (Option ℕ) :=
  let rounded :=
    { intent with
      price := env.roundPrice intent.symbol intent.price
      volume := env.roundQty intent.symbol intent.volume }
  match adaptIntent mode rounded with
  | none => (d, some none)
  | some intent =>
    if belowMinNotional env intent then (d, some none)
    else
      match d.submit env intent with
      | (d, some (some oid)) =>
        ({ d with activeOrders := d.activeOrders.set oid intent }, some (some oid))
      | answered => answered

/-- `execution.cancel`. -/
def callCancel (env : Env) (d : Desk) (oid : ℕ) : Desk × Answer :=
  let answer := env.answers d.calls.length
  ({ d with
     oms := { d.oms with
       outstanding :=
         if answer = .accepted then insert oid d.oms.outstanding else d.oms.outstanding }
     calls := d.calls ++ [.cancel oid answer] }, answer)

/-- `cancel_order`; `none` is an exception. -/
def cancelOrder (env : Env) (d : Desk) (oid : ℕ) : Desk × Option Bool :=
  let active := d.activeOrders.contains oid
  let suppressed := !active || decide (oid ∈ d.ordersCancelling)
  let decided :=
    { d with
      removals := d.removals ++ [⟨oid, active, decide (oid ∈ d.oms.outstanding), !suppressed⟩] }
  if suppressed then (decided, some false)
  else
    let marked := { decided with ordersCancelling := insert oid d.ordersCancelling }
    match marked.callCancel env oid with
    | (called, .accepted) => (called, some true)
    | (called, .refused) =>
      ({ called with ordersCancelling := called.ordersCancelling.erase oid }, some false)
    | (called, .raised) =>
      ({ called with ordersCancelling := called.ordersCancelling.erase oid }, none)

/-- The active orders of a symbol. -/
def activeOf (d : Desk) (symbol : String) : List ℕ :=
  (d.activeOrders.items.filter fun entry => entry.2.symbol = symbol).map Prod.fst

/-- `cancel_all`. -/
def cancelAll (env : Env) (d : Desk) (symbol : String) : Desk :=
  let newly := (d.activeOf symbol).toFinset \ d.ordersCancelling
  let answer := env.answers d.calls.length
  { d with
    ordersCancelling := if answer = .accepted then d.ordersCancelling ∪ newly
    else d.ordersCancelling
    oms := { d.oms with
      outstanding :=
        if answer = .accepted then d.oms.outstanding ∪ (d.activeOf symbol).toFinset
        else d.oms.outstanding }
    calls := d.calls ++ [.cancelAll symbol answer] }

/-! ## Quoting (`glft.py`) -/

/-- Cancel one order after the other, until a call raises; `false` is an exception. -/
def cancelEach (env : Env) (d : Desk) : List ℕ → Desk × Bool
  | [] => (d, true)
  | oid :: rest =>
    match d.cancelOrder env oid with
    | (cancelled, some _) => cancelEach env cancelled rest
    | (cancelled, none) => (cancelled, false)

/-- `_cancel_symbol_quotes`. -/
def cancelSymbolQuotes (env : Env) (d : Desk) (symbol : String) : Desk × Bool :=
  d.cancelEach env
    ((d.quote symbol .buy).oid.toList ++ (d.quote symbol .sell).oid.toList ++
      d.activeOf symbol).dedup

/-- A quote is closer to the mid price than the guard allows. -/
def atRisk (env : Env) (quote : Quote) (side : Side) (midPrice : ℚ) : Bool :=
  match quote.oid, quote.price with
  | some _, some price =>
    decide (0 < price) &&
      decide ((match side with
        | .buy => env.logBps midPrice price
        | .sell => env.logBps price midPrice) < env.staleQuoteMinDepthBps)
  | _, _ => false

/-- `_guard_stale_quotes`. -/
def guardStaleQuotes (env : Env) (d : Desk) (symbol : String) (midPrice : ℚ) : Desk × Bool :=
  if env.staleQuoteGuardEnabled = false ∨ midPrice ≤ 0 then (d, true)
  else
    d.cancelEach env
      (([Side.buy, Side.sell].filter fun side =>
        atRisk env (d.quote symbol side) side midPrice).flatMap
        fun side => (d.quote symbol side).oid.toList)

/-- One side of `_update_quotes`. -/
def updateSide (env : Env) (mode : TradingMode) (info : ContractInfo) (d : Desk)
    (symbol : String)
    (side : Side) (target : Target) (timeInForce : String) : Desk × Bool :=
  let quote := d.quote symbol side
  if target.volume ≤ 0 then
    match quote.oid with
    | some oid => d.cancelEach env [oid]
    | none => (d.setQuote symbol side { quote with price := none, volume := none }, true)
  else if Changed info quote target then
    match quote.oid with
    | some oid => d.cancelEach env [oid]
    | none =>
      let intent := OrderIntent.postInit
        { strategyId := env.strategyName, symbol := symbol, side := side, price := target.price
          volume := target.volume, timeInForce := timeInForce, isPostOnly := true }
      match d.sendIntent env mode intent with
      | (sent, some (some oid)) =>
        (sent.setQuote symbol side
          { oid := some oid, price := some target.price, volume := some target.volume }, true)
      | (sent, some none) => (sent, true)
      | (sent, none) => (sent, false)
  else (d, true)

/-- The quotes of the symbol have been updated within the cooldown. -/
def coolingDown (env : Env) (d : Desk) (symbol : String) (now : ℚ) : Bool :=
  match (d.quotes.getD symbol {}).lastUpdate with
  | some last => decide ((now - last) * 1000 < env.cooldownMs)
  | none => false

/-- `_update_quotes`. -/
def updateQuotes (env : Env) (d : Desk) (symbol : String) (update : QuoteUpdate) : Desk × Bool :=
  if update.canSubmit = false then (d, true)
  else
    match env.getInfo symbol with
    | none => (d, true)
    | some info =>
      if d.coolingDown env symbol update.now then (d, true)
      else
        let bid := { update.bid with volume := max 0 update.bid.volume }
        let ask := { update.ask with volume := max 0 update.ask.volume }
        match d.updateSide env update.mode info symbol .buy bid update.timeInForce with
        | (d, false) => (d, false)
        | (d, true) =>
          match d.updateSide env update.mode info symbol .sell ask update.timeInForce with
          | (d, false) => (d, false)
          | (d, true) =>
            ({ d with
               quotes := d.quotes.set symbol
                 { d.quotes.getD symbol {} with lastUpdate := some update.now } }, true)

/-- `_expire_rpi_calibration`; `transition` is whether the permit was expired by the OMS. -/
def expireCalibration (env : Env) (d : Desk) (symbol : String) (transition : Bool) :
    Desk × Bool :=
  if d.calibrationExpiryHandled then d.cancelSymbolQuotes env symbol
  else
    let handled := { d with calibrationExpiryHandled := true }
    if transition then (handled, true) else handled.cancelSymbolQuotes env symbol

/-- `_run_rpi_calibration_cycle`, from the count of active orders on. -/
def runCalibrationCycle (env : Env) (d : Desk) (symbol : String) (cycle : CalibrationCycle) :
    Desk × Bool :=
  let strategyActive := d.activeOf symbol
  let activeCount := max strategyActive.length cycle.activeOrderCount
  if 1 < activeCount then d.expireCalibration env symbol cycle.transition
  else if 0 < activeCount then d.cancelEach env (strategyActive.filter (· ∈ cycle.timedOut))
  else
    match cycle.order with
    | none => (d, true)
    | some order =>
      let intent := OrderIntent.postInit
        { strategyId := env.strategyName, symbol := symbol, side := order.side
          price := order.price, volume := order.volume, timeInForce := "RPI", isPostOnly := true
          reduceOnly := order.reduceOnly, tag := "rpi_calibration_canary"
          calibrationPermitId := order.permitId, calibrationDepthBps := some order.depthBps
          calibrationReferenceMid := some order.referenceMid }
      match d.sendIntent env cycle.mode intent with
      | (sent, some (some oid)) =>
        (sent.setQuote symbol order.side
          { oid := some oid, price := some order.price, volume := some order.volume }, true)
      | (sent, some none) => (sent, true)
      | (sent, none) => (sent, false)

/-- `on_orderbook`, as far as it touches orders. -/
def onOrderbook (env : Env) (d : Desk) (symbol : String) (mid : ℚ) (plan : Plan) : Desk :=
  match d.guardStaleQuotes env symbol mid with
  | (guarded, false) => guarded
  | (guarded, true) =>
    match plan with
    | .idle => guarded
    | .warmUp => (guarded.cancelSymbolQuotes env symbol).1
    | .quote update => (guarded.updateQuotes env symbol update).1
    | .expire transition => (guarded.expireCalibration env symbol transition).1
    | .calibrate cycle => (guarded.runCalibrationCycle env symbol cycle).1

end Desk

/-! ## The system -/

/-- A cancel that was under way has failed: the OMS gives the order back as live. -/
def GivesBack (before next : OrderStatus) : Prop :=
  before ∈ [OrderStatus.cancelling, .cancelUnknown] ∧ next ∈ [OrderStatus.new, .partiallyFilled]

instance (before next : OrderStatus) : Decidable (GivesBack before next) :=
  inferInstanceAs (Decidable (_ ∧ _))

namespace OmsView

/-- An order moves along its state machine, and a snapshot of it is sent. -/
def move (oms : OmsView) (oid : ℕ) (next : OrderStatus) : Option OmsView :=
  match oms.orders.get? oid with
  | none => none
  | some order =>
    if next ∈ order.status.allowedTransitions then
      some
        { oms with
          orders := oms.orders.set oid { order with status := next }
          outstanding :=
            if GivesBack order.status next then oms.outstanding.erase oid else oms.outstanding
          snapshots := oms.snapshots ++ [⟨oid, order.intent.symbol, next⟩] }
    else none

/-- A snapshot of an order that has not moved. -/
def emit (oms : OmsView) (oid : ℕ) : Option OmsView :=
  (oms.orders.get? oid).map fun order =>
    { oms with snapshots := oms.snapshots ++ [⟨oid, order.intent.symbol, order.status⟩] }

/-- A cancel that had been put off is refused when its turn comes. -/
def giveUp (oms : OmsView) (oid : ℕ) : OmsView :=
  { oms with outstanding := oms.outstanding.erase oid }

/-- An order the strategy has not been told of. -/
def fileForeign (oms : OmsView) (intent : OrderIntent) : OmsView :=
  { oms with orders := oms.orders.set oms.nextOid { intent := intent },
             nextOid := oms.nextOid + 1 }

end OmsView

/-- What can happen next. -/
inductive DeskAction where
  | orderbook (symbol : String) (mid : ℚ) (plan : Plan)
  | cancelAll (symbol : String)
  | deliver
  | move (oid : ℕ) (next : OrderStatus)
  | emit (oid : ℕ)
  | giveUp (oid : ℕ)
  | foreign (intent : OrderIntent)

/-- One step of the strategy or of the OMS. -/
def step (env : Env) (d : Desk) : DeskAction → Option Desk
  | .orderbook symbol mid plan => some (d.onOrderbook env symbol mid plan)
  | .cancelAll symbol => some (d.cancelAll env symbol)
  | .deliver =>
    match d.oms.snapshots with
    | [] => none
    | snapshot :: rest =>
      some ({ d with oms := { d.oms with snapshots := rest }
                     delivered := d.delivered ++ [snapshot] }.onOrder snapshot)
  | .move oid next => (d.oms.move oid next).map fun oms => { d with oms := oms }
  | .emit oid => (d.oms.emit oid).map fun oms => { d with oms := oms }
  | .giveUp oid => some { d with oms := d.oms.giveUp oid }
  | .foreign intent => some { d with oms := d.oms.fileForeign intent }

end ChronosHFT.Strategy
