import ChronosHFT.Lib.Text
import ChronosHFT.Oms.Order

/-!
# Exposure

The ledgers of `oms/exposure.py`: net positions and average prices per symbol,
the same per strategy and symbol, and the open quantities recomputed from the
order table.

Open quantity is split four ways, plain and reduce-only on each side, and the
two kinds are used by different checks: `checkRisk` projects the position over
the *plain* open quantity, `checkReduceOnly` compares a close with the position
and the *reduce-only* quantity already reserved.  Neither looks at the other's
numbers.

The maps of the source are `defaultdict`s, where reading a missing key stores a
zero.  A stored zero and a missing key are answered alike by every function
here, so a read is `getD _ 0` and changes nothing.  Market data is an argument
(`MarketData`), and a refusal carries the values its message prints.
-/

namespace ChronosHFT.Oms

/-- `d[key] += qty` on a `defaultdict(float)`. -/
def addTo {κ : Type*} [DecidableEq κ] (d : Dict κ ℚ) (key : κ) (qty : ℚ) : Dict κ ℚ :=
  d.set key (d.getD key 0 + qty)

theorem getD_addTo {κ : Type*} [DecidableEq κ] (d : Dict κ ℚ) (key : κ) (qty : ℚ) (k : κ) :
    (addTo d key qty).getD k 0 = d.getD k 0 + if k = key then qty else 0 := by
  unfold addTo
  rw [Dict.getD_set]
  by_cases h : k = key
  · rw [if_pos h, if_pos h, h]
  · rw [if_neg h, if_neg h, add_zero]

/-- What the risk checks read from `data_cache`. -/
structure MarketData where
  /-- `get_mark_price`; `0` when there is none. -/
  markPrice : String → ℚ
  /-- `get_best_quote`: best bid and best ask. -/
  bestQuote : String → ℚ × ℚ

/-- `ExposureManager`. -/
structure Exposure where
  netPositions : Dict String ℚ := ∅
  avgPrices : Dict String ℚ := ∅
  openBuyQty : Dict String ℚ := ∅
  openSellQty : Dict String ℚ := ∅
  reduceOnlyBuyQty : Dict String ℚ := ∅
  reduceOnlySellQty : Dict String ℚ := ∅
  strategyNetPositions : Dict (String × String) ℚ := ∅
  strategyAvgPrices : Dict (String × String) ℚ := ∅
  strategyOpenBuyQty : Dict (String × String) ℚ := ∅
  strategyOpenSellQty : Dict (String × String) ℚ := ∅
deriving DecidableEq

/-- The `ValueError`s of the ledgers. -/
inductive LedgerError where
  /-- `Fill quantity and price must be finite and positive` -/
  | fillNotPositive
  /-- `Invalid position truth for {symbol}` -/
  | invalidPositionTruth (symbol : String)
deriving DecidableEq, Repr

/-- Why a risk check refuses, with the values the message prints. -/
inductive RiskRejection where
  /-- `reduce_only_without_position:{symbol}` -/
  | reduceOnlyWithoutPosition (symbol : String)
  /-- `reduce_only_wrong_side:{symbol}:long_requires_sell` -/
  | longRequiresSell (symbol : String)
  /-- `reduce_only_wrong_side:{symbol}:short_requires_buy` -/
  | shortRequiresBuy (symbol : String)
  /-- `reduce_only_exceeds_position:{symbol}:requested={..}>available={..}` -/
  | reduceOnlyExceedsPosition (symbol : String) (requested available : ℚ)
  /-- `MarkPrice unavailable for {symbol}` -/
  | markPriceUnavailable (symbol : String)
  /-- `Concurrent Symbol Limit: active={..}>={..} target={symbol}` -/
  | concurrentSymbolLimit (active limit : ℕ) (symbol : String)
  /-- `Exposure Limit: worst_long={..} worst_short={..} max_val={..} > {..} (Pos={..})` -/
  | exposureLimit (worstLong worstShort maxVal limit position : ℚ)
  /-- `Account Gross Exposure unavailable for {symbol}` -/
  | accountGrossUnavailable (symbol : String)
  /-- `Account Gross Exposure: projected={..} > {..}` -/
  | accountGross (projected limit : ℚ)
deriving DecidableEq, Repr

/-! ## One ledger -/

/-- A position ledger with its average prices, keyed by symbol or by strategy and
symbol. -/
structure Ledger (κ : Type) where
  positions : Dict κ ℚ
  averagePrices : Dict κ ℚ

namespace Ledger

variable {κ : Type} [DecidableEq κ]

/-- `is_increasing`: the fill opens a position or adds to it. -/
def isIncreasing (currentPos signedQty : ℚ) : Bool :=
  decide (currentPos = 0 ∨ (0 < currentPos ∧ 0 < signedQty) ∨ (currentPos < 0 ∧ signedQty < 0))

/-- The average price before the zero and flip rules are applied. -/
def blendedPrice (currentPos avgPrice signedQty qty price : ℚ) : ℚ :=
  if isIncreasing currentPos signedQty then
    if 0 < |currentPos| + qty then
      (|currentPos| * avgPrice + qty * price) / (|currentPos| + qty)
    else avgPrice
  else avgPrice

/-- The realised profit of a fill that closes. -/
def realizedPnl (currentPos avgPrice signedQty qty price : ℚ) : ℚ :=
  if isIncreasing currentPos signedQty then 0
  else if 0 < currentPos then (price - avgPrice) * min |currentPos| qty
  else (avgPrice - price) * min |currentPos| qty

/-- `0.0 if abs(x) < 1e-9 else x`. -/
def snap (x : ℚ) : ℚ := if |x| < qtyEps then 0 else x

/-- The average price a fill leaves behind. -/
def nextPrice (currentPos avgPrice signedQty qty price : ℚ) : ℚ :=
  let nextPos := currentPos + signedQty
  if |nextPos| < qtyEps then 0
  else if (0 < currentPos ∧ nextPos < 0) ∨ (currentPos < 0 ∧ 0 < nextPos) then price
  else blendedPrice currentPos avgPrice signedQty qty price

/-- `_apply_fill_to_ledger`: the ledger after the fill and the realised profit. -/
def applyFill (ledger : Ledger κ) (key : κ) (side : Side) (qty price : ℚ) :
    Except LedgerError (Ledger κ × ℚ) :=
  if qty ≤ 0 ∨ price ≤ 0 then
    .error .fillNotPositive
  else
    let currentPos := ledger.positions.getD key 0
    let avgPrice := ledger.averagePrices.getD key 0
    let signedQty := side.signed qty
    .ok ({ positions := ledger.positions.set key (snap (currentPos + signedQty))
           averagePrices :=
             ledger.averagePrices.set key (nextPrice currentPos avgPrice signedQty qty price) },
         realizedPnl currentPos avgPrice signedQty qty price)

end Ledger

namespace Exposure

/-! ## Fills -/

/-- `on_fill`. -/
def onFill (e : Exposure) (symbol : String) (side : Side) (qty price : ℚ) :
    Except LedgerError (Exposure × ℚ) := do
  let (ledger, pnl) ←
    (Ledger.mk e.netPositions e.avgPrices).applyFill symbol side qty price
  return ({ e with netPositions := ledger.positions, avgPrices := ledger.averagePrices }, pnl)

/-- The strategy every unattributed position is booked to. -/
def exchangeRecovery : String := "exchange_recovery"

/-- `(str(strategy_id or "exchange_recovery"), str(symbol or "").upper())`. -/
def strategyKey (strategyId symbol : String) : String × String :=
  (if strategyId = "" then exchangeRecovery else strategyId, symbol.toUpper)

/-- `on_strategy_fill`. -/
def onStrategyFill (e : Exposure) (strategyId symbol : String) (side : Side) (qty price : ℚ) :
    Except LedgerError (Exposure × ℚ) := do
  let (ledger, pnl) ←
    (Ledger.mk e.strategyNetPositions e.strategyAvgPrices).applyFill
      (strategyKey strategyId symbol) side qty price
  return ({ e with
            strategyNetPositions := ledger.positions
            strategyAvgPrices := ledger.averagePrices }, pnl)

/-- The part of a symbol's position that is attributed to a named strategy. -/
def attributed (e : Exposure) (symbol : String) : ℚ :=
  e.strategyNetPositions.sumBy fun key position =>
    if key.2 = symbol ∧ key.1 ≠ exchangeRecovery then position else 0

/-- `reconcile_strategy_position`: whatever the named strategies do not account
for is booked to `exchange_recovery`. -/
def reconcileStrategyPosition (e : Exposure) (symbol : String) (accountPosition price : ℚ) :
    Exposure :=
  let symbol := symbol.toUpper
  let recoveryPosition := accountPosition - e.attributed symbol
  { e with
    strategyNetPositions :=
      e.strategyNetPositions.set (exchangeRecovery, symbol) (Ledger.snap recoveryPosition)
    strategyAvgPrices :=
      e.strategyAvgPrices.set (exchangeRecovery, symbol)
        (if qtyEps ≤ |recoveryPosition| then |price| else 0) }

/-- `force_sync`: the account's own statement of a position replaces ours. -/
def forceSync (e : Exposure) (symbol : String) (volume price : ℚ) :
    Except LedgerError Exposure :=
  let symbol := Text.strip symbol.toUpper
  if symbol = "" ∨ price < 0 ∨ (qtyEps < |volume| ∧ price ≤ 0) then
    .error (.invalidPositionTruth (if symbol = "" then "UNKNOWN" else symbol))
  else
    .ok { e with
          netPositions := e.netPositions.set symbol volume
          avgPrices := e.avgPrices.set symbol (if qtyEps < |volume| then price else 0) }

/-! ## Open orders -/

/-- Forget all open quantities. -/
def clearOpenOrders (e : Exposure) : Exposure :=
  { e with
    openBuyQty := ∅
    openSellQty := ∅
    reduceOnlyBuyQty := ∅
    reduceOnlySellQty := ∅
    strategyOpenBuyQty := ∅
    strategyOpenSellQty := ∅ }

/-- `(str(intent.strategy_id or "unattributed"), intent.symbol)`. -/
def openOrderKey (intent : OrderIntent) : String × String :=
  (if intent.strategyId = "" then "unattributed" else intent.strategyId, intent.symbol)

/-- The loop body of `update_open_orders`. -/
def countOpenOrder (e : Exposure) (order : Order) : Exposure :=
  if order.isActive = false then e
  else if order.openVolume ≤ 0 then e
  else
    match order.intent.reduceOnly, order.intent.side with
    | true, .buy =>
      { e with
        reduceOnlyBuyQty := addTo e.reduceOnlyBuyQty order.intent.symbol order.openVolume }
    | true, .sell =>
      { e with
        reduceOnlySellQty := addTo e.reduceOnlySellQty order.intent.symbol order.openVolume }
    | false, .buy =>
      { e with
        openBuyQty := addTo e.openBuyQty order.intent.symbol order.openVolume
        strategyOpenBuyQty :=
          addTo e.strategyOpenBuyQty (openOrderKey order.intent) order.openVolume }
    | false, .sell =>
      { e with
        openSellQty := addTo e.openSellQty order.intent.symbol order.openVolume
        strategyOpenSellQty :=
          addTo e.strategyOpenSellQty (openOrderKey order.intent) order.openVolume }

/-- `update_open_orders`. -/
def updateOpenOrders (e : Exposure) (orders : Dict String Order) : Exposure :=
  orders.values.foldl countOpenOrder e.clearOpenOrders

/-! ## Admission -/

/-- `check_reduce_only`: a close may use what the reduce-only orders already
resting have left of the position. -/
def checkReduceOnly (e : Exposure) (symbol : String) (side : Side) (volume : ℚ) :
    Except RiskRejection Unit :=
  let currentPos := e.netPositions.getD symbol 0
  if |currentPos| ≤ qtyEps then
    .error (.reduceOnlyWithoutPosition symbol)
  else if 0 < currentPos then
    if side ≠ .sell then
      .error (.longRequiresSell symbol)
    else
      let available := max 0 (currentPos - e.reduceOnlySellQty.getD symbol 0)
      if available + qtyEps < volume then
        .error (.reduceOnlyExceedsPosition symbol volume available)
      else .ok ()
  else if side ≠ .buy then
    .error (.shortRequiresBuy symbol)
  else
    let available := max 0 (|currentPos| - e.reduceOnlyBuyQty.getD symbol 0)
    if available + qtyEps < volume then
      .error (.reduceOnlyExceedsPosition symbol volume available)
    else .ok ()

/-- `_symbol_worst_long_qty`. -/
def symbolWorstLongQty (e : Exposure) (symbol : String) (addBuyQty : ℚ) : ℚ :=
  e.netPositions.getD symbol 0 + e.openBuyQty.getD symbol 0 + addBuyQty

/-- `_symbol_worst_short_qty`. -/
def symbolWorstShortQty (e : Exposure) (symbol : String) (addSellQty : ℚ) : ℚ :=
  e.netPositions.getD symbol 0 - e.openSellQty.getD symbol 0 - addSellQty

/-- `_symbol_worst_case_abs_qty`. -/
def symbolWorstCaseAbsQty (e : Exposure) (symbol : String) (addBuyQty addSellQty : ℚ) : ℚ :=
  max |e.symbolWorstLongQty symbol addBuyQty| |e.symbolWorstShortQty symbol addSellQty|

/-- The symbols with a position or a plain open order. -/
def trackedSymbols (e : Exposure) : List String :=
  (e.netPositions.keys ++ e.openBuyQty.keys ++ e.openSellQty.keys).dedup

/-- `get_active_risk_symbols`. -/
def getActiveRiskSymbols (e : Exposure) : List String :=
  e.trackedSymbols.filter fun symbol => decide (qtyEps < e.symbolWorstCaseAbsQty symbol 0 0)

/-- `_get_price_for_risk`. -/
def getPriceForRisk (e : Exposure) (market : MarketData) (symbol : String)
    (fallbackPrice : ℚ) : ℚ :=
  let (bid, ask) := market.bestQuote symbol
  if 0 < market.markPrice symbol then market.markPrice symbol
  else if 0 < bid ∧ 0 < ask then (bid + ask) / 2
  else if 0 < bid then bid
  else if 0 < ask then ask
  else if 0 < |e.avgPrices.getD symbol 0| then |e.avgPrices.getD symbol 0|
  else fallbackPrice

/-- The loop of the gross-notional estimates: symbols without exposure are
skipped, a symbol without a price makes the estimate unavailable. -/
def sumNotional (exposureOf priceOf : String → ℚ) : List String → Option ℚ
  | [] => some 0
  | symbol :: rest =>
    if exposureOf symbol ≤ qtyEps then sumNotional exposureOf priceOf rest
    else if priceOf symbol ≤ 0 then none
    else (sumNotional exposureOf priceOf rest).map (exposureOf symbol * priceOf symbol + ·)

/-- The volume an order adds on one side of its own symbol. -/
def addedQty (target : String) (orderSide : Side) (volume : ℚ) (symbol : String)
    (side : Side) : ℚ :=
  if symbol = target ∧ orderSide = side then volume else 0

/-- `estimate_account_gross_notional`. -/
def estimateAccountGrossNotional (e : Exposure) (market : MarketData) (symbol : String)
    (side : Side) (volume orderPrice : ℚ) : Option ℚ :=
  let target := symbol.toUpper
  let tracked :=
    (e.trackedSymbols ++ if target = "" then [] else [target]).dedup
  sumNotional
    (fun s => e.symbolWorstCaseAbsQty s (addedQty target side volume s .buy)
      (addedQty target side volume s .sell))
    (fun s => e.getPriceForRisk market s (if s = target then orderPrice else 0))
    tracked

/-- The limits `check_risk` is called with. -/
structure RiskLimits where
  maxPosNotional : ℚ
  maxAccountGrossNotional : ℚ := 0
  maxConcurrentSymbols : ℕ := 0
deriving DecidableEq, Repr

/-- `check_risk`. -/
def checkRisk (e : Exposure) (market : MarketData) (limits : RiskLimits) (symbol : String)
    (side : Side) (volume orderPrice : ℚ) : Except RiskRejection Unit :=
  let markPrice := market.markPrice symbol
  let newBuyQty := if side = .buy then volume else 0
  let newSellQty := if side = .sell then volume else 0
  let active := e.getActiveRiskSymbols
  let worstLong := e.symbolWorstLongQty symbol newBuyQty
  let worstShort := e.symbolWorstShortQty symbol newSellQty
  let potentialVal := max |worstLong| |worstShort| * markPrice
  if markPrice ≤ 0 then
    .error (.markPriceUnavailable symbol)
  else if 0 < limits.maxConcurrentSymbols ∧
      qtyEps < e.symbolWorstCaseAbsQty symbol newBuyQty newSellQty ∧
      symbol ∉ active ∧ limits.maxConcurrentSymbols ≤ active.length then
    .error (.concurrentSymbolLimit active.length limits.maxConcurrentSymbols symbol)
  else if limits.maxPosNotional < potentialVal then
    .error (.exposureLimit worstLong worstShort potentialVal limits.maxPosNotional
      (e.netPositions.getD symbol 0))
  else if 0 < limits.maxAccountGrossNotional then
    match e.estimateAccountGrossNotional market symbol side volume orderPrice with
    | none => .error (.accountGrossUnavailable symbol)
    | some gross =>
      if limits.maxAccountGrossNotional < gross then
        .error (.accountGross gross limits.maxAccountGrossNotional)
      else .ok ()
  else .ok ()

/-! ## What the recomputation says

The four open quantities of a symbol are sums over the order table, so a change
to one order changes them by that order's share. -/

/-- The volume an order has open on one side of a symbol, plain or reduce-only. -/
def openShare (symbol : String) (reduceOnly : Bool) (side : Side) (order : Order) : ℚ :=
  if order.isActive = true ∧ 0 < order.openVolume ∧ order.intent.symbol = symbol ∧
      order.intent.reduceOnly = reduceOnly ∧ order.intent.side = side then
    order.openVolume
  else 0

/-- The open quantity of a kind, as `update_open_orders` stores it. -/
def openQty (e : Exposure) (symbol : String) (reduceOnly : Bool) (side : Side) : ℚ :=
  match reduceOnly, side with
  | false, .buy => e.openBuyQty.getD symbol 0
  | false, .sell => e.openSellQty.getD symbol 0
  | true, .buy => e.reduceOnlyBuyQty.getD symbol 0
  | true, .sell => e.reduceOnlySellQty.getD symbol 0

theorem openShare_nonneg (symbol : String) (reduceOnly : Bool) (side : Side) (order : Order) :
    0 ≤ openShare symbol reduceOnly side order := by
  unfold openShare
  split
  · next h => exact h.2.1.le
  · exact le_refl 0

theorem openShare_of_not_active {order : Order} (h : order.isActive = false) (symbol : String)
    (reduceOnly : Bool) (side : Side) : openShare symbol reduceOnly side order = 0 := by
  unfold openShare
  rw [if_neg]
  rintro ⟨hactive, -⟩
  rw [h] at hactive
  cases hactive

/-- Two exposures with the same positions and average prices. -/
structure SamePositions (e e' : Exposure) : Prop where
  netPositions : e'.netPositions = e.netPositions
  avgPrices : e'.avgPrices = e.avgPrices
  strategyNetPositions : e'.strategyNetPositions = e.strategyNetPositions
  strategyAvgPrices : e'.strategyAvgPrices = e.strategyAvgPrices

protected theorem SamePositions.trans {e e' e'' : Exposure} (h₁ : SamePositions e e')
    (h₂ : SamePositions e' e'') : SamePositions e e'' :=
  ⟨h₂.netPositions.trans h₁.netPositions, h₂.avgPrices.trans h₁.avgPrices,
    h₂.strategyNetPositions.trans h₁.strategyNetPositions,
    h₂.strategyAvgPrices.trans h₁.strategyAvgPrices⟩

theorem countOpenOrder_samePositions (e : Exposure) (order : Order) :
    SamePositions e (e.countOpenOrder order) := by
  unfold countOpenOrder
  split
  · exact ⟨rfl, rfl, rfl, rfl⟩
  · split
    · exact ⟨rfl, rfl, rfl, rfl⟩
    · split <;> exact ⟨rfl, rfl, rfl, rfl⟩

/-- The loop body adds the order's share to each of the four quantities. -/
theorem countOpenOrder_openQty (e : Exposure) (order : Order) (symbol : String)
    (reduceOnly : Bool) (side : Side) :
    (e.countOpenOrder order).openQty symbol reduceOnly side =
      e.openQty symbol reduceOnly side + openShare symbol reduceOnly side order := by
  unfold countOpenOrder
  by_cases hactive : order.isActive = false
  · rw [if_pos hactive, openShare_of_not_active hactive, add_zero]
  rw [if_neg hactive]
  have hactive' : order.isActive = true := by simpa using hactive
  by_cases hvolume : order.openVolume ≤ 0
  · rw [if_pos hvolume]
    unfold openShare
    rw [if_neg (fun h => absurd h.2.1 (not_lt.mpr hvolume)), add_zero]
  · rw [if_neg hvolume]
    have hvolume' : 0 < order.openVolume := not_le.mp hvolume
    -- One case per pair of kinds: the quantity of the order's own kind grows.
    cases hkind : order.intent.reduceOnly <;> cases hside : order.intent.side <;>
      cases reduceOnly <;> cases side <;>
      simp [openQty, openShare, getD_addTo, hactive', hvolume', hkind, hside, eq_comm]

theorem foldl_countOpenOrder_samePositions (orders : List Order) (e : Exposure) :
    SamePositions e (orders.foldl countOpenOrder e) := by
  induction orders generalizing e with
  | nil => exact ⟨rfl, rfl, rfl, rfl⟩
  | cons order rest ih => exact (countOpenOrder_samePositions e order).trans (ih _)

theorem foldl_countOpenOrder_openQty (orders : List Order) (e : Exposure) (symbol : String)
    (reduceOnly : Bool) (side : Side) :
    (orders.foldl countOpenOrder e).openQty symbol reduceOnly side =
      e.openQty symbol reduceOnly side +
        (orders.map (openShare symbol reduceOnly side)).sum := by
  induction orders generalizing e with
  | nil => simp
  | cons order rest ih =>
    rw [List.foldl_cons, ih, countOpenOrder_openQty, List.map_cons, List.sum_cons, add_assoc]

theorem updateOpenOrders_samePositions (e : Exposure) (orders : Dict String Order) :
    SamePositions e (e.updateOpenOrders orders) := by
  have hclear : SamePositions e e.clearOpenOrders := ⟨rfl, rfl, rfl, rfl⟩
  exact hclear.trans (foldl_countOpenOrder_samePositions orders.values e.clearOpenOrders)

/-- The open quantities are those of an order table. -/
def OpenQtyOf (e : Exposure) (orders : Dict String Order) : Prop :=
  ∀ symbol reduceOnly side, e.openQty symbol reduceOnly side =
    orders.sumBy fun _ order => openShare symbol reduceOnly side order

/-- **The open quantities are the order table's.** -/
theorem updateOpenOrders_openQty (e : Exposure) (orders : Dict String Order) (symbol : String)
    (reduceOnly : Bool) (side : Side) :
    (e.updateOpenOrders orders).openQty symbol reduceOnly side =
      orders.sumBy fun _ order => openShare symbol reduceOnly side order := by
  unfold updateOpenOrders
  rw [foldl_countOpenOrder_openQty]
  have hclear : e.clearOpenOrders.openQty symbol reduceOnly side = 0 := by
    cases reduceOnly <;> cases side <;> rfl
  rw [hclear, zero_add, Dict.sumBy, Dict.values, List.map_map]
  rfl

/-- A fill moves the position of its own symbol by the signed quantity, up to the
snap at zero, and no other position. -/
theorem onFill_netPositions {e e' : Exposure} {symbol : String} {side : Side}
    {qty price pnl : ℚ} (h : e.onFill symbol side qty price = .ok (e', pnl)) (s : String) :
    e'.netPositions.getD s 0 =
      if s = symbol then Ledger.snap (e.netPositions.getD symbol 0 + side.signed qty)
      else e.netPositions.getD s 0 := by
  unfold onFill Ledger.applyFill at h
  by_cases hpos : qty ≤ 0 ∨ price ≤ 0
  · rw [if_pos hpos] at h
    cases h
  · rw [if_neg hpos] at h
    cases h
    exact Dict.getD_set _ _ _ _ _

end Exposure

end ChronosHFT.Oms
