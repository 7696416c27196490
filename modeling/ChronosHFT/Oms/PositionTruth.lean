import ChronosHFT.Oms.EventProcessor
import ChronosHFT.Oms.OrderReplay

/-!
# Positions from the account

The two operations that replace a position by the venue's own statement of it, and
the one that starts from none.

`onExchangeAccountUpdate` (`oms/exchange_event_processor.py`) takes an account event
with the positions it changed; a position that differs from ours by more than
`1e-9` is overwritten and the difference attributed.  `fullReset`
(`oms/full_reset.py`) is the committed part of a reset: every order is dropped, all
positions are forgotten and read again from a stable snapshot.  `recover` is the
state after `rebuild_from_log`: orders, execution ids and the strategy ledger come
from the journal, positions do not; they are empty until the reset that follows.
-/

namespace ChronosHFT.Oms

/-! ## Account updates -/

/-- One entry of `balances` as it arrives; an absent field is `none`. -/
structure RawBalance where
  walletBalance : Option RawNum := none
  availableBalance : Option RawNum := none
  crossWalletBalance : Option RawNum := none
  balanceChange : Option RawNum := none
deriving DecidableEq, Repr

/-- One entry of `positions` as it arrives; an absent field is `0.0`. -/
structure RawPosition where
  volume : RawNum := .finite 0
  entryPrice : RawNum := .finite 0
  unrealizedPnl : RawNum := .finite 0
deriving DecidableEq, Repr

/-- `ExchangeAccountUpdate` as it arrives. -/
structure RawAccountUpdate where
  asset : String := ""
  walletBalance : RawNum := .finite 0
  availableBalance : Option RawNum := none
  clockOffsetMs : Option RawNum := none
  eventTime : RawNum := .finite 0
  receivedTimestamp : RawNum := .finite 0
  receivedMonotonic : RawNum := .finite 0
  dispatchTimestamp : RawNum := .finite 0
  dispatchMonotonic : RawNum := .finite 0
  correctedReceivedTimestamp : RawNum := .finite 0
  balances : List (String × RawBalance) := []
  positions : List (String × RawPosition) := []
deriving DecidableEq, Repr

/-- A position of a normalised account update. -/
structure PositionPayload where
  volume : ℚ
  entryPrice : ℚ
  unrealizedPnl : ℚ
deriving DecidableEq, Repr

/-- `ExchangeAccountUpdate` after `_normalize_exchange_account_update_numbers`, with
the fields the position ledger uses. -/
structure AccountUpdate where
  eventTime : ℚ
  walletBalance : ℚ
  /-- `asset or balances`. -/
  hasBalance : Bool
  positions : Dict String PositionPayload
deriving DecidableEq

namespace RawAccountUpdate

/-- A finite number of the message, or the complaint about it. -/
def finiteField (field : String) : RawNum → Except String ℚ
  | .notNumeric => .error (field ++ ":not_numeric")
  | .notFinite => .error (field ++ ":not_finite")
  | .finite value => .ok value

/-- The fields of one balance, in the order of the source. -/
def checkBalance (asset : String) (balance : RawBalance) : Except String Unit := do
  let optional (field : String) (value : Option RawNum) : Except String Unit :=
    match value with
    | none => .ok ()
    | some value => (finiteField ("balances:" ++ asset ++ ":" ++ field) value).map fun _ => ()
  optional "wallet_balance" balance.walletBalance
  optional "available_balance" balance.availableBalance
  optional "cross_wallet_balance" balance.crossWalletBalance
  optional "balance_change" balance.balanceChange

/-- `str(name or "").upper().strip()`. -/
def canonical (name : String) : String := Text.strip name.toUpper

/-- All balances. -/
def checkBalances : List (String × RawBalance) → Except String Unit
  | [] => .ok ()
  | (name, balance) :: rest => do
      if canonical name = "" then throw "balances:empty_asset"
      checkBalance (canonical name) balance
      checkBalances rest

/-- The fields of one position. -/
def position (symbol : String) (raw : RawPosition) : Except String PositionPayload := do
  let label := "positions:" ++ symbol ++ ":"
  let volume ← finiteField (label ++ "volume") raw.volume
  let entryPrice ← finiteField (label ++ "entry_price") raw.entryPrice
  if entryPrice < 0 then throw (label ++ "entry_price:negative")
  let unrealizedPnl ← finiteField (label ++ "unrealized_pnl") raw.unrealizedPnl
  return { volume := volume, entryPrice := entryPrice, unrealizedPnl := unrealizedPnl }

/-- All positions, filed under their canonical symbols. -/
def readPositions (filed : Dict String PositionPayload) :
    List (String × RawPosition) → Except String (Dict String PositionPayload)
  | [] => .ok filed
  | (name, raw) :: rest => do
      if canonical name = "" then throw "positions:empty_symbol"
      let payload ← position (canonical name) raw
      readPositions (filed.set (canonical name) payload) rest

/-- `_normalize_exchange_account_update_numbers`; the error is the detail text. -/
def normalize (raw : RawAccountUpdate) : Except String AccountUpdate := do
  let walletBalance ← finiteField "wallet_balance" raw.walletBalance
  let _ ← RawOrderUpdate.optional "available_balance" raw.availableBalance
  let _ ← RawOrderUpdate.optional "clock_offset_ms" raw.clockOffsetMs
  let eventTime ← RawOrderUpdate.nonnegative "event_time" raw.eventTime
  let _ ← RawOrderUpdate.nonnegative "received_timestamp" raw.receivedTimestamp
  let _ ← RawOrderUpdate.nonnegative "received_monotonic" raw.receivedMonotonic
  let _ ← RawOrderUpdate.nonnegative "dispatch_timestamp" raw.dispatchTimestamp
  let _ ← RawOrderUpdate.nonnegative "dispatch_monotonic" raw.dispatchMonotonic
  let _ ← RawOrderUpdate.nonnegative "corrected_received_timestamp"
    raw.correctedReceivedTimestamp
  checkBalances raw.balances
  let positions ← readPositions ∅ raw.positions
  return { eventTime := eventTime
           walletBalance := walletBalance
           hasBalance := decide (raw.asset ≠ "" ∨ raw.balances ≠ [])
           positions := positions }

end RawAccountUpdate

/-- What an account update reads besides the state. -/
structure AccountEnv where
  /-- `config["symbols"]`; an empty list tracks everything. -/
  trackedSymbols : List String
  /-- The balance `sync_exchange_balance` arrives at. -/
  syncedBalance : AccountUpdate → ℚ

namespace OmsState

/-- The symbols of an update that are looked at. -/
def tracked (env : AccountEnv) (symbol : String) : Bool :=
  decide (env.trackedSymbols = [] ∨ symbol ∈ env.trackedSymbols)

/-- The account update is older than what is known about the symbol. -/
def stalePosition (s : OmsState) (symbol : String) (eventTime : ℚ) : Bool :=
  let stateTime := s.positionStateEventTime.getD symbol 0
  decide (eventTime ≠ 0 ∧ stateTime ≠ 0 ∧ eventTime + fillEps < stateTime)

/-- The event times of a symbol after an account update. -/
def noteAccountTime (s : OmsState) (symbol : String) (eventTime : ℚ) : OmsState :=
  if eventTime = 0 then s
  else
    { s with
      positionStateEventTime :=
        s.positionStateEventTime.set symbol
          (max (s.positionStateEventTime.getD symbol 0) eventTime)
      exchangePositionEventTime :=
        s.exchangePositionEventTime.set symbol
          (max (s.exchangePositionEventTime.getD symbol 0) eventTime) }

/-- The venue's position is not ours. -/
def differs (s : OmsState) (symbol : String) (payload : PositionPayload) : Bool :=
  decide (qtyEps < |s.exposure.netPositions.getD symbol 0 - payload.volume|)

/-- The loop body of `on_exchange_account_update`; `force_sync` raises out of it. -/
def applyAccountPosition (s : OmsState) (eventTime : ℚ) (symbol : String)
    (payload : PositionPayload) : Except LedgerError OmsState :=
  if s.stalePosition symbol eventTime then
    .ok (s.audit "stale_exchange_position_update_ignored")
  else if s.differs symbol payload then
    match s.exposure.forceSync symbol payload.volume payload.entryPrice with
    | .error err => .error err
    | .ok synced =>
      .ok ({ s with
             exposure := synced.reconcileStrategyPosition symbol payload.volume
               payload.entryPrice }.noteAccountTime symbol eventTime)
  else .ok (s.noteAccountTime symbol eventTime)

/-- The positions of an update, one after the other; the state an error leaves is
kept. -/
def applyAccountPositions (env : AccountEnv) (eventTime : ℚ) :
    OmsState → List (String × PositionPayload) → OmsState × Except LedgerError Unit
  | s, [] => (s, .ok ())
  | s, (symbol, payload) :: rest =>
    if tracked env symbol then
      match s.applyAccountPosition eventTime symbol payload with
      | .error err => (s, .error err)
      | .ok next => applyAccountPositions env eventTime next rest
    else applyAccountPositions env eventTime s rest

/-- The balance part of an account update. -/
def applyAccountBalance (env : AccountEnv) (s : OmsState) (update : AccountUpdate) : OmsState :=
  if update.eventTime ≠ 0 ∧ s.accountStateEventTime ≠ 0 ∧
      update.eventTime + fillEps < s.accountStateEventTime then
    s.audit "stale_exchange_account_update_ignored"
  else if update.hasBalance then
    { s with
      balance := env.syncedBalance update
      accountStateEventTime :=
        if update.eventTime = 0 then s.accountStateEventTime
        else max s.accountStateEventTime update.eventTime
      exchangeAccountEventTime :=
        if update.eventTime = 0 then s.exchangeAccountEventTime
        else max s.exchangeAccountEventTime update.eventTime }
  else s

/-- `_quarantine_invalid_account_update_locked`. -/
def quarantineInvalidAccount (s : OmsState) (detail : String) : OmsState :=
  ((s.audit "invalid_exchange_account_update").freezeUnlessSettling
      ("account_truth:invalid_update:" ++ detail)).queueReconcile
    ("Invalid exchange account update: " ++ detail) ""

/-- `corrected_positions`: every symbol occurs once, so the state before the loop
decides. -/
def correctedSymbols (env : AccountEnv) (s : OmsState) (update : AccountUpdate) : List String :=
  (update.positions.items.filter fun entry =>
    tracked env entry.1 && !s.stalePosition entry.1 update.eventTime &&
      s.differs entry.1 entry.2).map Prod.fst

/-- `on_exchange_account_update`.  The reconcile it may ask for at the end runs on its
own. -/
def onExchangeAccountUpdate (env : AccountEnv) (s : OmsState) (raw : RawAccountUpdate) :
    OmsState :=
  match raw.normalize with
  | .error detail => s.quarantineInvalidAccount detail
  | .ok update =>
    match applyAccountPositions env update.eventTime s update.positions.items with
    | (positioned, .error _) => positioned
    | (positioned, .ok ()) =>
      let balanced := positioned.applyAccountBalance env update
      if s.correctedSymbols env update = [] then balanced
      else balanced.audit "exchange_account_positions_synced"

/-! ## Full reset -/

/-- A position of the stable snapshot, as `ExchangeSnapshotNormalizer` leaves it: the
symbol is `upper().strip()` of the venue's. -/
structure SnapshotPosition where
  symbol : String
  positionAmt : ℚ
  entryPrice : ℚ
  normalized : Text.strip symbol.toUpper = symbol
deriving DecidableEq

/-- A symbol in the venue's own spelling. -/
abbrev VenueSymbol := { symbol : String // symbol.toUpper = symbol }

/-- What a reset reads. -/
structure ResetSnapshot where
  positions : List SnapshotPosition
  /-- `config["symbols"]`. -/
  configuredSymbols : List String
  /-- Symbols whose position has been asked for: the read of a missing key stores a
  zero, so they count as tracked. -/
  readSymbols : List VenueSymbol
  walletBalance : ℚ
  accountFloor : ℚ
  positionsFloor : ℚ
  now : ℚ

/-- Why a reset fails. -/
inductive ResetError where
  | order (error : OrderError)
  | ledger (error : LedgerError)
deriving DecidableEq, Repr

/-- Every active order is cancelled, journaled and tombstoned. -/
def terminalizeOrders (now : ℚ) : OmsState → List (String × Order) →
    OmsState × Except OrderError Unit
  | s, [] => (s, .ok ())
  | s, (key, order) :: rest =>
    if order.isActive = false then terminalizeOrders now s rest
    else
      match order.markCancelled now now 0 "CANCELED" with
      | (_, .error err) => (s, .error err)
      | (after, .ok _) =>
        terminalizeOrders now
          (((s.putOrder key after).log
            (.orderSnapshot after.toRecord "full_reset_terminalized")).writeTombstone after)
          rest

/-- Orders and positions are forgotten. -/
def clearBooks (s : OmsState) : OmsState :=
  { s with
    orders := ∅
    exchangeIdMap := ∅
    exposure :=
      { s.exposure with
        netPositions := ∅
        avgPrices := ∅
        openBuyQty := ∅
        openSellQty := ∅ }.updateOpenOrders ∅ }

/-- The positions of the snapshot that are not flat. -/
def syncPositions : Exposure → List SnapshotPosition → Exposure × Except LedgerError Unit
  | e, [] => (e, .ok ())
  | e, position :: rest =>
    if position.positionAmt = 0 then syncPositions e rest
    else
      match e.forceSync position.symbol position.positionAmt position.entryPrice with
      | .error err => (e, .error err)
      | .ok next => syncPositions next rest

/-- `snapshot_symbols`. -/
def resetSymbols (before : Exposure) (snapshot : ResetSnapshot) : List String :=
  before.netPositions.keys ++ snapshot.readSymbols.map Subtype.val ++
    (snapshot.configuredSymbols.filter fun symbol =>
      Text.strip symbol ≠ "").map String.toUpper ++
    (snapshot.positions.filter fun position => position.symbol ≠ "").map
      fun position => position.symbol.toUpper

/-- The residual of one symbol, and its event times. -/
def reconcileReset (floor : ℚ) (s : OmsState) (symbol : String) : OmsState :=
  { s.reconcileStrategy symbol with
    positionStateEventTime :=
      s.positionStateEventTime.set symbol (max (s.positionStateEventTime.getD symbol 0) floor)
    exchangePositionEventTime :=
      s.exchangePositionEventTime.set symbol
        (max (s.exchangePositionEventTime.getD symbol 0) floor) }

/-- The balance after a reset. -/
def resetBalance (s : OmsState) (snapshot : ResetSnapshot) : OmsState :=
  { s with
    balance := snapshot.walletBalance
    accountStateEventTime := max s.accountStateEventTime snapshot.accountFloor
    exchangeAccountEventTime := max s.exchangeAccountEventTime snapshot.accountFloor }

/-- The committed part of `_perform_full_reset`: what happens under the lock once the
stable snapshot is there. -/
def fullReset (s : OmsState) (snapshot : ResetSnapshot) : OmsState × Except ResetError Unit :=
  match terminalizeOrders snapshot.now s s.orders.items with
  | (terminalized, .error err) => (terminalized, .error (.order err))
  | (terminalized, .ok ()) =>
    let cleared := terminalized.clearBooks
    match syncPositions cleared.exposure snapshot.positions with
    | (partway, .error err) => ({ cleared with exposure := partway }, .error (.ledger err))
    | (synced, .ok ()) =>
      (((resetSymbols s.exposure snapshot).foldl (reconcileReset snapshot.positionsFloor)
        { cleared with exposure := synced }).resetBalance snapshot, .ok ())

/-! ## Recovery -/

/-- The OMS right after `rebuild_from_log`: a new process with what the journal gave
back.  Positions, balances and event times start empty. -/
def recover (venue : String) (tombstoneMax : ℕ) (journal : List JournalRecord)
    (r : OrderReplay.Recovered) : OmsState where
  venue := venue
  orders := r.orders
  exchangeIdMap := r.exchangeIdMap
  executionIds := r.executionIds
  tradeCursors := r.tradeCursors
  terminatedOids := r.terminatedOids
  tombstoneMax := tombstoneMax
  exposure :=
    { ({} : Exposure) with
      strategyNetPositions := r.strategy.positions
      strategyAvgPrices := r.strategy.averagePrices }.updateOpenOrders r.orders
  lifecycle := .bootstrap
  journal := journal

/-- A restart: the journal is read back.  A rebuild that raises keeps the process
from starting. -/
def restart (s : OmsState) (now : ℚ) : Except RebuildError OmsState :=
  match OrderReplay.rebuild s.tombstoneMax now s.journal with
  | .error err => .error err
  | .ok r => .ok (recover s.venue s.tombstoneMax s.journal r)

end OmsState

end ChronosHFT.Oms
