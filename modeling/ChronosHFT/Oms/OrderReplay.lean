import ChronosHFT.Oms.ExecutionIdentity
import ChronosHFT.Oms.Exposure
import ChronosHFT.Oms.Journal

/-!
# Rebuilding orders and executions

The part of `rebuild_from_log` (`oms/journal_rebuilder.py`) that recovers orders,
executions, the strategy ledger and the trade cursors.

The pass over the records keeps, for every client id, the latest order snapshot
and what was journaled after it: a snapshot makes the executions before it
obsolete, because it already contains them.  The strategy ledger has no snapshots
and replays every execution once.  When the records are exhausted
(`OrderReplay.finish`), each snapshot is decoded and the executions after it are
applied; active orders are kept, terminal ones are remembered by id only.

Both the decoder and the replay of an execution can raise, and nothing catches
it: the rebuild fails, and with it the start of the OMS.
-/

namespace ChronosHFT.Oms

/-- What ends a rebuild. -/
inductive RebuildError where
  /-- `Invalid order snapshot for {client_oid}` -/
  | invalidSnapshot (clientOid : String) (error : RecordError)
  /-- A `ValueError` of `add_fill` or of a transition while an execution is
  replayed. -/
  | execution (error : OrderError)
  /-- `Execution record without execution_id` -/
  | missingExecutionId
  /-- `Invalid execution values for {execution_id}` -/
  | invalidExecution (executionId : String)
  /-- `Malformed strategy execution` or `Invalid strategy execution values` -/
  | invalidStrategyExecution (executionId : String)
  /-- `Execution record cannot resolve order intent`, or symbol and side at the end -/
  | unresolvedExecution (executionId : String)
deriving DecidableEq, Repr

namespace Order

/-- `error_message or error_code or "recovered_command_result"`. -/
def recoveredMessage (result : CommandResult) : String :=
  if result.errorMessage ≠ "" then result.errorMessage
  else if result.errorCode ≠ "" then result.errorCode
  else "recovered_command_result"

/-- The outcome of a submit, on an order that is still waiting for it. -/
def settleRecoveredSubmit (order : Order) (now : ℚ) (result : CommandResult) : Order :=
  if order.status ≠ .submitting then order
  else
    match result.outcome with
    | .acknowledged => (order.markPendingAck now result.exchangeOid).1
    | .unknown => (order.markSubmitUnknown now (recoveredMessage result)).1
    | .rejected => (order.markRejectedLocally now (recoveredMessage result)).1

/-- The outcome of a cancel: it has to be confirmed by the venue in any case. -/
def settleRecoveredCancel (order : Order) (now : ℚ) (result : CommandResult) : Order :=
  if order.status = .cancelling then
    (order.markCancelUnknown now
      (if result.outcome = .acknowledged then "recovered_cancel_ack_requires_truth"
        else recoveredMessage result)).1
  else order

/-- `_apply_recovered_command_result`. -/
def applyRecoveredCommandResult (order : Order) (now : ℚ) (result : CommandResult) : Order :=
  match result.commandType with
  | .submit =>
    (if order.status = .created then (order.markSubmitting now).1
      else order).settleRecoveredSubmit now result
  | .cancel =>
    if order.isActive then
      (if order.status ≠ .cancelling then (order.markCancelling now).1
        else order).settleRecoveredCancel now result
    else order

/-- Put a replayed fill's terminal state back. -/
def restoreReplayed (order : Order) (now : ℚ) (preStatus : OrderStatus) (time : ℚ) :
    Order × Except OrderError Bool :=
  if order.status = .filled then (order, .ok false)
  else if preStatus = .cancelled then order.markCancelled now time 0 "CANCELED"
  else if preStatus = .expired then order.markExpired now time 0
  else (order, .ok false)

/-- `_apply_recovered_execution`. -/
def applyRecoveredExecution (order : Order) (now : ℚ) (execution : ExecutionRecord) :
    Except RebuildError Order :=
  if execution.executionId = "" then .error .missingExecutionId
  else if execution.cumFilledQty ≤ 0 ∨ execution.fillPrice ≤ 0 ∨ execution.exchangeTime < 0 then
    .error (.invalidExecution execution.executionId)
  else
    let order :=
      if execution.exchangeOid = "" then order
      else { order with exchangeOid := execution.exchangeOid }
    let delta := execution.cumFilledQty - order.filledVolume
    if delta ≤ qtyEps then .ok order
    else
      match order.addFill now delta execution.fillPrice
          { exchangeStatus :=
              if execution.exchangeStatus = "" then "PARTIALLY_FILLED"
              else execution.exchangeStatus
            updateTime := execution.exchangeTime } with
      | (_, .error err) => .error (.execution err)
      | (filled, .ok _) =>
        match filled.restoreReplayed now order.status execution.exchangeTime with
        | (_, .error err) => .error (.execution err)
        | (restored, .ok _) => .ok restored

/-- A command that was under way when the process died has an unknown outcome. -/
def markInflightUnknown (order : Order) (now : ℚ) : Order :=
  if order.status = .submitting then (order.markSubmitUnknown now "recovered_inflight_submit").1
  else if order.status = .cancelling then
    (order.markCancelUnknown now "recovered_inflight_cancel").1
  else order

end Order

/-- What the pass over the records accumulates about orders and executions. -/
structure OrderReplay where
  latestOrderRecords : Dict String OrderRecord := ∅
  /-- `terminal_order_oids`, oldest first. -/
  terminalOrderOids : List String := []
  latestCommandResults : Dict String CommandResult := ∅
  executionsByClientOid : Dict String (List ExecutionRecord) := ∅
  replayedExecutionIds : Finset String := ∅
  strategy : Ledger (String × String) := ⟨∅, ∅⟩
  deferred : Dict String (List ExecutionRecord) := ∅
  tradeCursors : Dict String ℤ := ∅
  untrustedTradeCursorSymbols : Finset String := ∅
  unverifiedExecutionSymbols : Finset String := ∅

namespace OrderReplay

/-- `a or b` on texts. -/
def orElse (text fallback : String) : String := if text = "" then fallback else text

/-- `replay_strategy_execution`; `none` when the symbol or the side is not known
yet. -/
def replayStrategyExecution (ledger : Ledger (String × String)) (execution : ExecutionRecord)
    (intent : Option IntentRecord) : Except RebuildError (Option (Ledger (String × String))) :=
  let strategyId :=
    orElse (orElse execution.strategyId ((intent.map IntentRecord.strategyId).getD ""))
      Exposure.exchangeRecovery
  let symbol := (orElse execution.symbol ((intent.map IntentRecord.symbol).getD "")).toUpper
  let side := orElse execution.side ((intent.map IntentRecord.side).getD "")
  if symbol = "" ∨ side = "" then .ok none
  else
    match Side.ofValue? side with
    | none => .error (.invalidStrategyExecution execution.executionId)
    | some side =>
      match ledger.applyFill (strategyId, symbol) side execution.fillQty execution.fillPrice with
      | .error _ => .error (.invalidStrategyExecution execution.executionId)
      | .ok (next, _) => .ok (some next)

/-- The executions that waited for their order's intent. -/
def replayDeferred (intent : IntentRecord) :
    Ledger (String × String) → List ExecutionRecord →
      Except RebuildError (Ledger (String × String))
  | ledger, [] => .ok ledger
  | ledger, execution :: rest =>
    match replayStrategyExecution ledger execution (some intent) with
    | .error err => .error err
    | .ok none => .error (.unresolvedExecution execution.executionId)
    | .ok (some next) => replayDeferred intent next rest

/-- The terminal ids and what is forgotten of the oldest ones, once a limit is
exceeded. -/
def expireTerminal (r : OrderReplay) (limit : ℕ) : OrderReplay :=
  let expired := r.terminalOrderOids.take (r.terminalOrderOids.length - limit)
  { r with
    terminalOrderOids := r.terminalOrderOids.drop (r.terminalOrderOids.length - limit)
    latestOrderRecords := expired.foldl Dict.erase r.latestOrderRecords
    latestCommandResults := expired.foldl Dict.erase r.latestCommandResults
    executionsByClientOid := expired.foldl Dict.erase r.executionsByClientOid }

/-- An `order_snapshot`. -/
def onSnapshot (limit : ℕ) (r : OrderReplay) (record : OrderRecord) :
    Except RebuildError OrderReplay :=
  if record.clientOid = "" then .ok r
  else
    match replayDeferred record.intent r.strategy (r.deferred.getD record.clientOid []) with
    | .error err => .error err
    | .ok strategy =>
      let noted : OrderReplay :=
        { r with
          latestOrderRecords := r.latestOrderRecords.set record.clientOid record
          latestCommandResults := r.latestCommandResults.erase record.clientOid
          executionsByClientOid := r.executionsByClientOid.erase record.clientOid
          deferred := r.deferred.erase record.clientOid
          strategy := strategy }
      let others := noted.terminalOrderOids.filter fun oid => oid ≠ record.clientOid
      if record.status ∈ OrderStatus.terminalStatuses.map OrderStatus.value then
        .ok ({ noted with terminalOrderOids := others ++
                            [record.clientOid] }.expireTerminal limit)
      else .ok { noted with terminalOrderOids := others }

/-- An `execution_record`. -/
def onExecution (r : OrderReplay) (execution : ExecutionRecord) :
    Except RebuildError OrderReplay :=
  if execution.executionId = "" then .error .missingExecutionId
  else
    let noted : OrderReplay :=
      { r with
        unverifiedExecutionSymbols :=
          if execution.tradeId < 0 ∧ 0 < execution.fillQty ∧ execution.symbol ≠ "" then
            insert execution.symbol.toUpper r.unverifiedExecutionSymbols
          else r.unverifiedExecutionSymbols
        executionsByClientOid :=
          if execution.clientOid = "" then r.executionsByClientOid
          else r.executionsByClientOid.set execution.clientOid
            (r.executionsByClientOid.getD execution.clientOid [] ++ [execution]) }
    if execution.executionId ∈ r.replayedExecutionIds then .ok noted
    else
      let remembered : OrderReplay :=
        { noted with
          replayedExecutionIds := insert execution.executionId r.replayedExecutionIds }
      match replayStrategyExecution r.strategy execution
          ((r.latestOrderRecords.get? execution.clientOid).map OrderRecord.intent) with
      | .error err => .error err
      | .ok (some strategy) => .ok { remembered with strategy := strategy }
      | .ok none =>
        .ok { remembered with
              deferred := r.deferred.set execution.clientOid
                (r.deferred.getD execution.clientOid [] ++ [execution]) }

/-- A `command_result`. -/
def onCommandResult (r : OrderReplay) (result : CommandResult) : OrderReplay :=
  if result.clientOid = "" then r
  else { r with latestCommandResults := r.latestCommandResults.set result.clientOid result }

/-- A `trade_cursor_advanced`. -/
def onCursor (r : OrderReplay) (symbol : String) (tradeId : ℤ) (source : String) : OrderReplay :=
  let symbol := symbol.toUpper
  if symbol = "" then r
  else if source = "user_stream" then
    { r with untrustedTradeCursorSymbols := insert symbol r.untrustedTradeCursorSymbols }
  else
    { r with tradeCursors := r.tradeCursors.set symbol
               (max (cursorOf r.tradeCursors symbol) tradeId) }

/-- The loop body of the rebuild, for orders and executions. -/
def step (limit : ℕ) (r : OrderReplay) : JournalRecord → Except RebuildError OrderReplay
  | .orderSnapshot record _ => r.onSnapshot limit record
  | .execution execution => r.onExecution execution
  | .commandResult result => .ok (r.onCommandResult result)
  | .tradeCursorAdvanced symbol tradeId source => .ok (r.onCursor symbol tradeId source)
  | .commandPrepared _ | .lifecycle .. | .other _ => .ok r

/-- The pass over the records. -/
def replay (limit : ℕ) : OrderReplay → List JournalRecord → Except RebuildError OrderReplay
  | r, [] => .ok r
  | r, record :: rest =>
    match r.step limit record with
    | .error err => .error err
    | .ok next => replay limit next rest

/-- Apply executions one after the other. -/
def applyExecutions (now : ℚ) : Order → List ExecutionRecord → Except RebuildError Order
  | order, [] => .ok order
  | order, execution :: rest =>
    match order.applyRecoveredExecution now execution with
    | .error err => .error err
    | .ok next => applyExecutions now next rest

/-- The order after the result of its last command, if one follows the snapshot. -/
def resolveOrder (r : OrderReplay) (now : ℚ) (clientOid : String) (order : Order) : Order :=
  match r.latestCommandResults.get? clientOid with
  | none => order
  | some result => order.applyRecoveredCommandResult now result

/-- The order a snapshot and what follows it stand for. -/
def recoverOrder (r : OrderReplay) (now : ℚ) (clientOid : String) (record : OrderRecord) :
    Except RebuildError Order :=
  match Order.fromRecord record with
  | .error err => .error (.invalidSnapshot clientOid err)
  | .ok order =>
    match applyExecutions now (r.resolveOrder now clientOid order)
        (r.executionsByClientOid.getD clientOid []) with
    | .error err => .error err
    | .ok order => .ok (order.markInflightUnknown now)

/-- The orders of all snapshots, in the order of their client ids. -/
def recoverOrders (r : OrderReplay) (now : ℚ) :
    List (String × OrderRecord) → Except RebuildError (List Order)
  | [] => .ok []
  | (clientOid, record) :: rest =>
    match r.recoverOrder now clientOid record with
    | .error err => .error err
    | .ok order =>
      match r.recoverOrders now rest with
      | .error err => .error err
      | .ok orders => .ok (order :: orders)

/-- What the rebuild leaves in memory about orders and executions. -/
structure Recovered where
  /-- `self.orders`: the active orders. -/
  orders : Dict String Order
  exchangeIdMap : Dict String String
  executionIds : Finset String
  /-- The ids of the terminal orders that were decoded, then the remaining ones. -/
  terminatedOids : List String
  strategy : Ledger (String × String)
  tradeCursors : Dict String ℤ
  untrustedTradeCursorSymbols : Finset String
  unverifiedExecutionSymbols : Finset String

/-- `_remember_terminated_oid` on the queue alone. -/
def rememberOid (limit : ℕ) (queue : List String) (oid : String) : List String :=
  if oid = "" ∨ oid ∈ queue then queue
  else if limit ≤ queue.length then queue.tail ++ [oid]
  else queue ++ [oid]

/-- An active order goes into `self.orders` and, when it has an exchange id, into
`self.exchange_id_map`. -/
def fileOrder (filed : Dict String Order × Dict String String) (order : Order) :
    Dict String Order × Dict String String :=
  if order.isActive then
    (filed.1.set order.clientOid order,
      if order.exchangeOid = "" then filed.2 else filed.2.set order.exchangeOid order.clientOid)
  else filed

/-- `self.orders` and `self.exchange_id_map` after the recovered orders are filed. -/
def fileOrders (orders : List Order) : Dict String Order × Dict String String :=
  orders.foldl fileOrder (∅, ∅)

/-- The tombstones of the terminal orders among those recovered. -/
def terminalIds (limit : ℕ) (orders : List Order) : List String :=
  orders.foldl (fun queue order =>
    if order.isTerminal then
      rememberOid limit (rememberOid limit queue order.clientOid) order.exchangeOid
    else queue) []

/-- After the last record. -/
def finish (limit : ℕ) (now : ℚ) (r : OrderReplay) : Except RebuildError Recovered :=
  match r.deferred.values.flatten with
  | execution :: _ => .error (.unresolvedExecution execution.executionId)
  | [] =>
    match r.recoverOrders now r.latestOrderRecords.items with
    | .error err => .error err
    | .ok orders =>
      let filed := fileOrders orders
      .ok { orders := filed.1
            exchangeIdMap := filed.2
            executionIds := retainCursorUncovered r.replayedExecutionIds r.tradeCursors
            terminatedOids :=
              (r.terminalOrderOids.filter fun oid =>
                filed.1.contains oid = false ∧ filed.2.contains oid = false).foldl
                  (rememberOid limit) (terminalIds limit orders)
            strategy := r.strategy
            tradeCursors := r.tradeCursors
            untrustedTradeCursorSymbols := r.untrustedTradeCursorSymbols
            unverifiedExecutionSymbols := r.unverifiedExecutionSymbols }

/-- `rebuild_from_log` without a checkpoint, as far as orders and executions go. -/
def rebuild (limit : ℕ) (now : ℚ) (journal : List JournalRecord) :
    Except RebuildError Recovered :=
  match replay limit {} journal with
  | .error err => .error err
  | .ok r => r.finish limit now

end OrderReplay

end ChronosHFT.Oms
