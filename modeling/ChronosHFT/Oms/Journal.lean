import ChronosHFT.Oms.OrderRecord

/-!
# Journal records

The records the OMS appends to its durable journal, each kind with the fields the
rebuilder reads from it.  A record of a kind the rebuilder does not look at is
`other`.
-/

namespace ChronosHFT.Oms

/-- `LifecycleState`. -/
inductive LifecycleState where
  | bootstrap
  | live
  | frozen
  | reconciling
  | halted
deriving DecidableEq, Repr

/-- `OMSCapabilityMode`. -/
inductive CapabilityMode where
  | live
  | degraded
  | passiveOnly
  | reduceOnly
  | cancelOnly
  | readOnly
  | lockdown
deriving DecidableEq, Repr

/-- The payload of an `execution_record`. -/
structure ExecutionRecord where
  executionId : String
  clientOid : String
  exchangeOid : String
  strategyId : String
  symbol : String
  side : String
  fillQty : ℚ
  fillPrice : ℚ
  cumFilledQty : ℚ
  exchangeStatus : String
  exchangeTime : ℚ
  tradeId : ℤ
  commission : Option ℚ
  bookedFee : ℚ
  realizedPnl : Option ℚ
  preStatus : String
deriving DecidableEq, Repr

/-- `CommandOutcome`. -/
inductive CommandOutcome where
  | acknowledged
  | rejected
  | unknown
deriving DecidableEq, Repr

/-- `command_type`. -/
inductive CommandType where
  | submit
  | cancel
deriving DecidableEq, Repr

/-- The payload of a `command_prepared` record. -/
structure CommandPrepared where
  commandId : String
  commandType : CommandType
  clientOid : String
  exchangeOid : String
  order : OrderRecord
deriving DecidableEq, Repr

/-- The payload of a `command_result` record. -/
structure CommandResult where
  commandId : String
  commandType : CommandType
  clientOid : String
  exchangeOid : String
  outcome : CommandOutcome
  errorCode : String
  errorMessage : String
deriving DecidableEq, Repr

/-- One journal record. -/
inductive JournalRecord where
  | orderSnapshot (order : OrderRecord) (source : String)
  | commandPrepared (command : CommandPrepared)
  | commandResult (result : CommandResult)
  | execution (execution : ExecutionRecord)
  | tradeCursorAdvanced (symbol : String) (tradeId : ℤ) (source : String)
  | lifecycle (state : LifecycleState) (reason : String)
  | other (kind : String)
deriving DecidableEq, Repr

namespace JournalRecord

/-- A record from which no order, execution or cursor is recovered. -/
def isQuiet : JournalRecord → Bool
  | commandPrepared _ | lifecycle .. | other _ => true
  | _ => false

end JournalRecord

/-- The records of a journal from which orders, executions and cursors are
recovered, oldest first. -/
def ledgerRecords (journal : List JournalRecord) : List JournalRecord :=
  journal.filter fun record => record.isQuiet = false

@[simp] theorem ledgerRecords_append (journal records : List JournalRecord) :
    ledgerRecords (journal ++ records) = ledgerRecords journal ++ ledgerRecords records :=
  List.filter_append ..

theorem ledgerRecords_of_isQuiet {record : JournalRecord} (h : record.isQuiet = true) :
    ledgerRecords [record] = [] := by
  unfold ledgerRecords
  rw [List.filter_cons_of_neg (by simp [h]), List.filter_nil]

theorem ledgerRecords_of_not_isQuiet {record : JournalRecord} (h : record.isQuiet = false) :
    ledgerRecords [record] = [record] := by
  unfold ledgerRecords
  rw [List.filter_cons_of_pos (by simp [h]), List.filter_nil]

end ChronosHFT.Oms
