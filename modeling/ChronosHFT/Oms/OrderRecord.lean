import ChronosHFT.Oms.Order

/-!
# Order snapshots

`Order.to_record` writes an order into the journal, `Order.from_record` reads it
back and refuses a snapshot whose numbers do not fit together.  The writer makes
no check of its own, so whether a written snapshot can be read is a property of
the order at the time of writing: `Recoverable`.

Reading a written snapshot gives the order back except that it is marked as
recovered (`fromRecord_toRecord`), and it succeeds exactly on recoverable orders.
The record has every field the reader looks at; the monotonic clock fields are
written but not read, and are left out.
-/

namespace ChronosHFT.Oms

/-- The `intent` object of a snapshot. -/
structure IntentRecord where
  strategyId : String
  symbol : String
  side : String
  price : ℚ
  volume : ℚ
  orderType : String
  timeInForce : String
  isPostOnly : Bool
  reduceOnly : Bool
  policy : String
  tag : String
  calibrationPermitId : String
  calibrationDepthBps : Option ℚ
  calibrationReferenceMid : Option ℚ
deriving DecidableEq, Repr

/-- The payload of an `order_snapshot` record. -/
structure OrderRecord where
  clientOid : String
  exchangeOid : String
  status : String
  filledVolume : ℚ
  avgPrice : ℚ
  cumulativeCost : ℚ
  createdAt : ℚ
  updatedAt : ℚ
  recoveredFromJournal : Bool
  errorMsg : String
  lastUpdateSeq : ℤ
  lastExchangeStatus : String
  lastExchangeUpdateTime : ℚ
  intent : IntentRecord
deriving DecidableEq, Repr

/-- The `ValueError`s of `from_record`. -/
inductive RecordError where
  | unknownSide (text : String)
  | unknownPolicy (text : String)
  | unknownStatus (text : String)
  /-- `Recovered order is missing client_oid` -/
  | missingClientOid
  /-- `Recovered order {oid} is missing symbol` -/
  | missingSymbol (clientOid : String)
  /-- `Recovered order {oid} has invalid intent values` -/
  | invalidIntentValues (clientOid : String)
  /-- `Recovered order {oid} has negative state` -/
  | negativeState (clientOid : String)
  /-- `Recovered order {oid} is overfilled` -/
  | overfilled (clientOid : String)
  /-- `Recovered order {oid} has no fill price` -/
  | noFillPrice (clientOid : String)
  /-- `Recovered order {oid} has inconsistent cost` -/
  | inconsistentCost (clientOid : String)
  /-- `Recovered order {oid} has cost without fills` -/
  | costWithoutFills (clientOid : String)
deriving DecidableEq, Repr

namespace Order

/-- `to_record`. -/
def toRecord (order : Order) : OrderRecord where
  clientOid := order.clientOid
  exchangeOid := order.exchangeOid
  status := order.status.value
  filledVolume := order.filledVolume
  avgPrice := order.avgPrice
  cumulativeCost := order.cumulativeCost
  createdAt := order.createdAt
  updatedAt := order.updatedAt
  recoveredFromJournal := order.recoveredFromJournal
  errorMsg := order.errorMsg
  lastUpdateSeq := order.lastUpdateSeq
  lastExchangeStatus := order.lastExchangeStatus
  lastExchangeUpdateTime := order.lastExchangeUpdateTime
  intent :=
    { strategyId := order.intent.strategyId
      symbol := order.intent.symbol
      side := order.intent.side.value
      price := order.intent.price
      volume := order.intent.volume
      orderType := order.intent.orderType
      timeInForce := order.intent.timeInForce
      isPostOnly := order.intent.isPostOnly
      reduceOnly := order.intent.reduceOnly
      policy := order.intent.policy.value
      tag := order.intent.tag
      calibrationPermitId := order.intent.calibrationPermitId
      calibrationDepthBps := order.intent.calibrationDepthBps
      calibrationReferenceMid := order.intent.calibrationReferenceMid }

@[simp] theorem toRecord_clientOid (order : Order) :
    order.toRecord.clientOid = order.clientOid :=
  rfl

/-- `1e-8`, relative to the expected cost when that is larger. -/
def costTolerance (expectedCost : ℚ) : ℚ := max doneEps (|expectedCost| * doneEps)

/-- `_validate_recovered_state`: the first complaint, if there is one. -/
def validateRecoveredState (order : Order) : Option RecordError :=
  if order.clientOid = "" then some .missingClientOid
  else if order.intent.symbol = "" then some (.missingSymbol order.clientOid)
  else if order.intent.price ≤ 0 ∨ order.intent.volume ≤ 0 then
    some (.invalidIntentValues order.clientOid)
  else if order.filledVolume < 0 ∨ order.avgPrice < 0 ∨ order.cumulativeCost < 0 ∨
      order.createdAt < 0 ∨ order.updatedAt < 0 ∨ order.lastExchangeUpdateTime < 0 ∨
      order.lastUpdateSeq < 0 then
    some (.negativeState order.clientOid)
  else if order.intent.volume + fillEps < order.filledVolume then
    some (.overfilled order.clientOid)
  else if qtyEps < order.filledVolume then
    if order.avgPrice ≤ 0 then some (.noFillPrice order.clientOid)
    else if costTolerance (order.filledVolume * order.avgPrice) <
        |order.cumulativeCost - order.filledVolume * order.avgPrice| then
      some (.inconsistentCost order.clientOid)
    else none
  else if qtyEps < order.avgPrice ∨ qtyEps < order.cumulativeCost then
    some (.costWithoutFills order.clientOid)
  else none

/-- `from_record`. -/
def fromRecord (record : OrderRecord) : Except RecordError Order :=
  match Side.ofValue? record.intent.side with
  | none => .error (.unknownSide record.intent.side)
  | some side =>
    match ExecutionPolicy.ofValue? record.intent.policy with
    | none => .error (.unknownPolicy record.intent.policy)
    | some policy =>
      match OrderStatus.ofValue? record.status with
      | none => .error (.unknownStatus record.status)
      | some status =>
        let intent : OrderIntent :=
          { strategyId := record.intent.strategyId
            symbol := record.intent.symbol
            side := side
            price := record.intent.price
            volume := record.intent.volume
            orderType := record.intent.orderType
            timeInForce := record.intent.timeInForce
            isPostOnly := record.intent.isPostOnly
            reduceOnly := record.intent.reduceOnly
            policy := policy
            tag := record.intent.tag
            calibrationPermitId := record.intent.calibrationPermitId
            calibrationDepthBps := record.intent.calibrationDepthBps
            calibrationReferenceMid := record.intent.calibrationReferenceMid }
        let order : Order :=
          { clientOid := record.clientOid
            intent := intent.postInit
            exchangeOid := record.exchangeOid
            status := status
            filledVolume := record.filledVolume
            avgPrice := record.avgPrice
            cumulativeCost := record.cumulativeCost
            createdAt := record.createdAt
            updatedAt := record.updatedAt
            recoveredFromJournal := true
            errorMsg := record.errorMsg
            lastUpdateSeq := record.lastUpdateSeq
            lastExchangeStatus := record.lastExchangeStatus
            lastExchangeUpdateTime := record.lastExchangeUpdateTime }
        match order.validateRecoveredState with
        | some err => .error err
        | none => .ok order

/-- The snapshot of this order can be read back. -/
def Recoverable (order : Order) : Prop := order.validateRecoveredState = none

/-- The order `from_record` builds from this order's snapshot. -/
def recovered (order : Order) : Order :=
  { order with intent := order.intent.postInit, recoveredFromJournal := true }

@[simp] theorem postInit_price (intent : OrderIntent) :
    intent.postInit.price = intent.price := by
  unfold OrderIntent.postInit
  simp only
  split
  · rfl
  · split <;> rfl

@[simp] theorem postInit_volume (intent : OrderIntent) :
    intent.postInit.volume = intent.volume := by
  unfold OrderIntent.postInit
  simp only
  split
  · rfl
  · split <;> rfl

@[simp] theorem postInit_symbol (intent : OrderIntent) :
    intent.postInit.symbol = intent.symbol := by
  unfold OrderIntent.postInit
  simp only
  split
  · rfl
  · split <;> rfl

/-- The checks do not look at anything recovery changes. -/
theorem validateRecoveredState_recovered (order : Order) :
    order.recovered.validateRecoveredState = order.validateRecoveredState := by
  unfold validateRecoveredState recovered
  simp only [postInit_price, postInit_volume, postInit_symbol]

/-- **Reading back a written snapshot.** -/
theorem fromRecord_toRecord (order : Order) :
    fromRecord order.toRecord =
      match order.validateRecoveredState with
      | some err => .error err
      | none => .ok order.recovered := by
  rw [← validateRecoveredState_recovered]
  unfold fromRecord toRecord recovered
  simp only [Side.ofValue?_value, ExecutionPolicy.ofValue?_value, OrderStatus.ofValue?_value]

end Order

end ChronosHFT.Oms
