import ChronosHFT.Oms.EventProcessor

/-!
# What one event does

The specification of `applyEvent`, stated once and used by everything that
follows.  An update either is refused, which is bookkeeping (`SameLedgers`), or it
reaches the booking with a known order; in that case the order moved without a
fill, or a fill was booked completely, or the booking stopped half-way.
`applyEvent_cases` says which, with the exact state left behind.
-/

namespace ChronosHFT.Oms

namespace OmsState

/-! ## What bookkeeping leaves alone -/

/-- Two states that differ only in audit records, lifecycle and requests. -/
structure SameLedgers (s s' : OmsState) : Prop where
  venue : s'.venue = s.venue
  orders : s'.orders = s.orders
  exchangeIdMap : s'.exchangeIdMap = s.exchangeIdMap
  executionIds : s'.executionIds = s.executionIds
  tradeCursors : s'.tradeCursors = s.tradeCursors
  exposure : s'.exposure = s.exposure
  exchangePositionEventTime : s'.exchangePositionEventTime = s.exchangePositionEventTime
  records : ledgerRecords s'.journal = ledgerRecords s.journal

namespace SameLedgers

variable {s s' s'' : OmsState}

protected theorem refl (s : OmsState) : SameLedgers s s :=
  ⟨rfl, rfl, rfl, rfl, rfl, rfl, rfl, rfl⟩

protected theorem trans (h₁ : SameLedgers s s') (h₂ : SameLedgers s' s'') : SameLedgers s s'' :=
  ⟨h₂.venue.trans h₁.venue, h₂.orders.trans h₁.orders,
    h₂.exchangeIdMap.trans h₁.exchangeIdMap, h₂.executionIds.trans h₁.executionIds,
    h₂.tradeCursors.trans h₁.tradeCursors, h₂.exposure.trans h₁.exposure,
    h₂.exchangePositionEventTime.trans h₁.exchangePositionEventTime,
    h₂.records.trans h₁.records⟩

end SameLedgers

theorem log_sameLedgers {s : OmsState} {record : JournalRecord} (h : record.isQuiet = true) :
    SameLedgers s (s.log record) := by
  refine ⟨rfl, rfl, rfl, rfl, rfl, rfl, rfl, ?_⟩
  show ledgerRecords (s.journal ++ [record]) = ledgerRecords s.journal
  rw [ledgerRecords_append, ledgerRecords_of_isQuiet h, List.append_nil]

theorem audit_sameLedgers (s : OmsState) (kind : String) : SameLedgers s (s.audit kind) :=
  log_sameLedgers rfl

theorem queueReconcile_sameLedgers (s : OmsState) (reason oid : String) :
    SameLedgers s (s.queueReconcile reason oid) := by
  unfold queueReconcile
  split
  · exact SameLedgers.refl s
  simp only
  split
  · split <;> exact ⟨rfl, rfl, rfl, rfl, rfl, rfl, rfl, rfl⟩
  · split <;> exact ⟨rfl, rfl, rfl, rfl, rfl, rfl, rfl, rfl⟩

theorem freezeUnlessSettling_sameLedgers (s : OmsState) (reason : String) :
    SameLedgers s (s.freezeUnlessSettling reason) := by
  unfold freezeUnlessSettling
  split
  · exact SameLedgers.refl s
  · have hfrozen : SameLedgers s { s with lifecycle := .frozen, lastFreezeReason := reason } :=
      ⟨rfl, rfl, rfl, rfl, rfl, rfl, rfl, rfl⟩
    exact hfrozen.trans (log_sameLedgers rfl)

theorem noteMismatch_sameLedgers (s : OmsState) (order : Order) (u : ExchangeOrderUpdate) :
    SameLedgers s (s.noteMismatch order u) := by
  unfold noteMismatch
  split
  · exact (audit_sameLedgers s _).trans ⟨rfl, rfl, rfl, rfl, rfl, rfl, rfl, rfl⟩
  · exact SameLedgers.refl s

theorem quarantineInvalid_sameLedgers (s : OmsState)
    (clientOid exchangeOid symbol detail : String) :
    SameLedgers s (s.quarantineInvalid clientOid exchangeOid symbol detail) :=
  ((audit_sameLedgers s _).trans (freezeUnlessSettling_sameLedgers _ _)).trans
    (queueReconcile_sameLedgers _ _ _)

theorem quarantineGap_sameLedgers (s : OmsState) (order : Order) (label : String) :
    SameLedgers s (s.quarantineGap order label) :=
  ((audit_sameLedgers s _).trans (freezeUnlessSettling_sameLedgers _ _)).trans
    (queueReconcile_sameLedgers _ _ _)

theorem rememberTerminatedOid_sameLedgers (s : OmsState) (oid : String) :
    SameLedgers s (s.rememberTerminatedOid oid) := by
  unfold rememberTerminatedOid
  split
  · exact SameLedgers.refl s
  · split <;> exact ⟨rfl, rfl, rfl, rfl, rfl, rfl, rfl, rfl⟩

theorem writeTombstone_sameLedgers (s : OmsState) (order : Order) :
    SameLedgers s (s.writeTombstone order) :=
  (rememberTerminatedOid_sameLedgers s _).trans (rememberTerminatedOid_sameLedgers _ _)

theorem bookBalance_sameLedgers (s : OmsState) (u : ExchangeOrderUpdate) (pnl fee : ℚ) :
    SameLedgers s (s.bookBalance u pnl fee) := by
  unfold bookBalance
  split
  · exact audit_sameLedgers s _
  · exact ⟨rfl, rfl, rfl, rfl, rfl, rfl, rfl, rfl⟩

/-- A refused update is only bookkeeping. -/
theorem applyJudged_sameLedgers (env : EventEnv) (s : OmsState) (u : ExchangeOrderUpdate)
    {judgement : Judgement}
    (h : ∀ key order status, judgement ≠ .proceed key order status) :
    SameLedgers s (s.applyJudged env u judgement) := by
  cases judgement with
  | lateDuplicate oid => exact audit_sameLedgers s _
  | unknownOrder tombstoned =>
    have hnoted : SameLedgers s
        (if tombstoned = "" then s else s.audit "late_tombstone_truth_conflict") := by
      split
      · exact SameLedgers.refl s
      · exact audit_sameLedgers s _
    exact (hnoted.trans (audit_sameLedgers _ _)).trans (queueReconcile_sameLedgers _ _ _)
  | staleSeq => exact audit_sameLedgers s _
  | staleTime => exact audit_sameLedgers s _
  | unsupportedStatus label =>
    exact (audit_sameLedgers s _).trans (quarantineInvalid_sameLedgers _ _ _ _ _)
  | exchangeOidMismatch order =>
    exact (audit_sameLedgers s _).trans (queueReconcile_sameLedgers _ _ _)
  | cumFillRegression key order =>
    exact ((noteMismatch_sameLedgers s order u).trans (audit_sameLedgers _ _)).trans
      (queueReconcile_sameLedgers _ _ _)
  | executionGap key order delta detail =>
    exact (noteMismatch_sameLedgers s order u).trans (quarantineGap_sameLedgers _ _ _)
  | duplicateExecution key order =>
    exact (noteMismatch_sameLedgers s order u).trans (audit_sameLedgers _ _)
  | proceed key order status => exact absurd rfl (h key order status)

end OmsState

/-! ## The order's own part

What an update does to its order depends on the order and the update alone. -/

namespace Order

/-- The fill of an update, as the order books it. -/
def applyFill (order : Order) (now : ℚ) (u : ExchangeOrderUpdate) :
    Order × Except OrderError Bool :=
  if qtyEps < incomingDelta order u then
    order.addFill now (incomingDelta order u) u.filledPrice
      { exchangeStatus := u.status, updateTime := u.updateTime, seq := u.seq }
  else
    (order.noteExchangeUpdate now
      { exchangeStatus := u.status, updateTime := u.updateTime, seq := u.seq,
        exchangeOid := u.exchangeOid }, .ok false)

/-- The completion a `FILLED` message asks for after its fill. -/
def complete (now : ℚ) (u : ExchangeOrderUpdate) :
    Order × Except OrderError Bool → Order × Except OrderError Bool
  | (order, .error err) => (order, .error err)
  | (order, .ok hadFill) =>
    match order.markFilled now u.updateTime u.seq with
    | (after, .error err) => (after, .error err)
    | (after, .ok _) => (after, .ok hadFill)

/-- The report of a status change: it is not a fill. -/
def withoutFill : Order × Except OrderError Bool → Order × Except OrderError Bool
  | (order, .error err) => (order, .error err)
  | (order, .ok _) => (order, .ok false)

/-- What an update does to its order, and whether it was a fill. -/
def applyUpdate (order : Order) (now : ℚ) (u : ExchangeOrderUpdate) :
    UpdateStatus → Order × Except OrderError Bool
  | .new => withoutFill (order.markNew now u.exchangeOid u.updateTime u.seq)
  | .canceled => withoutFill (order.markCancelled now u.updateTime u.seq u.status)
  | .expired => withoutFill (order.markExpired now u.updateTime u.seq)
  | .rejected =>
    withoutFill (order.markRejected now "exchange_rejected" u.updateTime u.seq u.status)
  | .partiallyFilled => order.applyFill now u
  | .filled => complete now u (order.applyFill now u)

end Order

namespace Order

/-- Two states of one order: identity and intent are the same. -/
structure SameIdentity (a b : Order) : Prop where
  clientOid : a.clientOid = b.clientOid
  intent : a.intent = b.intent
  createdAt : a.createdAt = b.createdAt

protected theorem SameIdentity.trans {a b c : Order} (h₁ : SameIdentity a b)
    (h₂ : SameIdentity b c) : SameIdentity a c :=
  ⟨h₁.clientOid.trans h₂.clientOid, h₁.intent.trans h₂.intent,
    h₁.createdAt.trans h₂.createdAt⟩

theorem SameBooks.identity {a b : Order} (h : SameBooks a b) : SameIdentity a b :=
  ⟨h.clientOid, h.intent, h.createdAt⟩

theorem addFill_identity (order : Order) (now qty price : ℚ) (note : ExchangeNote) :
    SameIdentity (order.addFill now qty price note).1 order := by
  unfold addFill
  split
  · exact ⟨rfl, rfl, rfl⟩
  split
  · exact ⟨rfl, rfl, rfl⟩
  have hmove := (transition_sameBooks (order.bookFill qty price) now
    (order.bookFill qty price).fillStatus "" note).identity
  simp only
  split
  · next after moved heq =>
    rw [heq] at hmove
    exact ⟨hmove.clientOid, hmove.intent, hmove.createdAt⟩
  · next after err heq =>
    rw [heq] at hmove
    exact ⟨hmove.clientOid, hmove.intent, hmove.createdAt⟩

theorem applyFill_identity (order : Order) (now : ℚ) (u : ExchangeOrderUpdate) :
    SameIdentity (order.applyFill now u).1 order := by
  unfold applyFill
  split
  · exact addFill_identity order now _ _ _
  · exact (noteExchangeUpdate_sameBooks order now _).identity

theorem withoutFill_identity {moved : Order × Except OrderError Bool} {order : Order}
    (h : SameBooks moved.1 order) : SameIdentity (withoutFill moved).1 order := by
  obtain ⟨after, result⟩ := moved
  cases result <;> exact h.identity

theorem complete_identity (now : ℚ) (u : ExchangeOrderUpdate) {order : Order}
    {filled : Order × Except OrderError Bool} (h : SameIdentity filled.1 order) :
    SameIdentity (complete now u filled).1 order := by
  obtain ⟨after, result⟩ := filled
  cases result with
  | error err => exact h
  | ok hadFill =>
    have hmark : SameIdentity (after.markFilled now u.updateTime u.seq).1 after := by
      unfold markFilled
      split
      · exact ⟨rfl, rfl, rfl⟩
      · exact (transition_sameBooks after now .filled "" _).identity
    unfold complete
    simp only
    split
    · next final err heq =>
      rw [heq] at hmark
      exact hmark.trans h
    · next final moved heq =>
      rw [heq] at hmark
      exact hmark.trans h

/-- **No update changes what an order is.** -/
theorem applyUpdate_identity (order : Order) (now : ℚ) (u : ExchangeOrderUpdate)
    (status : UpdateStatus) : SameIdentity (order.applyUpdate now u status).1 order := by
  cases status with
  | new => exact withoutFill_identity (transition_sameBooks order now .new _ _)
  | canceled => exact withoutFill_identity (transition_sameBooks order now .cancelled _ _)
  | expired => exact withoutFill_identity (transition_sameBooks order now .expired _ _)
  | rejected => exact withoutFill_identity (transition_sameBooks order now .rejected _ _)
  | partiallyFilled => exact applyFill_identity order now u
  | filled => exact complete_identity now u (applyFill_identity order now u)

end Order

/-- The ledgers after a fill: the strategy's, the net position unless an account
update has covered it, and the residual. -/
def Exposure.fillLedgers (e : Exposure) (intent : OrderIntent) (qty price : ℚ)
    (synced : Bool) : Exposure :=
  let attributed :=
    match e.onStrategyFill intent.strategyId intent.symbol intent.side qty price with
    | .ok (next, _) => next
    | .error _ => e
  let positioned :=
    if synced then attributed
    else
      match attributed.onFill intent.symbol intent.side qty price with
      | .ok (next, _) => next
      | .error _ => attributed
  positioned.reconcileStrategyPosition intent.symbol
    (positioned.netPositions.getD intent.symbol 0) (positioned.avgPrices.getD intent.symbol 0)

namespace OmsState

/-! ## The steps of a booking -/

/-- A booking under way: the order filed under `key` is now `after`, the ledgers
are `exposure`, the identities `ids`, and `records` have been journaled. -/
structure Staged (oid : String) (s t : OmsState) (key : String) (after : Order)
    (exposure : Exposure) (ids : Finset String) (records : List JournalRecord) : Prop where
  venue : t.venue = s.venue
  tradeCursors : t.tradeCursors = s.tradeCursors
  exchangeIdMap : t.exchangeIdMap = s.exchangeIdMap ∨
    (oid ≠ "" ∧ t.exchangeIdMap = s.exchangeIdMap.set oid key)
  orders : t.orders = s.orders.set key after
  exposure : t.exposure = exposure
  executionIds : t.executionIds = ids
  records : ledgerRecords t.journal = ledgerRecords s.journal ++ records

namespace Staged

variable {oid : String} {s t t' : OmsState} {key : String} {after : Order} {exposure : Exposure}
  {ids : Finset String} {records : List JournalRecord}

/-- Bookkeeping before the booking. -/
theorem of_sameLedgers (h₁ : SameLedgers s t)
    (h₂ : Staged oid t t' key after exposure ids records) :
    Staged oid s t' key after exposure ids records :=
  ⟨h₂.venue.trans h₁.venue, h₂.tradeCursors.trans h₁.tradeCursors,
    by rw [← h₁.exchangeIdMap]; exact h₂.exchangeIdMap, by
    rw [h₂.orders, h₁.orders], h₂.exposure,
    h₂.executionIds, by rw [h₂.records, h₁.records]⟩

/-- Bookkeeping after the booking. -/
theorem then_sameLedgers (h₁ : Staged oid s t key after exposure ids records)
    (h₂ : SameLedgers t t') : Staged oid s t' key after exposure ids records :=
  ⟨h₂.venue.trans h₁.venue, h₂.tradeCursors.trans h₁.tradeCursors,
    by rw [h₂.exchangeIdMap]; exact h₁.exchangeIdMap, by rw [h₂.orders, h₁.orders],
    h₂.exposure.trans h₁.exposure, h₂.executionIds.trans h₁.executionIds,
    by rw [h₂.records, h₁.records]⟩

/-- The order changes once more. -/
theorem putOrder (h : Staged oid s t key after exposure ids records) (next : Order) :
    Staged oid s (t.putOrder key next) key next exposure ids records :=
  ⟨h.venue, h.tradeCursors, h.exchangeIdMap,
    by
      show t.orders.set key next = s.orders.set key next
      rw [h.orders, Dict.set_set],
    h.exposure, h.executionIds, h.records⟩

end Staged

theorem onStrategyFill_ok (e : Exposure) (strategyId symbol : String) (side : Side)
    {qty price : ℚ}
    (hqty : 0 < qty) (hprice : 0 < price) :
    ∃ next pnl, e.onStrategyFill strategyId symbol side qty price = .ok (next, pnl) := by
  unfold Exposure.onStrategyFill Ledger.applyFill
  rw [if_neg (by push Not; exact ⟨hqty, hprice⟩)]
  exact ⟨_, _, rfl⟩

theorem onFill_ok (e : Exposure) (symbol : String) (side : Side) {qty price : ℚ}
    (hqty : 0 < qty) (hprice : 0 < price) :
    ∃ next pnl, e.onFill symbol side qty price = .ok (next, pnl) := by
  unfold Exposure.onFill Ledger.applyFill
  rw [if_neg (by push Not; exact ⟨hqty, hprice⟩)]
  exact ⟨_, _, rfl⟩

/-- Recording an execution is the first step. -/
theorem recordExecution_staged (oid : String) (s : OmsState) (key : String) (order after : Order)
    (u : ExchangeOrderUpdate) (qty fee : ℚ) :
    Staged oid s ((s.recordExecution order u qty fee).putOrder key after) key after s.exposure
      (insert (s.executionId order u) s.executionIds)
      [.execution (s.executionRecord order u qty fee)] := by
  refine ⟨rfl, rfl, Or.inl rfl, rfl, rfl, rfl, ?_⟩
  show ledgerRecords (s.journal ++ [_]) = _
  rw [ledgerRecords_append, ledgerRecords_of_not_isQuiet rfl]

variable {s t : OmsState} {key : String} {after order : Order} {u : ExchangeOrderUpdate}
  {status : UpdateStatus}

/-- The position step changes the ledgers only. -/
theorem bookPosition_staged {oid : String} (order : Order)
    {exposure : Exposure} {ids : Finset String} {records : List JournalRecord}
    (h : Staged oid s t key after exposure ids records)
    (htime : t.exchangePositionEventTime = s.exchangePositionEventTime)
    (u : ExchangeOrderUpdate) {qty : ℚ} (hqty : 0 < qty) (hprice : 0 < u.filledPrice) :
    ∃ t' pnl, t.bookPosition order u qty = .ok (t', pnl) ∧
      Staged oid s t' key after
        (if s.positionAlreadySynced order.intent.symbol u then exposure
          else
            match exposure.onFill order.intent.symbol order.intent.side qty u.filledPrice with
            | .ok (next, _) => next
            | .error _ => exposure) ids records := by
  have hsynced : t.positionAlreadySynced order.intent.symbol u =
      s.positionAlreadySynced order.intent.symbol u := by
    unfold positionAlreadySynced
    rw [htime]
  unfold bookPosition
  simp only [hsynced]
  cases hcase : s.positionAlreadySynced order.intent.symbol u with
  | true =>
    refine ⟨t.audit "fill_position_already_covered", 0, rfl, ?_⟩
    exact h.then_sameLedgers (audit_sameLedgers t _)
  | false =>
    obtain ⟨next, pnl, hfill⟩ :=
      onFill_ok t.exposure order.intent.symbol order.intent.side hqty hprice
    rw [h.exposure] at hfill
    simp only [Bool.false_eq_true, if_false, h.exposure, hfill]
    refine ⟨_, pnl, rfl, ?_⟩
    exact ⟨h.venue, h.tradeCursors, h.exchangeIdMap, h.orders, rfl, h.executionIds, h.records⟩

/-- The order-level result of a booking, as the state-level one reports it. -/
def asBooking : Except OrderError Bool → Except BookingError Bool
  | .ok hadFill => .ok hadFill
  | .error err => .error (.order err)

/-- The ledgers after the fill of an update, if it has one the order accepts. -/
def filledExposure (env : EventEnv) (s : OmsState) (order : Order) (u : ExchangeOrderUpdate) :
    Exposure :=
  match (order.applyFill env.now u).2 with
  | .ok _ =>
    if qtyEps < incomingDelta order u then
      s.exposure.fillLedgers order.intent (incomingDelta order u) u.filledPrice
        (s.positionAlreadySynced order.intent.symbol u)
    else s.exposure
  | .error _ => s.exposure

/-- The identities after an update. -/
def idsAfter (s : OmsState) (order : Order) (u : ExchangeOrderUpdate) : Finset String :=
  if qtyEps < incomingDelta order u then insert (s.executionId order u) s.executionIds
  else s.executionIds

/-- The execution record of an update, if it has one. -/
def executionRecords (env : EventEnv) (s : OmsState) (order : Order) (u : ExchangeOrderUpdate) :
    List JournalRecord :=
  if qtyEps < incomingDelta order u then
    [.execution (s.executionRecord order u (incomingDelta order u)
      (fillCommission env u order (incomingDelta order u * u.filledPrice)))]
  else []

/-- The snapshot `finishUpdate` journals. -/
def snapshotRecords (before : Order) : Order × Except OrderError Bool → List JournalRecord
  | (_, .error _) => []
  | (after, .ok hadFill) =>
    if after.status ≠ before.status ∨ hadFill = true then
      [.orderSnapshot after.toRecord "exchange_update"]
    else []

theorem bookFill_staged (env : EventEnv) (s : OmsState) (key : String) (order : Order)
    (u : ExchangeOrderUpdate) (hdelta : qtyEps < incomingDelta order u)
    (hprice : 0 < u.filledPrice) :
    (s.bookFill env key order u).2 = asBooking (order.applyFill env.now u).2 ∧
      Staged u.exchangeOid s (s.bookFill env key order u).1 key (order.applyFill env.now u).1
        (filledExposure env s order u) (s.idsAfter order u)
          (executionRecords env s order u) := by
  have hqty : 0 < incomingDelta order u := qtyEps_pos.trans hdelta
  have hfill : order.applyFill env.now u = order.addFill env.now (incomingDelta order u)
      u.filledPrice { exchangeStatus := u.status, updateTime := u.updateTime, seq := u.seq } :=
    if_pos hdelta
  unfold filledExposure idsAfter executionRecords
  rw [if_pos hdelta, if_pos hdelta, if_pos hdelta]
  unfold bookFill
  rw [hfill]
  cases hadd : order.addFill env.now (incomingDelta order u) u.filledPrice
      { exchangeStatus := u.status, updateTime := u.updateTime, seq := u.seq } with
  | mk after result =>
    have hrecorded := recordExecution_staged u.exchangeOid s key order after u
      (incomingDelta order u)
      (fillCommission env u order (incomingDelta order u * u.filledPrice))
    simp only [hadd]
    cases result with
    | error err => exact ⟨rfl, hrecorded⟩
    | ok hadFill =>
      obtain ⟨attributed, pnl, hattributed⟩ := onStrategyFill_ok s.exposure
        order.intent.strategyId order.intent.symbol order.intent.side hqty hprice
      have hattributed' : Staged u.exchangeOid s
          { (s.recordExecution order u (incomingDelta order u)
          (fillCommission env u order (incomingDelta order u * u.filledPrice))).putOrder key
            after with exposure := attributed } key after attributed
          (insert (s.executionId order u) s.executionIds)
          [.execution (s.executionRecord order u (incomingDelta order u)
            (fillCommission env u order (incomingDelta order u * u.filledPrice)))] :=
        ⟨rfl, rfl, Or.inl rfl, rfl, rfl, rfl, hrecorded.records⟩
      obtain ⟨positioned, localPnl, hpositioned, hstaged⟩ :=
        bookPosition_staged order hattributed' rfl u hqty hprice
      have hexposure : ((s.recordExecution order u (incomingDelta order u)
          (fillCommission env u order (incomingDelta order u * u.filledPrice))).putOrder key
            after).exposure = s.exposure := rfl
      simp only [hexposure, hattributed, hpositioned]
      refine ⟨rfl, ?_⟩
      have hreconciled : Staged u.exchangeOid s
          (positioned.reconcileStrategy order.intent.symbol)
          key after
          (s.exposure.fillLedgers order.intent (incomingDelta order u) u.filledPrice
            (s.positionAlreadySynced order.intent.symbol u))
          (insert (s.executionId order u) s.executionIds)
          [.execution (s.executionRecord order u (incomingDelta order u)
            (fillCommission env u order (incomingDelta order u * u.filledPrice)))] := by
        refine ⟨hstaged.venue, hstaged.tradeCursors, hstaged.exchangeIdMap, hstaged.orders, ?_,
          hstaged.executionIds, hstaged.records⟩
        unfold reconcileStrategy Exposure.fillLedgers
        simp only [hstaged.exposure, hattributed]
      exact hreconciled.then_sameLedgers (bookBalance_sameLedgers _ u localPnl _)

theorem applyFillUpdate_staged (env : EventEnv) (s : OmsState) (key : String) (order : Order)
    (u : ExchangeOrderUpdate) (hprice : qtyEps < incomingDelta order u → 0 < u.filledPrice)
    (complete : Bool) :
    (s.applyFillUpdate env key order u complete).2 =
        asBooking (if complete then Order.complete env.now u (order.applyFill env.now u)
          else order.applyFill env.now u).2 ∧
      Staged u.exchangeOid s (s.applyFillUpdate env key order u complete).1 key
        (if complete then Order.complete env.now u (order.applyFill env.now u)
          else order.applyFill env.now u).1
        (filledExposure env s order u) (s.idsAfter order u)
          (executionRecords env s order u) := by
  -- The first half: the fill, or the note of an update without one.
  have hfirst : ∃ booked result,
      (if qtyEps < incomingDelta order u then s.bookFill env key order u
        else (s.putOrder key (order.noteExchangeUpdate env.now
          { exchangeStatus := u.status, updateTime := u.updateTime, seq := u.seq,
            exchangeOid := u.exchangeOid }), .ok false)) = (booked, result) ∧
      result = asBooking (order.applyFill env.now u).2 ∧
      Staged u.exchangeOid s booked key (order.applyFill env.now u).1
        (filledExposure env s order u) (s.idsAfter order u)
        (executionRecords env s order u) := by
    by_cases hdelta : qtyEps < incomingDelta order u
    · rw [if_pos hdelta]
      exact ⟨_, _, rfl, (bookFill_staged env s key order u hdelta (hprice hdelta)).1,
        (bookFill_staged env s key order u hdelta (hprice hdelta)).2⟩
    · rw [if_neg hdelta]
      unfold filledExposure idsAfter executionRecords Order.applyFill
      rw [if_neg hdelta, if_neg hdelta, if_neg hdelta, if_neg hdelta]
      refine ⟨_, _, rfl, rfl, rfl, rfl, Or.inl rfl, rfl, rfl, rfl, ?_⟩
      rw [List.append_nil]
      rfl
  obtain ⟨booked, result, hbooked, hresult, hstaged⟩ := hfirst
  unfold applyFillUpdate
  simp only [hbooked, hresult]
  cases hfill : order.applyFill env.now u with
  | mk after outcome =>
    rw [hfill] at hstaged
    cases outcome with
    | error err =>
      cases complete with
      | false => exact ⟨rfl, hstaged⟩
      | true => exact ⟨rfl, hstaged⟩
    | ok hadFill =>
      cases complete with
      | false => exact ⟨rfl, hstaged⟩
      | true =>
        have hget : booked.orders.get? key = some after := by
          rw [hstaged.orders]
          exact Dict.get?_set_self _ _ _
        simp only [asBooking, if_true, hget, Order.complete]
        cases hmark : after.markFilled env.now u.updateTime u.seq with
        | mk next report =>
          cases report with
          | error err => exact ⟨rfl, hstaged.putOrder next⟩
          | ok moved =>
            exact ⟨rfl, (hstaged.putOrder next).then_sameLedgers
              (writeTombstone_sameLedgers _ next)⟩

/-- A status change without a fill. -/
theorem applyMove_staged (env : EventEnv) (hdelta : ¬qtyEps < incomingDelta order u)
    (moved : Order × Except OrderError Bool) {next : OmsState → OmsState}
    (hnext : ∀ t, Staged u.exchangeOid s t key moved.1 s.exposure s.executionIds [] →
      t.exchangeIdMap = s.exchangeIdMap →
      Staged u.exchangeOid s (next t) key moved.1 s.exposure s.executionIds []) :
    (s.applyMove key moved next).2 = asBooking (Order.withoutFill moved).2 ∧
      Staged u.exchangeOid s (s.applyMove key moved next).1 key (Order.withoutFill moved).1
        (filledExposure env s order u) (s.idsAfter order u)
          (executionRecords env s order u) := by
  have hfilled : filledExposure env s order u = s.exposure := by
    unfold filledExposure
    split
    · exact if_neg hdelta
    · rfl
  unfold idsAfter executionRecords
  rw [if_neg hdelta, if_neg hdelta, hfilled]
  have hput : Staged u.exchangeOid s (s.putOrder key moved.1) key moved.1 s.exposure
      s.executionIds [] :=
    ⟨rfl, rfl, Or.inl rfl, rfl, rfl, rfl, (List.append_nil _).symm⟩
  obtain ⟨after, result⟩ := moved
  cases result with
  | error err => exact ⟨rfl, hput⟩
  | ok b => exact ⟨rfl, hnext _ hput rfl⟩

/-- **The `try` block.**  Its report is the order's, and it stages the order's
update with the fill's ledgers, identity and record. -/
theorem applyStatus_staged (env : EventEnv) (s : OmsState) (key : String) (order : Order)
    (u : ExchangeOrderUpdate) (status : UpdateStatus)
    (hprice : qtyEps < incomingDelta order u → 0 < u.filledPrice)
    (hfill : qtyEps < incomingDelta order u → status.isFill = true) :
    (s.applyStatus env key order u status).2 =
        asBooking (order.applyUpdate env.now u status).2 ∧
      Staged u.exchangeOid s (s.applyStatus env key order u status).1 key
        (order.applyUpdate env.now u status).1
        (filledExposure env s order u) (s.idsAfter order u)
          (executionRecords env s order u) := by
  have hmove : status.isFill = false → ¬qtyEps < incomingDelta order u := by
    intro hnot hdelta
    rw [hfill hdelta] at hnot
    cases hnot
  have htombstone : ∀ (moved : Order) (t : OmsState),
      Staged u.exchangeOid s t key moved s.exposure s.executionIds [] →
      t.exchangeIdMap = s.exchangeIdMap →
      Staged u.exchangeOid s (t.writeTombstone order) key moved s.exposure s.executionIds [] :=
    fun moved t ht _ => ht.then_sameLedgers (writeTombstone_sameLedgers t order)
  cases status with
  | new =>
    refine applyMove_staged env (hmove rfl) _ ?_
    intro t ht hmap
    by_cases hoid : u.exchangeOid = ""
    · simpa only [hoid, if_true] using ht
    simp only [hoid, if_false]
    refine ⟨ht.venue, ht.tradeCursors, Or.inr ⟨hoid, ?_⟩, ht.orders, ht.exposure,
      ht.executionIds, ht.records⟩
    show t.exchangeIdMap.set u.exchangeOid key = _
    rw [hmap]
  | canceled => exact applyMove_staged env (hmove rfl) _ (htombstone _)
  | expired => exact applyMove_staged env (hmove rfl) _ (htombstone _)
  | rejected => exact applyMove_staged env (hmove rfl) _ (htombstone _)
  | partiallyFilled => exact applyFillUpdate_staged env s key order u hprice false
  | filled => exact applyFillUpdate_staged env s key order u hprice true

/-! ## The whole event -/

/-- What is known about an update that reaches the booking. -/
structure Judged (s : OmsState) (u : ExchangeOrderUpdate) (key : String) (order : Order)
    (status : UpdateStatus) : Prop where
  found : s.findOrder u = some (key, order)
  supported : UpdateStatus.ofText? u.status = some status
  oid : u.exchangeOid = "" ∨ order.exchangeOid = "" ∨ order.exchangeOid = u.exchangeOid
  delta : order.filledVolume ≤ u.cumFilledQty + qtyEps
  gap : qtyEps < incomingDelta order u → gapDetail u status (incomingDelta order u) = none
  fresh : qtyEps < incomingDelta order u → s.executionId order u ∉ s.executionIds

theorem judge_proceed (h : s.judge u = .proceed key order status) :
    Judged s u key order status := by
  unfold judge at h
  cases hfound : s.findOrder u with
  | none =>
    simp only [hfound] at h
    split at h <;> cases h
  | some entry =>
    obtain ⟨key', order'⟩ := entry
    simp only [hfound] at h
    split at h
    · cases h
    split at h
    · cases h
    cases hstatus : UpdateStatus.ofText? u.status with
    | none =>
      simp only [hstatus] at h
      cases h
    | some status' =>
      simp only [hstatus] at h
      split at h
      · cases h
      next hoid =>
      split at h
      · cases h
      next hregression =>
      have hoid' : u.exchangeOid = "" ∨ order'.exchangeOid = "" ∨
          order'.exchangeOid = u.exchangeOid := by
        by_contra hall
        push Not at hall
        exact hoid hall
      split at h
      · next hdelta =>
        cases hgap : gapDetail u status' (incomingDelta order' u) with
        | some detail =>
          simp only [hgap] at h
          cases h
        | none =>
          simp only [hgap] at h
          split at h
          · cases h
          next hfresh =>
          cases h
          exact ⟨hfound, hstatus, hoid', not_lt.mp hregression, fun _ => hgap,
            fun _ => hfresh⟩
      · next hdelta =>
        cases h
        exact ⟨hfound, hstatus, hoid', not_lt.mp hregression,
          fun habsurd => absurd habsurd hdelta, fun habsurd => absurd habsurd hdelta⟩

/-- What the gap tests leave. -/
theorem gapDetail_none {delta : ℚ} (h : gapDetail u status delta = none) :
    status.isFill = true ∧ 0 ≤ u.tradeId ∧ 0 < u.filledQty ∧ 0 < u.filledPrice ∧
      |delta - u.filledQty| ≤ max qtyEps (|delta| * qtyEps) := by
  unfold gapDetail at h
  split at h
  · cases h
  next hfill =>
  split at h
  · cases h
  next htrade =>
  split at h
  · cases h
  next hqty =>
  split at h
  · cases h
  next hprice =>
  split at h
  · cases h
  next hdelta =>
  exact ⟨by simpa using hfill, not_lt.mp htrade, not_le.mp hqty, not_le.mp hprice,
    not_lt.mp hdelta⟩

theorem findOrder_get?
    (h : s.findOrder u = some (key, order)) : s.orders.get? key = some order := by
  unfold findOrder at h
  cases hclient : s.orders.get? u.clientOid with
  | some found =>
    simp only [hclient] at h
    cases h
    exact hclient
  | none =>
    simp only [hclient] at h
    split at h
    · cases h
    cases hmap : s.exchangeIdMap.get? u.exchangeOid with
    | none =>
      simp only [hmap] at h
      cases h
    | some mapped =>
      simp only [hmap] at h
      obtain ⟨found, hfound, heq⟩ := Option.map_eq_some_iff.mp h
      cases heq
      exact hfound

/-- **The effect of an update that reaches the booking.** -/
structure Applied (env : EventEnv) (s s' : OmsState) (u : ExchangeOrderUpdate) (key : String)
    (order : Order) (status : UpdateStatus) : Prop where
  venue : s'.venue = s.venue
  tradeCursors : s'.tradeCursors = s.tradeCursors
  exchangeIdMap : s'.exchangeIdMap = s.exchangeIdMap ∨
    (u.exchangeOid ≠ "" ∧ s'.exchangeIdMap = s.exchangeIdMap.set u.exchangeOid key)
  orders : s'.orders = s.orders.set key (order.applyUpdate env.now u status).1
  executionIds : s'.executionIds = s.idsAfter order u
  /-- The ledgers follow an accepted fill; the open quantities are recomputed when
  nothing was raised. -/
  exposure : s'.exposure =
    match (order.applyUpdate env.now u status).2 with
    | .ok _ => (filledExposure env s order u).updateOpenOrders s'.orders
    | .error _ => filledExposure env s order u
  /-- The execution is journaled whatever happens next. -/
  records : ledgerRecords s'.journal = ledgerRecords s.journal ++
    executionRecords env s order u ++ snapshotRecords order (order.applyUpdate env.now u status)

theorem finishUpdate_applied {env : EventEnv} {result : Except BookingError Bool}
    (hresult : result = asBooking (order.applyUpdate env.now u status).2)
    (hstaged : Staged u.exchangeOid s t key (order.applyUpdate env.now u status).1
      (filledExposure env s order u) (s.idsAfter order u) (executionRecords env s order u)) :
    Applied env s (finishUpdate order key (t, result)) u key order status := by
  have hget : t.orders.get? key = some (order.applyUpdate env.now u status).1 := by
    rw [hstaged.orders]
    exact Dict.get?_set_self _ _ _
  cases hupdate : order.applyUpdate env.now u status with
  | mk after report =>
    rw [hupdate] at hresult hstaged hget
    cases report with
    | error err =>
      cases hresult
      have hsame := (audit_sameLedgers t "invalid_transition").trans
        (queueReconcile_sameLedgers _ ("Invalid transition " ++ order.clientOid)
          order.clientOid)
      have hstaged' := hstaged.then_sameLedgers hsame
      refine ⟨hstaged'.venue, hstaged'.tradeCursors, hstaged'.exchangeIdMap, ?_,
        hstaged'.executionIds, ?_, ?_⟩
      · rw [hupdate]
        exact hstaged'.orders
      · rw [hupdate]
        exact hstaged'.exposure
      · rw [hupdate]
        exact hstaged'.records.trans (List.append_nil _).symm
    | ok hadFill =>
      cases hresult
      have hget' : t.orders.get? key = some after := hget
      simp only [finishUpdate, asBooking, hget']
      by_cases hchanged : after.status ≠ order.status ∨ hadFill = true
      · rw [if_pos hchanged]
        refine ⟨hstaged.venue, hstaged.tradeCursors, hstaged.exchangeIdMap, ?_,
          hstaged.executionIds, ?_, ?_⟩
        · rw [hupdate]
          exact hstaged.orders
        · rw [hupdate, ← hstaged.exposure]
          rfl
        rw [hupdate]
        show ledgerRecords (t.journal ++ [_]) = _
        simp only [snapshotRecords]
        rw [if_pos hchanged, ledgerRecords_append, ledgerRecords_of_not_isQuiet rfl,
          hstaged.records]
      · rw [if_neg hchanged]
        refine ⟨hstaged.venue, hstaged.tradeCursors, hstaged.exchangeIdMap, ?_,
          hstaged.executionIds, ?_, ?_⟩
        · rw [hupdate]
          exact hstaged.orders
        · rw [hupdate, ← hstaged.exposure]
        rw [hupdate]
        simp only [snapshotRecords]
        rw [if_neg hchanged, List.append_nil]
        exact hstaged.records

/-- Reading before or after bookkeeping makes no difference. -/
theorem staged_noteMismatch {env : EventEnv} {t' : OmsState}
    (h : Staged u.exchangeOid (s.noteMismatch order u) t' key after
      (filledExposure env (s.noteMismatch order u) order u)
      ((s.noteMismatch order u).idsAfter order u)
      (executionRecords env (s.noteMismatch order u) order u)) :
    Staged u.exchangeOid s t' key after (filledExposure env s order u) (s.idsAfter order u)
      (executionRecords env s order u) := by
  have hsame := noteMismatch_sameLedgers s order u
  have hid : (s.noteMismatch order u).executionId order u = s.executionId order u := by
    unfold executionId
    rw [hsame.venue]
  have hrecord : ∀ qty fee, (s.noteMismatch order u).executionRecord order u qty fee =
      s.executionRecord order u qty fee := by
    intro qty fee
    unfold executionRecord
    rw [hid]
  have hsynced : (s.noteMismatch order u).positionAlreadySynced order.intent.symbol u =
      s.positionAlreadySynced order.intent.symbol u := by
    unfold positionAlreadySynced
    rw [hsame.exchangePositionEventTime]
  unfold filledExposure idsAfter executionRecords at h ⊢
  rw [hid, hrecord, hsynced, hsame.exposure, hsame.executionIds] at h
  exact h.of_sameLedgers hsame

/-- An update that is judged to proceed is applied. -/
theorem applyEvent_proceed (env : EventEnv) {raw : RawOrderUpdate}
    (hraw : raw.normalize = .ok u) (hjudge : s.judge u = .proceed key order status) :
    Applied env s (s.applyEvent env raw) u key order status := by
  have hjudged := judge_proceed hjudge
  have hgap : qtyEps < incomingDelta order u → _ := fun hdelta =>
    gapDetail_none (hjudged.gap hdelta)
  obtain ⟨hresult, hstaged⟩ := applyStatus_staged env (s.noteMismatch order u) key order u
    status (fun hdelta => (hgap hdelta).2.2.2.1) (fun hdelta => (hgap hdelta).1)
  unfold applyEvent
  simp only [hraw, hjudge]
  exact finishUpdate_applied hresult (staged_noteMismatch hstaged)

/-- **What one event does**: it is refused, which is bookkeeping, or it reaches the
booking. -/
theorem applyEvent_cases (env : EventEnv) (s : OmsState) (raw : RawOrderUpdate) :
    SameLedgers s (s.applyEvent env raw) ∨
      ∃ u key order status, raw.normalize = .ok u ∧ s.judge u = .proceed key order status ∧
        Applied env s (s.applyEvent env raw) u key order status := by
  cases hraw : raw.normalize with
  | error detail =>
    unfold applyEvent
    simp only [hraw]
    exact Or.inl (quarantineInvalid_sameLedgers s _ _ _ _)
  | ok u =>
    by_cases hproceed : ∃ key order status, s.judge u = .proceed key order status
    · obtain ⟨key, order, status, hjudge⟩ := hproceed
      exact Or.inr ⟨u, key, order, status, rfl, hjudge, applyEvent_proceed env hraw hjudge⟩
    push Not at hproceed
    unfold applyEvent
    simp only [hraw]
    exact Or.inl (applyJudged_sameLedgers env s u hproceed)

/-! ## Steps without a fill -/

/-- A step without a fill: positions, identities and cursors stay, the order table and the
id map are `orders` and `ids`, and `records` have been journaled. -/
structure Recorded (s s' : OmsState) (orders : Dict String Order) (ids : Dict String String)
    (records : List JournalRecord) : Prop where
  venue : s'.venue = s.venue
  tradeCursors : s'.tradeCursors = s.tradeCursors
  executionIds : s'.executionIds = s.executionIds
  positions : Exposure.SamePositions s.exposure s'.exposure
  orders : s'.orders = orders
  exchangeIdMap : s'.exchangeIdMap = ids
  records : ledgerRecords s'.journal = ledgerRecords s.journal ++ records

namespace Recorded

variable {s t t' : OmsState} {orders : Dict String Order} {ids : Dict String String}
  {records : List JournalRecord}

protected theorem refl (s : OmsState) : Recorded s s s.orders s.exchangeIdMap [] :=
  ⟨rfl, rfl, rfl, ⟨rfl, rfl, rfl, rfl⟩, rfl, rfl, (List.append_nil _).symm⟩

theorem then_sameLedgers (h₁ : Recorded s t orders ids records) (h₂ : SameLedgers t t') :
    Recorded s t' orders ids records :=
  ⟨h₂.venue.trans h₁.venue, h₂.tradeCursors.trans h₁.tradeCursors,
    h₂.executionIds.trans h₁.executionIds, by rw [h₂.exposure]; exact h₁.positions,
    h₂.orders.trans h₁.orders, h₂.exchangeIdMap.trans h₁.exchangeIdMap,
    h₂.records.trans h₁.records⟩

theorem putOrder (h : Recorded s t orders ids records) (key : String) (order : Order) :
    Recorded s (t.putOrder key order) (orders.set key order) ids records :=
  ⟨h.venue, h.tradeCursors, h.executionIds, h.positions, by rw [← h.orders]; rfl,
    h.exchangeIdMap, h.records⟩

theorem eraseOrder (h : Recorded s t orders ids records) (key : String) :
    Recorded s { t with orders := t.orders.erase key } (orders.erase key) ids records :=
  ⟨h.venue, h.tradeCursors, h.executionIds, h.positions, by rw [← h.orders], h.exchangeIdMap,
    h.records⟩

/-- A record that recovery reads. -/
theorem log (h : Recorded s t orders ids records) {record : JournalRecord}
    (hloud : record.isQuiet = false) :
    Recorded s (t.log record) orders ids (records ++ [record]) := by
  refine ⟨h.venue, h.tradeCursors, h.executionIds, h.positions, h.orders, h.exchangeIdMap, ?_⟩
  show ledgerRecords (t.journal ++ [record]) = _
  rw [ledgerRecords_append, ledgerRecords_of_not_isQuiet hloud, h.records, List.append_assoc]

end Recorded

end OmsState

end ChronosHFT.Oms
