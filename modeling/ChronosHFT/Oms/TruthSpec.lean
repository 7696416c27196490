import ChronosHFT.Lib.Run
import ChronosHFT.Oms.AccountTruth
import ChronosHFT.Oms.EventSpec
import ChronosHFT.Oms.PositionTruth

/-!
# What the venue's truth does

Specifications of the operations that bring the state in line with the venue: a
REST trade, an account update and a full reset.

A REST trade is a sequence of four primitive steps: the order may be created from
the venue's answer, an update is applied, a terminal state is put back and the
cursor moves.  `tradeTarget` says which update is applied to which state, and
`applyExchangeTrade_preserves` reduces an invariant to the four steps.
-/

namespace ChronosHFT.Oms

namespace OmsState

/-! ## Trades -/

/-- The numbers of a trade, if they can be booked. -/
structure TradeNumbers where
  qty : ℚ
  price : ℚ
  timeMs : ℚ
  commission : ℚ
  pnl : ℚ

/-- The numbers `_apply_exchange_trade` goes on with. -/
def tradeNumbers (trade : ExchangeTrade) : Option TradeNumbers :=
  match truthNonneg trade.qty, truthNonneg trade.price, truthNonneg trade.time,
      truthFinite trade.commission, truthFinite trade.realizedPnl with
  | some qty, some price, some timeMs, some commission, some pnl =>
    if qty ≤ 0 ∨ price ≤ 0 then none
    else some { qty := qty, price := price, timeMs := timeMs, commission := commission,
                pnl := pnl }
  | _, _, _, _, _ => none

/-- The state a trade is applied to and the client id its order is filed under. -/
def tradeOrder (env : EventEnv) (s : OmsState) (trade : ExchangeTrade)
    (remote : Option RemoteOrder) : Option (OmsState × String) :=
  match s.exchangeIdMap.get? trade.orderId with
  | some key => some (s, key)
  | none =>
    match remote with
    | none => none
    | some remote =>
      match s.createRecoveredOrder remote env.now with
      | .error _ => none
      | .ok created => some (created, remote.clientOid)

/-- The order a trade is about and the update it is turned into, when it is neither
behind the cursor nor known. -/
structure TradeTarget where
  state : OmsState
  key : String
  order : Order
  numbers : TradeNumbers

/-- The update of a target. -/
def TradeTarget.update (target : TradeTarget) (trade : ExchangeTrade) : RawOrderUpdate :=
  tradeUpdate target.order trade target.numbers.qty target.numbers.price target.numbers.timeMs
    target.numbers.commission target.numbers.pnl

/-- What a trade that is not yet known comes down to. -/
def tradeTarget (env : EventEnv) (s : OmsState) (trade : ExchangeTrade)
    (remote : Option RemoteOrder) : Option TradeTarget :=
  if trade.symbol.toUpper = "" ∨ trade.id < 0 then none
  else if trade.id ≤ cursorOf s.tradeCursors trade.symbol.toUpper then none
  else
    match tradeNumbers trade with
    | none => none
    | some numbers =>
      match tradeOrder env s trade remote with
      | none => none
      | some (state, key) =>
        match state.orders.get? key with
        | none => none
        | some order =>
          if executionIdOf state.venue trade.symbol.toUpper trade.id.toNat ∈
              state.executionIds then none
          else some { state := state, key := key, order := order, numbers := numbers }

theorem truthNonneg_nonneg {raw : RawNum} {value : ℚ} (h : truthNonneg raw = some value) :
    0 ≤ value := by
  unfold truthNonneg at h
  split at h
  · split at h
    · cases h
    · next hneg =>
      cases h
      exact not_lt.mp hneg
  · cases h

/-- The numbers of a trade are positive, and its time is not negative. -/
theorem tradeNumbers_spec {trade : ExchangeTrade} {numbers : TradeNumbers}
    (h : tradeNumbers trade = some numbers) :
    0 < numbers.qty ∧ 0 < numbers.price ∧ 0 ≤ numbers.timeMs := by
  unfold tradeNumbers at h
  split at h
  · next qty price timeMs commission pnl hqty hprice htime hcommission hpnl =>
    split at h
    · cases h
    next hpos =>
      cases h
      push Not at hpos
      exact ⟨hpos.1, hpos.2, truthNonneg_nonneg htime⟩
  · cases h

/-- A trade is refused, or it is applied to the order it is about. -/
theorem applyExchangeTrade_eq (env : EventEnv) (s : OmsState) (trade : ExchangeTrade)
    (remote : Option RemoteOrder) :
    (s.applyExchangeTrade env trade remote).1 = s ∨
      ∃ numbers state key, tradeNumbers trade = some numbers ∧
        tradeOrder env s trade remote = some (state, key) ∧
        ¬(trade.symbol.toUpper = "" ∨ trade.id < 0) ∧
        ¬trade.id ≤ cursorOf s.tradeCursors trade.symbol.toUpper ∧
        (s.applyExchangeTrade env trade remote).1 =
          (state.applyTradeTo env key trade numbers.qty numbers.price numbers.timeMs
            numbers.commission numbers.pnl).1 := by
  unfold applyExchangeTrade
  simp only
  split
  · exact Or.inl rfl
  next hid =>
  split
  · exact Or.inl rfl
  next hcursor =>
  split
  · next qty price timeMs commission pnl hqty hprice htime hcommission hpnl =>
    split
    · exact Or.inl rfl
    next hpos =>
    have hnumbers : tradeNumbers trade = some ⟨qty, price, timeMs, commission, pnl⟩ := by
      unfold tradeNumbers
      simp only [hqty, hprice, htime, hcommission, hpnl, if_neg hpos]
    unfold tradeOrder
    cases hmap : s.exchangeIdMap.get? trade.orderId with
    | some key => exact Or.inr ⟨_, s, key, hnumbers, rfl, hid, hcursor, rfl⟩
    | none =>
      cases remote with
      | none => exact Or.inl rfl
      | some remote =>
        cases hcreate : s.createRecoveredOrder remote env.now with
        | error err =>
          simp only [hcreate]
          exact Or.inl trivial
        | ok created =>
          simp only [hcreate]
          exact Or.inr ⟨_, created, remote.clientOid, hnumbers, rfl, hid, hcursor, rfl⟩
  · exact Or.inl rfl

variable {s s' t : OmsState} {now : ℚ} {R : Exposure → Exposure → Prop}

/-- Where a trade's order comes from. -/
theorem tradeOrder_cases {env : EventEnv} {state : OmsState} {trade : ExchangeTrade}
    {remote : Option RemoteOrder} {key : String}
    (h : tradeOrder env s trade remote = some (state, key)) :
    (state = s ∧ s.exchangeIdMap.get? trade.orderId = some key) ∨
      ∃ r, remote = some r ∧ s.exchangeIdMap.get? trade.orderId = none ∧
        s.createRecoveredOrder r env.now = .ok state ∧ key = r.clientOid := by
  unfold tradeOrder at h
  cases hmap : s.exchangeIdMap.get? trade.orderId with
  | some mapped =>
    simp only [hmap] at h
    cases h
    exact Or.inl ⟨rfl, rfl⟩
  | none =>
    simp only [hmap] at h
    cases remote with
    | none => cases h
    | some r =>
      simp only at h
      cases hcreate : s.createRecoveredOrder r env.now with
      | error err =>
        rw [hcreate] at h
        cases h
      | ok created =>
        rw [hcreate] at h
        cases h
        exact Or.inr ⟨r, rfl, rfl, hcreate, rfl⟩

/-- What an accepted answer of the venue adds: one order, acknowledged and not
filled. -/
theorem createRecoveredOrder_ok {created : OmsState} {remote : RemoteOrder}
    (h : s.createRecoveredOrder remote now = .ok created) :
    remote.symbol ≠ "" ∧ 0 < remote.volume ∧ 0 < remote.price ∧
      created.venue = s.venue ∧ created.tradeCursors = s.tradeCursors ∧
      created.executionIds = s.executionIds ∧ created.exposure = s.exposure ∧
      created.orders = s.orders.set remote.clientOid (remote.order now) ∧
      (created.exchangeIdMap = s.exchangeIdMap ∨
        created.exchangeIdMap = s.exchangeIdMap.set remote.orderId remote.clientOid) ∧
      ledgerRecords created.journal = ledgerRecords s.journal := by
  unfold createRecoveredOrder at h
  split at h
  · cases h
  next hsymbol =>
  split at h
  · cases h
  split at h
  · cases h
  next hvolume =>
  split at h
  · cases h
  next hprice =>
  cases h
  refine ⟨hsymbol, not_le.mp hvolume, not_le.mp hprice, rfl, rfl, rfl, rfl, rfl, ?_,
    (audit_sameLedgers _ _).records⟩
  by_cases hoid : remote.orderId = ""
  · exact Or.inl (if_pos hoid)
  · exact Or.inr (if_neg hoid)

/-- Moving the cursor leaves orders and positions alone. -/
theorem advanceTradeCursor_cases (s : OmsState) (symbol : String) (tradeId : ℤ)
    (source : String) :
    s.advanceTradeCursor symbol tradeId source = s ∨
      (cursorOf s.tradeCursors symbol.toUpper < tradeId ∧ source ≠ "user_stream" ∧
        s.advanceTradeCursor symbol tradeId source =
          { s.log (.tradeCursorAdvanced symbol.toUpper tradeId source) with
            tradeCursors := s.tradeCursors.set symbol.toUpper tradeId
            executionIds := discardCursorCovered s.executionIds symbol.toUpper tradeId }) := by
  unfold advanceTradeCursor
  simp only
  split
  · exact Or.inl rfl
  next hsource =>
  push Not at hsource
  split
  · exact Or.inl rfl
  next hcursor => exact Or.inr ⟨not_le.mp hcursor, hsource.2, rfl⟩

/-- The order a terminal state is put back on. -/
structure Restored (now time : ℚ) (order after : Order) : Prop where
  books : Order.SameBooks after order
  updatedAt : after.updatedAt = order.updatedAt ∨ after.updatedAt = time ∨ after.updatedAt = now
  lastExchangeUpdateTime : after.lastExchangeUpdateTime = order.lastExchangeUpdateTime ∨
    after.lastExchangeUpdateTime = max order.lastExchangeUpdateTime time
  lastUpdateSeq : after.lastUpdateSeq = order.lastUpdateSeq
  status : order.status = .partiallyFilled ∧
    (after.status = .cancelled ∨ after.status = .expired)

theorem transition_restored {order : Order} {time : ℚ} {next : OrderStatus} {text : String}
    (hstatus : order.status = .partiallyFilled) (hnext : next = .cancelled ∨ next = .expired) :
    Restored now time order
      (order.transition now next "" { exchangeStatus := text, updateTime := time }).1 := by
  have hmove : next ≠ order.status ∧ next ∈ order.status.allowedTransitions := by
    rw [hstatus]
    rcases hnext with rfl | rfl <;> decide
  unfold Order.transition
  rw [if_neg hmove.1, if_pos hmove.2]
  refine ⟨?_, ?_, ?_, rfl, hstatus, hnext⟩
  · exact (Order.noteExchangeUpdate_sameBooks _ now _).trans
      ((Order.noteReason_sameBooks _ "").trans ⟨rfl, rfl, rfl, rfl, rfl, rfl⟩)
  · simp only [Order.noteExchangeUpdate]
    split
    · exact Or.inr (Or.inl rfl)
    · exact Or.inr (Or.inr rfl)
  · simp only [Order.noteExchangeUpdate]
    split
    · exact Or.inr rfl
    · exact Or.inl rfl

/-- Putting a terminal state back is one order's move and its snapshot. -/
theorem restoreTerminal_cases (s : OmsState) (key : String) (before : Order) (now time : ℚ) :
    s.restoreTerminal key before now time = s ∨
      ∃ order after, s.orders.get? key = some order ∧
        Restored now (max before.lastExchangeUpdateTime time) order after ∧
        Recorded s (s.restoreTerminal key before now time) (s.orders.set key after)
          s.exchangeIdMap
          [.orderSnapshot after.toRecord "terminal_restored_after_trade_backfill"] := by
  have hput : ∀ after : Order, Recorded s
      ({ s.putOrder key after with
          exposure := s.exposure.updateOpenOrders (s.orders.set key after) }.log
        (.orderSnapshot after.toRecord "terminal_restored_after_trade_backfill"))
      (s.orders.set key after) s.exchangeIdMap
      [.orderSnapshot after.toRecord "terminal_restored_after_trade_backfill"] := by
    intro after
    have hstored : Recorded s { s.putOrder key after with
        exposure := s.exposure.updateOpenOrders (s.orders.set key after) }
        (s.orders.set key after) s.exchangeIdMap [] :=
      ⟨rfl, rfl, rfl, Exposure.updateOpenOrders_samePositions _ _, rfl, rfl,
        (List.append_nil _).symm⟩
    exact hstored.log rfl
  unfold restoreTerminal
  cases hfound : s.orders.get? key with
  | none => exact Or.inl rfl
  | some order =>
    simp only
    split
    · exact Or.inl rfl
    next hstatus =>
    have hstatus' : order.status = .partiallyFilled := not_not.mp hstatus
    split
    · exact Or.inr ⟨order, _, rfl, transition_restored hstatus' (Or.inl rfl), hput _⟩
    split
    · exact Or.inr ⟨order, _, rfl, transition_restored hstatus' (Or.inr rfl), hput _⟩
    · exact Or.inl rfl

section Preserves

variable {I : OmsState → Prop}

/-- Confirming an execution is bookkeeping. -/
theorem confirm_sameLedgers (s : OmsState) (executionId : String) :
    SameLedgers s { s with
      restConfirmedExecutionIds := insert executionId s.restConfirmedExecutionIds } :=
  ⟨rfl, rfl, rfl, rfl, rfl, rfl, rfl, rfl⟩

/-- An invariant of the four steps is an invariant of a trade on a known order. -/
theorem applyTradeTo_preserves (env : EventEnv) {s : OmsState} {key : String}
    (trade : ExchangeTrade) {numbers : TradeNumbers} (hnumbers : 0 ≤ numbers.timeMs) (hI : I s)
    (hsame : ∀ {t t' : OmsState}, SameLedgers t t' → I t → I t')
    (hcursor : ∀ t source, source ≠ "user_stream" → I t →
      I (t.advanceTradeCursor trade.symbol.toUpper trade.id source))
    (hevent : ∀ order, s.orders.get? key = some order →
      executionIdOf s.venue trade.symbol.toUpper trade.id.toNat ∉ s.executionIds →
      I (s.applyEvent env (TradeTarget.update ⟨s, key, order, numbers⟩ trade)))
    (hrestore : ∀ t before time, 0 ≤ time → I t →
      I (t.restoreTerminal key before env.now time)) :
    I (s.applyTradeTo env key trade numbers.qty numbers.price numbers.timeMs numbers.commission
      numbers.pnl).1 := by
  unfold applyTradeTo
  simp only
  cases hfound : s.orders.get? key with
  | none => exact hI
  | some order =>
    simp only
    split
    · next hknown =>
      exact hsame (audit_sameLedgers _ _)
        (hcursor _ _ (by decide) (hsame (confirm_sameLedgers s _) hI))
    next hnew =>
    have happlied := hevent order hfound hnew
    unfold TradeTarget.update at happlied
    simp only at happlied
    split
    · exact happlied
    split
    · exact hsame (audit_sameLedgers _ _) happlied
    · have htime : 0 ≤ numbers.timeMs / 1000 := div_nonneg hnumbers (by norm_num)
      have hrestored := hrestore _ order _ htime happlied
      exact hcursor _ _ (by decide) (hsame (confirm_sameLedgers _ _) hrestored)

/-- **An invariant of the four steps is an invariant of a REST trade.** -/
theorem applyExchangeTrade_preserves (env : EventEnv) {s : OmsState} (trade : ExchangeTrade)
    (remote : Option RemoteOrder) (hI : I s)
    (hsame : ∀ {t t' : OmsState}, SameLedgers t t' → I t → I t')
    (hcreate : ∀ r created, remote = some r → s.createRecoveredOrder r env.now = .ok created →
      I created)
    (hcursor : ∀ t source, source ≠ "user_stream" → I t →
      I (t.advanceTradeCursor trade.symbol.toUpper trade.id source))
    (hevent : ∀ target, tradeTarget env s trade remote = some target → I target.state →
      I (target.state.applyEvent env (target.update trade)))
    (hrestore : ∀ t key before time, 0 ≤ time → I t →
      I (t.restoreTerminal key before env.now time)) :
    I (s.applyExchangeTrade env trade remote).1 := by
  rcases applyExchangeTrade_eq env s trade remote with heq | hcase
  · rw [heq]
    exact hI
  obtain ⟨numbers, state, key, hnumbers, horder, hid, hcur, heq⟩ := hcase
  rw [heq]
  have hstate : I state := by
    rcases tradeOrder_cases horder with ⟨rfl, -⟩ | ⟨r, hr, -, hcreated, -⟩
    · exact hI
    · exact hcreate r state hr hcreated
  refine applyTradeTo_preserves env trade (tradeNumbers_spec hnumbers).2.2 hstate hsame hcursor
    ?_ (fun t before time => hrestore t key before time)
  intro order hfound hnew
  refine hevent ⟨state, key, order, numbers⟩ ?_ hstate
  unfold tradeTarget
  rw [if_neg hid, if_neg hcur, hnumbers, horder]
  simp only [hfound]
  rw [if_neg hnew]

/-! ## Order snapshots -/

/-- The normaliser keeps a whole trade id. -/
theorem normalize_tradeId {raw : RawOrderUpdate} {u : ExchangeOrderUpdate} {id : ℤ}
    (h : raw.normalize = .ok u) (hraw : raw.tradeId = .finite id) : u.tradeId = id := by
  unfold RawOrderUpdate.normalize at h
  iterate 13 obtain ⟨_, -, h⟩ := Run.except_bind_eq_ok.mp h
  obtain ⟨tradeId, htrade, h⟩ := Run.except_bind_eq_ok.mp h
  have hid : tradeId = id := by
    rw [hraw] at htrade
    unfold RawOrderUpdate.integer at htrade
    simp only at htrade
    split at htrade
    · cases htrade
    split at htrade
    · cases htrade
    · cases htrade
      exact Rat.num_intCast id
  simp only at h
  split at h
  · cases h
  · cases h
    exact hid

theorem freezeSystem_sameLedgers (s : OmsState) (reason : String) :
    SameLedgers s (s.freezeSystem reason) := by
  have hfrozen : SameLedgers s { s with lifecycle := .frozen, lastFreezeReason := reason } :=
    ⟨rfl, rfl, rfl, rfl, rfl, rfl, rfl, rfl⟩
  unfold freezeSystem
  split
  · exact SameLedgers.refl s
  simp only
  split
  · exact hfrozen.trans (audit_sameLedgers _ _)
  · exact hfrozen.trans (log_sameLedgers rfl)

/-- The state a snapshot's order is found in. -/
theorem snapshotOrder_cases {s state : OmsState} {remote : RemoteOrder} {now : ℚ} {key : String}
    (h : s.snapshotOrder remote now = .ok (state, key)) :
    state = s ∨ (s.createRecoveredOrder remote now = .ok state ∧
      ¬(remote.clientOrderId ≠ "" ∧ s.orders.contains remote.clientOrderId = true)) := by
  unfold snapshotOrder at h
  split at h
  · cases h
    exact Or.inl rfl
  next hclient =>
  split at h
  · cases h
    exact Or.inl rfl
  split at h
  · cases h
  · next hcreate =>
    cases h
    exact Or.inr ⟨hcreate, hclient⟩

/-- **An invariant of two steps is an invariant of an order snapshot**: an order may
be created, and an update without a trade is applied. -/
theorem applyExchangeOrderSnapshot_preserves (env : EventEnv) {s : OmsState}
    (snapshot : OrderSnapshot) (hI : I s)
    (hsame : ∀ {t t' : OmsState}, SameLedgers t t' → I t → I t')
    (hcreate : ∀ created, s.createRecoveredOrder snapshot.remote env.now = .ok created →
      ¬(snapshot.remote.clientOrderId ≠ "" ∧
        s.orders.contains snapshot.remote.clientOrderId = true) → I created)
    (hevent : ∀ t order executed avgPrice timeMs, I t →
      I (t.applyEvent env (snapshotUpdate order snapshot executed avgPrice timeMs))) :
    I (s.applyExchangeOrderSnapshot env snapshot).1 := by
  unfold applyExchangeOrderSnapshot
  split
  · exact hsame (audit_sameLedgers s _) hI
  split
  · next executed avgPrice timeMs _ _ _ =>
    split
    · exact hsame (audit_sameLedgers s _) hI
    split
    · exact hI
    next state key horder =>
    have hstate : I state := by
      rcases snapshotOrder_cases horder with rfl | ⟨hcreated, hnew⟩
      · exact hI
      · exact hcreate state hcreated hnew
    unfold applySnapshotTo
    split
    · exact hstate
    split
    · exact hsame ((audit_sameLedgers _ _).trans (freezeSystem_sameLedgers _ _)) hstate
    · exact hsame (audit_sameLedgers _ _) (hevent state _ executed avgPrice timeMs hstate)
  · exact hsame (audit_sameLedgers s _) hI

/-- An update without a trade never reaches the booking with a fill. -/
theorem snapshotUpdate_noFill {s : OmsState} {order found : Order} {snapshot : OrderSnapshot}
    {executed avgPrice timeMs : ℚ} {u : ExchangeOrderUpdate} {key : String}
    {status : UpdateStatus}
    (hraw : (snapshotUpdate order snapshot executed avgPrice timeMs).normalize = .ok u)
    (hjudge : s.judge u = .proceed key found status) : ¬qtyEps < incomingDelta found u := by
  intro hdelta
  obtain ⟨-, htrade, -⟩ := gapDetail_none ((judge_proceed hjudge).gap hdelta)
  have hid : u.tradeId = -1 := normalize_tradeId hraw rfl
  omega

end Preserves

/-! ## Full reset -/

/-- The order a reset leaves in the journal for an active order. -/
def resetOrder (now : ℚ) (order : Order) : Order := (order.markCancelled now now 0 "CANCELED").1

/-- The records of a reset. -/
def resetRecords (now : ℚ) (orders : List (String × Order)) : List JournalRecord :=
  (orders.filter fun entry => entry.2.isActive).map fun entry =>
    .orderSnapshot (resetOrder now entry.2).toRecord "full_reset_terminalized"

/-- An active order can always be cancelled. -/
theorem markCancelled_of_active {order : Order} (h : order.isActive = true) (now : ℚ) :
    ∃ moved, order.markCancelled now now 0 "CANCELED" = (resetOrder now order, .ok moved) := by
  have hallowed : OrderStatus.cancelled = order.status ∨
      OrderStatus.cancelled ∈ order.status.allowedTransitions := by
    unfold Order.isActive at h
    revert h
    cases order.status <;> decide
  have hok := (@Order.transition_isOk_iff order now .cancelled ""
    { exchangeStatus := "CANCELED", updateTime := now, seq := 0 }).mpr hallowed
  obtain ⟨moved, hmoved⟩ := hok
  exact ⟨moved, Prod.ext rfl hmoved⟩

/-- **Terminalising never fails**, journals one snapshot for every active order and
touches no ledger. -/
theorem terminalizeOrders_spec (now : ℚ) (entries : List (String × Order)) (s : OmsState) :
    (terminalizeOrders now s entries).2 = .ok () ∧
      (terminalizeOrders now s entries).1.venue = s.venue ∧
      (terminalizeOrders now s entries).1.tradeCursors = s.tradeCursors ∧
      (terminalizeOrders now s entries).1.executionIds = s.executionIds ∧
      (terminalizeOrders now s entries).1.exposure = s.exposure ∧
      ledgerRecords (terminalizeOrders now s entries).1.journal =
        ledgerRecords s.journal ++ resetRecords now entries := by
  induction entries generalizing s with
  | nil => exact ⟨rfl, rfl, rfl, rfl, rfl, (List.append_nil _).symm⟩
  | cons entry rest ih =>
    obtain ⟨key, order⟩ := entry
    rw [terminalizeOrders]
    by_cases hactive : order.isActive = false
    · rw [if_pos hactive]
      obtain ⟨hok, hvenue, hcursors, hids, hexposure, hrecords⟩ := ih s
      refine ⟨hok, hvenue, hcursors, hids, hexposure, hrecords.trans ?_⟩
      unfold resetRecords
      rw [List.filter_cons_of_neg (by simp [hactive])]
    · rw [if_neg hactive]
      have hactive' : order.isActive = true := by simpa using hactive
      obtain ⟨moved, hmoved⟩ := markCancelled_of_active hactive' now
      rw [hmoved]
      simp only
      obtain ⟨hok, hvenue, hcursors, hids, hexposure, hrecords⟩ :=
        ih (((s.putOrder key (resetOrder now order)).log
          (.orderSnapshot (resetOrder now order).toRecord
            "full_reset_terminalized")).writeTombstone (resetOrder now order))
      have htomb := writeTombstone_sameLedgers ((s.putOrder key (resetOrder now order)).log
        (.orderSnapshot (resetOrder now order).toRecord "full_reset_terminalized"))
        (resetOrder now order)
      refine ⟨hok, hvenue.trans htomb.venue, hcursors.trans htomb.tradeCursors,
        hids.trans htomb.executionIds, hexposure.trans htomb.exposure, hrecords.trans ?_⟩
      rw [htomb.records]
      show ledgerRecords (s.journal ++ [_]) ++ _ = _
      unfold resetRecords
      rw [ledgerRecords_append, ledgerRecords_of_not_isQuiet rfl,
        List.filter_cons_of_pos (by simp [hactive']), List.map_cons, List.append_assoc]
      rfl

/-- The books after a reset has cleared them: the strategies keep theirs. -/
def clearedExposure (e : Exposure) : Exposure :=
  { e with netPositions := ∅, avgPrices := ∅, openBuyQty := ∅,
           openSellQty := ∅ }.updateOpenOrders ∅

/-- **What a reset does to orders and journal**, whether it is carried through or
not. -/
structure ResetEffect (s s' : OmsState) (now : ℚ) : Prop where
  venue : s'.venue = s.venue
  tradeCursors : s'.tradeCursors = s.tradeCursors
  executionIds : s'.executionIds = s.executionIds
  orders : s'.orders = ∅
  exchangeIdMap : s'.exchangeIdMap = ∅
  records : ledgerRecords s'.journal = ledgerRecords s.journal ++ resetRecords now s.orders.items

theorem reconcileReset_effect (h : ResetEffect s t now) (floor : ℚ)
    (symbol : String) : ResetEffect s (reconcileReset floor t symbol) now :=
  ⟨h.venue, h.tradeCursors, h.executionIds, h.orders, h.exchangeIdMap, h.records⟩

theorem foldl_reconcileReset_effect (floor : ℚ) (symbols : List String)
    (h : ResetEffect s t now) :
    ResetEffect s (symbols.foldl (reconcileReset floor) t) now := by
  induction symbols generalizing t with
  | nil => exact h
  | cons symbol rest ih => exact ih (reconcileReset_effect h floor symbol)

/-- A reset either is refused at a position of the snapshot or is carried through. -/
theorem fullReset_cases (s : OmsState) (snapshot : ResetSnapshot) :
    (∃ err, (s.fullReset snapshot).2 = .error err ∧
        (syncPositions (clearedExposure s.exposure) snapshot.positions).2 ≠ .ok () ∧
        (s.fullReset snapshot).1.exposure =
          (syncPositions (clearedExposure s.exposure) snapshot.positions).1 ∧
        ResetEffect s (s.fullReset snapshot).1 snapshot.now) ∨
      ((s.fullReset snapshot).2 = .ok () ∧
        (syncPositions (clearedExposure s.exposure) snapshot.positions).2 = .ok () ∧
        ∃ t, t.exposure = (syncPositions (clearedExposure s.exposure) snapshot.positions).1 ∧
          ResetEffect s t snapshot.now ∧
          (s.fullReset snapshot).1 =
            ((resetSymbols s.exposure snapshot).foldl
              (reconcileReset snapshot.positionsFloor) t).resetBalance snapshot) := by
  obtain ⟨hok, hvenue, hcursors, hids, hexposure, hrecords⟩ :=
    terminalizeOrders_spec snapshot.now s.orders.items s
  unfold fullReset
  cases hterminal : terminalizeOrders snapshot.now s s.orders.items with
  | mk terminalized result =>
    rw [hterminal] at hok hvenue hcursors hids hexposure hrecords
    cases hok
    have hcleared : terminalized.clearBooks.exposure = clearedExposure s.exposure := by
      show clearedExposure terminalized.exposure = _
      rw [hexposure]
    have heffect : ∀ e, ResetEffect s { terminalized.clearBooks with exposure := e }
        snapshot.now := fun e => ⟨hvenue, hcursors, hids, rfl, rfl, hrecords⟩
    simp only [hcleared]
    cases hsync : syncPositions (clearedExposure s.exposure) snapshot.positions with
    | mk synced outcome =>
      cases outcome with
      | error err =>
        refine Or.inl ⟨_, rfl, ?_, rfl, heffect synced⟩
        intro habsurd
        cases habsurd
      | ok u => exact Or.inr ⟨rfl, rfl, _, rfl, heffect synced, rfl⟩

/-- **A reset drops every order** and journals the active ones as cancelled. -/
theorem fullReset_effect (s : OmsState) (snapshot : ResetSnapshot) :
    ResetEffect s (s.fullReset snapshot).1 snapshot.now := by
  rcases fullReset_cases s snapshot with ⟨_, _, _, _, h⟩ | ⟨_, _, t, _, ht, heq⟩
  · exact h
  rw [heq]
  have hfold := foldl_reconcileReset_effect snapshot.positionsFloor
    (resetSymbols s.exposure snapshot) ht
  exact ⟨hfold.venue, hfold.tradeCursors, hfold.executionIds, hfold.orders,
    hfold.exchangeIdMap, hfold.records⟩

/-! ## Account updates -/

/-- Two states with the same orders and the same recovery records. -/
structure SameOrders (s s' : OmsState) : Prop where
  venue : s'.venue = s.venue
  orders : s'.orders = s.orders
  exchangeIdMap : s'.exchangeIdMap = s.exchangeIdMap
  executionIds : s'.executionIds = s.executionIds
  tradeCursors : s'.tradeCursors = s.tradeCursors
  records : ledgerRecords s'.journal = ledgerRecords s.journal

protected theorem SameOrders.trans {s'' : OmsState} (h₁ : SameOrders s s')
    (h₂ : SameOrders s' s'') : SameOrders s s'' :=
  ⟨h₂.venue.trans h₁.venue, h₂.orders.trans h₁.orders,
    h₂.exchangeIdMap.trans h₁.exchangeIdMap, h₂.executionIds.trans h₁.executionIds,
    h₂.tradeCursors.trans h₁.tradeCursors, h₂.records.trans h₁.records⟩

theorem SameLedgers.sameOrders (h : SameLedgers s s') : SameOrders s s' :=
  ⟨h.venue, h.orders, h.exchangeIdMap, h.executionIds, h.tradeCursors, h.records⟩

theorem noteAccountTime_sameOrders (s : OmsState) (symbol : String) (eventTime : ℚ) :
    SameOrders s (s.noteAccountTime symbol eventTime) ∧
      (s.noteAccountTime symbol eventTime).exposure = s.exposure := by
  unfold noteAccountTime
  split
  · exact ⟨⟨rfl, rfl, rfl, rfl, rfl, rfl⟩, rfl⟩
  · exact ⟨⟨rfl, rfl, rfl, rfl, rfl, rfl⟩, rfl⟩

/-- One position of an account update: nothing, or a correction. -/
theorem applyAccountPosition_cases {eventTime : ℚ} {symbol : String} {payload : PositionPayload}
    (h : s.applyAccountPosition eventTime symbol payload = .ok s') :
    SameOrders s s' ∧ (s'.exposure = s.exposure ∨
      ∃ synced, s.exposure.forceSync symbol payload.volume payload.entryPrice = .ok synced ∧
        s'.exposure = synced.reconcileStrategyPosition symbol payload.volume
          payload.entryPrice) := by
  unfold applyAccountPosition at h
  split at h
  · cases h
    exact ⟨(audit_sameLedgers s _).sameOrders, Or.inl rfl⟩
  split at h
  · cases hsync : s.exposure.forceSync symbol payload.volume payload.entryPrice with
    | error err =>
      rw [hsync] at h
      cases h
    | ok synced =>
      rw [hsync] at h
      cases h
      let corrected : OmsState :=
        { s with
          exposure :=
            synced.reconcileStrategyPosition symbol payload.volume payload.entryPrice }
      obtain ⟨hsame, hexposure⟩ := noteAccountTime_sameOrders corrected symbol eventTime
      exact ⟨⟨hsame.venue, hsame.orders, hsame.exchangeIdMap, hsame.executionIds,
        hsame.tradeCursors, hsame.records⟩, Or.inr ⟨synced, rfl, hexposure⟩⟩
  · cases h
    obtain ⟨hsame, hexposure⟩ := noteAccountTime_sameOrders s symbol eventTime
    exact ⟨hsame, Or.inl hexposure⟩

theorem applyAccountBalance_sameOrders (env : AccountEnv) (s : OmsState)
    (update : AccountUpdate) :
    SameOrders s (s.applyAccountBalance env update) ∧
      (s.applyAccountBalance env update).exposure = s.exposure := by
  unfold applyAccountBalance
  split
  · exact ⟨(audit_sameLedgers s _).sameOrders, rfl⟩
  split
  · exact ⟨⟨rfl, rfl, rfl, rfl, rfl, rfl⟩, rfl⟩
  · exact ⟨⟨rfl, rfl, rfl, rfl, rfl, rfl⟩, rfl⟩

/-- An account update keeps any relation on the ledgers that its corrections keep. -/
theorem applyAccountPositions_spec (env : AccountEnv) (eventTime : ℚ) (hrefl : ∀ e, R e e)
    (htrans : ∀ {a b c}, R a b → R b c → R a c) (entries : List (String × PositionPayload))
    (hcorrect : ∀ entry ∈ entries, ∀ e synced,
      e.forceSync entry.1 entry.2.volume entry.2.entryPrice = .ok synced →
      R e (synced.reconcileStrategyPosition entry.1 entry.2.volume entry.2.entryPrice))
    (s : OmsState) : SameOrders s (applyAccountPositions env eventTime s entries).1 ∧
      R s.exposure (applyAccountPositions env eventTime s entries).1.exposure := by
  induction entries generalizing s with
  | nil => exact ⟨⟨rfl, rfl, rfl, rfl, rfl, rfl⟩, hrefl _⟩
  | cons entry rest ih =>
    obtain ⟨symbol, payload⟩ := entry
    have hrest := ih (fun entry hmem => hcorrect entry (List.mem_cons_of_mem _ hmem))
    rw [applyAccountPositions]
    split
    · cases happly : s.applyAccountPosition eventTime symbol payload with
      | error err => exact ⟨⟨rfl, rfl, rfl, rfl, rfl, rfl⟩, hrefl _⟩
      | ok next =>
        obtain ⟨hsame, hexposure⟩ := applyAccountPosition_cases happly
        obtain ⟨hsame', hrel⟩ := hrest next
        refine ⟨hsame.trans hsame', ?_⟩
        rcases hexposure with heq | ⟨synced, hsync, heq⟩
        · rw [heq] at hrel
          exact hrel
        · refine htrans ?_ hrel
          rw [heq]
          exact hcorrect (symbol, payload) List.mem_cons_self s.exposure synced hsync
    · exact hrest s

/-- What `readPositions` checks about an entry. -/
structure ReadPosition (entry : String × PositionPayload) : Prop where
  canonical : Text.strip entry.1.toUpper = entry.1
  named : entry.1 ≠ ""
  price : 0 ≤ entry.2.entryPrice

theorem position_price {symbol : String} {raw : RawPosition} {payload : PositionPayload}
    (h : RawAccountUpdate.position symbol raw = .ok payload) : 0 ≤ payload.entryPrice := by
  unfold RawAccountUpdate.position at h
  obtain ⟨volume, -, h⟩ := Run.except_bind_eq_ok.mp h
  obtain ⟨entryPrice, -, h⟩ := Run.except_bind_eq_ok.mp h
  by_cases hneg : entryPrice < 0
  · rw [if_pos hneg] at h
    cases h
  rw [if_neg hneg] at h
  obtain ⟨unrealizedPnl, -, h⟩ := Run.except_bind_eq_ok.mp h
  cases h
  exact not_lt.mp hneg

/-- Every position of a normalised update has been checked. -/
theorem readPositions_spec {raw : List (String × RawPosition)}
    {filed positions : Dict String PositionPayload}
    (h : RawAccountUpdate.readPositions filed raw = .ok positions)
    (hfiled : ∀ entry ∈ filed.items, ReadPosition entry) :
    ∀ entry ∈ positions.items, ReadPosition entry := by
  induction raw generalizing filed with
  | nil =>
    cases h
    exact hfiled
  | cons entry rest ih =>
    obtain ⟨name, payload⟩ := entry
    simp only [RawAccountUpdate.readPositions, bind, Except.bind] at h
    split at h
    · cases h
    next hname =>
    split at h
    · cases h
    next payload' hpayload =>
    refine ih h ?_
    intro filedEntry hmem
    rcases Dict.mem_items_set hmem with hnew | hold
    · rw [hnew]
      refine ⟨?_, ?_, position_price hpayload⟩
      · show Text.strip (Text.strip name.toUpper).toUpper = Text.strip name.toUpper
        rw [Text.toUpper_strip_toUpper, Text.strip_strip]
      · exact hname
    · exact hfiled filedEntry hold

theorem normalize_positions {raw : RawAccountUpdate} {update : AccountUpdate}
    (h : raw.normalize = .ok update) : ∀ entry ∈ update.positions.items, ReadPosition entry := by
  unfold RawAccountUpdate.normalize at h
  iterate 10 obtain ⟨_, -, h⟩ := Run.except_bind_eq_ok.mp h
  obtain ⟨positions, hpositions, h⟩ := Run.except_bind_eq_ok.mp h
  cases h
  refine readPositions_spec hpositions ?_
  intro entry hmem
  cases hmem

/-- **An account update** keeps the orders, and any relation on the ledgers that its
corrections keep. -/
theorem onExchangeAccountUpdate_spec (env : AccountEnv) (s : OmsState) (raw : RawAccountUpdate)
    (hrefl : ∀ e, R e e)
    (htrans : ∀ {a b c}, R a b → R b c → R a c)
    (hcorrect : ∀ symbol volume price, Text.strip symbol.toUpper = symbol → ∀ e synced,
      e.forceSync symbol volume price = .ok synced →
      R e (synced.reconcileStrategyPosition symbol volume price)) :
    SameOrders s (s.onExchangeAccountUpdate env raw) ∧
      R s.exposure (s.onExchangeAccountUpdate env raw).exposure := by
  unfold onExchangeAccountUpdate
  cases hraw : raw.normalize with
  | error detail =>
    have hquiet : SameLedgers s (s.quarantineInvalidAccount detail) :=
      ((audit_sameLedgers s _).trans (freezeUnlessSettling_sameLedgers _ _)).trans
        (queueReconcile_sameLedgers _ _ _)
    exact ⟨hquiet.sameOrders, by rw [hquiet.exposure]; exact hrefl _⟩
  | ok update =>
    obtain ⟨hsame, hrel⟩ := applyAccountPositions_spec env update.eventTime hrefl htrans
      update.positions.items
      (fun entry hmem e synced => hcorrect entry.1 entry.2.volume entry.2.entryPrice
        (normalize_positions hraw entry hmem).canonical e synced) s
    simp only
    cases hpositions : applyAccountPositions env update.eventTime s update.positions.items with
    | mk positioned outcome =>
      rw [hpositions] at hsame hrel
      cases outcome with
      | error err => exact ⟨hsame, hrel⟩
      | ok u =>
        obtain ⟨hsame', hexposure⟩ := applyAccountBalance_sameOrders env positioned update
        simp only
        split
        · exact ⟨hsame.trans hsame', by rw [hexposure]; exact hrel⟩
        · refine ⟨(hsame.trans hsame').trans (audit_sameLedgers _ _).sameOrders, ?_⟩
          rw [(audit_sameLedgers _ _).exposure, hexposure]
          exact hrel

end OmsState

end ChronosHFT.Oms
