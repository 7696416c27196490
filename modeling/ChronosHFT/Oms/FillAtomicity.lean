import ChronosHFT.Oms.AccountTruth
import ChronosHFT.Oms.EventSpec

/-!
# All or nothing

Is a fill booked everywhere or nowhere?  A fill touches five things: the journal
and the remembered identities, the order's own numbers, the strategy ledger, the
net position, and the open quantities.  `Booked` says that all five reflect it,
`Untouched` that none of them changed and that nothing about the trade has been
consumed, so that the REST history will still deliver it.

The identity is remembered before the order has accepted the fill.  Hence an
update that reaches the booking is never `Untouched` again, and it is `Booked`
exactly when nothing after that point raises (`BooksCleanly`): the order's checks
pass, its status admits the fill, and a `FILLED` message completes the volume.
-/

namespace ChronosHFT.Oms

/-- The execution records of a journal, oldest first. -/
def executionsOf (journal : List JournalRecord) : List ExecutionRecord :=
  journal.filterMap fun
    | .execution execution => some execution
    | _ => none

theorem executionsOf_append (journal records : List JournalRecord) :
    executionsOf (journal ++ records) = executionsOf journal ++ executionsOf records :=
  List.filterMap_append ..

theorem executionsOf_ledgerRecords (journal : List JournalRecord) :
    executionsOf (ledgerRecords journal) = executionsOf journal := by
  induction journal with
  | nil => rfl
  | cons record rest ih =>
    have hsplit : ∀ l : List JournalRecord, record :: l = [record] ++ l := fun _ => rfl
    rw [hsplit, ledgerRecords_append, executionsOf_append, executionsOf_append, ih]
    congr 1
    cases record <;> rfl

namespace Order

/-- The fill of an update does not raise anywhere in the order: its checks pass, its
status admits the fill, and a `FILLED` message completes the volume. -/
structure BooksCleanly (order : Order) (u : ExchangeOrderUpdate) (status : UpdateStatus) :
    Prop where
  checks : order.fillCheck (incomingDelta order u) u.filledPrice = none
  moves :
    (order.bookFill (incomingDelta order u) u.filledPrice).fillStatus = order.status ∨
      (order.bookFill (incomingDelta order u) u.filledPrice).fillStatus ∈
        order.status.allowedTransitions
  completes : status = .filled →
    order.intent.volume - doneEps ≤
      (order.bookFill (incomingDelta order u) u.filledPrice).filledVolume

end Order

namespace Order

/-! ## The order's half -/

variable {after order : Order} {price qty : ℚ}

/-- A quantity refused by the checks leaves the order as it was. -/
theorem addFill_of_check (now : ℚ) (note : ExchangeNote)
    {err : OrderError} (hqty : 0 < qty) (hcheck : order.fillCheck qty price = some err) :
    order.addFill now qty price note = (order, .error err) := by
  unfold addFill
  rw [if_neg (not_le.mpr hqty)]
  simp only [hcheck]

/-- A status that does not admit the fill raises after the fill has been counted. -/
theorem addFill_of_stuck (now : ℚ) (note : ExchangeNote)
    (hqty : 0 < qty) (hcheck : order.fillCheck qty price = none)
    (hstuck : ¬((order.bookFill qty price).fillStatus = order.status ∨
      (order.bookFill qty price).fillStatus ∈ order.status.allowedTransitions)) :
    ∃ err, order.addFill now qty price note = (order.bookFill qty price, .error err) := by
  push Not at hstuck
  unfold addFill transition
  rw [if_neg (not_le.mpr hqty)]
  simp only [hcheck, bookFill_status, hstuck.1, hstuck.2, if_false]
  exact ⟨_, rfl⟩

/-- A status that admits the fill books it and moves. -/
theorem addFill_eq_of_moves (now : ℚ) (note : ExchangeNote)
    (hqty : 0 < qty) (hcheck : order.fillCheck qty price = none)
    (hmoves : (order.bookFill qty price).fillStatus = order.status ∨
      (order.bookFill qty price).fillStatus ∈ order.status.allowedTransitions) :
    order.addFill now qty price note =
      (((order.bookFill qty price).transition now
        (order.bookFill qty price).fillStatus "" note).1, .ok true) := by
  obtain ⟨moved, hmoved⟩ := (@transition_isOk_iff (order.bookFill qty price) now
    (order.bookFill qty price).fillStatus "" note).mpr hmoves
  unfold addFill
  rw [if_neg (not_le.mpr hqty)]
  simp only [hcheck]
  cases hmove : (order.bookFill qty price).transition now
      (order.bookFill qty price).fillStatus "" note with
  | mk after result =>
    rw [hmove] at hmoved
    cases hmoved
    rfl

theorem addFill_of_moves (now : ℚ) (note : ExchangeNote)
    (hqty : 0 < qty) (hcheck : order.fillCheck qty price = none)
    (hmoves : (order.bookFill qty price).fillStatus = order.status ∨
      (order.bookFill qty price).fillStatus ∈ order.status.allowedTransitions) :
    ∃ after, order.addFill now qty price note = (after, .ok true) :=
  ⟨_, addFill_eq_of_moves now note hqty hcheck hmoves⟩

theorem markFilled_sameBooks (order : Order) (now updateTime : ℚ) (seq : ℤ) :
    SameBooks (order.markFilled now updateTime seq).1 order := by
  unfold markFilled
  split
  · exact SameBooks.refl order
  · exact transition_sameBooks order now .filled "" _

theorem withoutFill_fst (moved : Order × Except OrderError Bool) :
    (withoutFill moved).1 = moved.1 := by
  obtain ⟨order, result⟩ := moved
  cases result <;> rfl

theorem complete_sameBooks (now : ℚ) (u : ExchangeOrderUpdate)
    (filled : Order × Except OrderError Bool) :
    SameBooks (complete now u filled).1 filled.1 := by
  obtain ⟨order, result⟩ := filled
  cases result with
  | error err => exact SameBooks.refl order
  | ok hadFill =>
    have hbooks := markFilled_sameBooks order now u.updateTime u.seq
    cases hmark : order.markFilled now u.updateTime u.seq with
    | mk after report =>
      rw [hmark] at hbooks
      cases report <;> simpa only [complete, hmark] using hbooks

/-- An update without a fill leaves the order's accounting alone. -/
theorem applyUpdate_sameBooks (now : ℚ) (u : ExchangeOrderUpdate)
    (status : UpdateStatus) (hdelta : ¬qtyEps < incomingDelta order u) :
    SameBooks (order.applyUpdate now u status).1 order := by
  have hnoted : SameBooks (order.applyFill now u).1 order := by
    unfold applyFill
    rw [if_neg hdelta]
    exact noteExchangeUpdate_sameBooks order now _
  cases status with
  | new =>
    rw [applyUpdate, withoutFill_fst]
    exact transition_sameBooks order now .new "" _
  | canceled =>
    rw [applyUpdate, withoutFill_fst]
    exact transition_sameBooks order now .cancelled "" _
  | expired =>
    rw [applyUpdate, withoutFill_fst]
    exact transition_sameBooks order now .expired "" _
  | rejected =>
    rw [applyUpdate, withoutFill_fst]
    exact transition_sameBooks order now .rejected "exchange_rejected" _
  | partiallyFilled => exact hnoted
  | filled => exact (complete_sameBooks now u _).trans hnoted

/-- An order that is complete stays `FILLED` when told so. -/
theorem markFilled_of_complete (now updateTime : ℚ) (seq : ℤ)
    (hvolume : order.intent.volume - doneEps ≤ order.filledVolume)
    (hstatus : order.status = .filled) :
    ∃ after, order.markFilled now updateTime seq = (after, .ok false) ∧
      SameBooks after order ∧ after.status = .filled := by
  have hbooks := markFilled_sameBooks order now updateTime seq
  unfold markFilled transition at hbooks ⊢
  rw [if_neg (not_lt.mpr hvolume), if_pos hstatus.symm] at hbooks ⊢
  exact ⟨_, rfl, hbooks, by rw [noteReason_status, noteExchangeUpdate_status, hstatus]⟩

/-- **A clean fill** goes through the order to the end. -/
theorem applyUpdate_clean (now : ℚ) {u : ExchangeOrderUpdate}
    {status : UpdateStatus} (hfill : status.isFill = true)
    (hdelta : qtyEps < incomingDelta order u) (hclean : order.BooksCleanly u status) :
    ∃ after, order.applyUpdate now u status = (after, .ok true) ∧
      (order.applyFill now u).2 = .ok true ∧
      SameBooks after (order.bookFill (incomingDelta order u) u.filledPrice) ∧
      after.status = (order.bookFill (incomingDelta order u) u.filledPrice).fillStatus := by
  have hqty : 0 < incomingDelta order u := qtyEps_pos.trans hdelta
  obtain ⟨booked, hadd⟩ := addFill_of_moves now
    { exchangeStatus := u.status, updateTime := u.updateTime, seq := u.seq } hqty
    hclean.checks hclean.moves
  obtain ⟨-, hbooks, hstatus⟩ := addFill_ok hadd hqty
  have happly : order.applyFill now u = (booked, .ok true) := by
    unfold applyFill
    rw [if_pos hdelta, hadd]
  cases status with
  | partiallyFilled => exact ⟨booked, happly, by rw [happly], hbooks, hstatus⟩
  | filled =>
    have hvolume := hclean.completes rfl
    have hfilled : (order.bookFill (incomingDelta order u) u.filledPrice).fillStatus = .filled :=
      if_pos hvolume
    obtain ⟨after, hmark, hafter, hafterStatus⟩ := markFilled_of_complete now u.updateTime u.seq
      (by rw [hbooks.intent, hbooks.filledVolume]; exact hvolume) (hstatus.trans hfilled)
    refine ⟨after, ?_, by rw [happly], hafter.trans hbooks, hafterStatus.trans hfilled.symm⟩
    simp only [applyUpdate, happly, complete, hmark]
  | new => cases hfill
  | canceled => cases hfill
  | expired => cases hfill
  | rejected => cases hfill

/-- A fill that raised in the order ends the update there. -/
theorem applyUpdate_of_error {now : ℚ} {u : ExchangeOrderUpdate}
    {status : UpdateStatus} {err : OrderError} (hfill : status.isFill = true)
    (happly : order.applyFill now u = (after, .error err)) :
    order.applyUpdate now u status = (after, .error err) := by
  cases status with
  | partiallyFilled => exact happly
  | filled => simp only [applyUpdate, happly, complete]
  | new => cases hfill
  | canceled => cases hfill
  | expired => cases hfill
  | rejected => cases hfill

/-- A fill the checks let through is counted up to the tolerance. -/
theorem filledVolume_le_of_check (hcheck : order.fillCheck qty price = none)
    (hbooks : SameBooks after (order.bookFill qty price)) :
    order.filledVolume + qty ≤ after.filledVolume + fillEps := by
  have hremaining : qty ≤ order.remaining + fillEps := by
    unfold fillCheck at hcheck
    split at hcheck
    · cases hcheck
    split at hcheck
    · cases hcheck
    split at hcheck
    · cases hcheck
    next hle => exact not_lt.mp hle
  have hmin : qty ≤ min qty order.remaining + fillEps := by
    have heps := fillEps_pos
    rcases min_cases qty order.remaining with ⟨h, -⟩ | ⟨h, -⟩ <;> rw [h] <;> linarith
  rw [hbooks.filledVolume, bookFill_filledVolume]
  linarith

end Order

namespace OmsState

/-- Nothing about a fill changed, and nothing about it was consumed. -/
structure Untouched (s s' : OmsState) : Prop where
  executions : executionsOf s'.journal = executionsOf s.journal
  executionIds : s'.executionIds = s.executionIds
  tradeCursors : s'.tradeCursors = s.tradeCursors
  books : ∀ key, Option.Rel Order.SameBooks (s'.orders.get? key) (s.orders.get? key)
  positions : Exposure.SamePositions s.exposure s'.exposure
  openOrders : s'.exposure = s.exposure ∨
    s'.exposure = s.exposure.updateOpenOrders s'.orders

/-- The fill of an update is reflected everywhere. -/
structure Booked (s s' : OmsState) (u : ExchangeOrderUpdate) (key : String) (order : Order) :
    Prop where
  execution : ∃ fee, executionsOf s'.journal =
    executionsOf s.journal ++ [s.executionRecord order u (incomingDelta order u) fee]
  identity : s'.executionIds = insert (s.executionId order u) s.executionIds
  books : ∃ after, s'.orders.get? key = some after ∧
    Order.SameBooks after (order.bookFill (incomingDelta order u) u.filledPrice) ∧
    after.status = (order.bookFill (incomingDelta order u) u.filledPrice).fillStatus ∧
    order.filledVolume + incomingDelta order u ≤ after.filledVolume + fillEps
  others : ∀ other, other ≠ key → s'.orders.get? other = s.orders.get? other
  /-- Strategy ledger, net position (unless already synchronised), residual and open
  quantities. -/
  exposure : s'.exposure =
    (s.exposure.fillLedgers order.intent (incomingDelta order u) u.filledPrice
      (s.positionAlreadySynced order.intent.symbol u)).updateOpenOrders s'.orders

/-- An update is booked everywhere or nowhere. -/
def Atomic (env : EventEnv) (s : OmsState) (raw : RawOrderUpdate) : Prop :=
  Untouched s (s.applyEvent env raw) ∨
    ∃ u key order, raw.normalize = .ok u ∧ s.findOrder u = some (key, order) ∧
      qtyEps < incomingDelta order u ∧ Booked s (s.applyEvent env raw) u key order

/-- The condition: an update that carries a new fill meets an order that books it
cleanly. -/
def Clean (s : OmsState) (raw : RawOrderUpdate) : Prop :=
  ∀ u key order status, raw.normalize = .ok u → s.judge u = .proceed key order status →
    qtyEps < incomingDelta order u → order.BooksCleanly u status

/-- The state as every completed operation leaves it: the open quantities are those
of the order table, and no order has a non-positive volume or negative fills. -/
structure Sound (s : OmsState) : Prop where
  coherent : s.exposure.OpenQtyOf s.orders
  orders : ∀ key order, s.orders.get? key = some order →
    0 < order.intent.volume ∧ 0 ≤ order.filledVolume ∧ 0 ≤ order.cumulativeCost

/-! ## Refused updates and status changes -/

variable {s s' : OmsState} {env : EventEnv} {u : ExchangeOrderUpdate} {key : String}
  {after order : Order} {status : UpdateStatus}

theorem SameLedgers.untouched (h : SameLedgers s s') : Untouched s s' where
  executions := by
    rw [← executionsOf_ledgerRecords, h.records, executionsOf_ledgerRecords]
  executionIds := h.executionIds
  tradeCursors := h.tradeCursors
  books := by
    intro key
    rw [h.orders]
    cases s.orders.get? key with
    | none => exact Option.Rel.none
    | some order => exact Option.Rel.some (Order.SameBooks.refl order)
  positions := by
    rw [h.exposure]
    exact ⟨rfl, rfl, rfl, rfl⟩
  openOrders := Or.inl h.exposure

theorem executionsOf_snapshotRecords (before : Order) (update : Order × Except OrderError Bool) :
    executionsOf (snapshotRecords before update) = [] := by
  obtain ⟨after, result⟩ := update
  cases result with
  | error err => rfl
  | ok hadFill =>
    simp only [snapshotRecords]
    split <;> rfl

/-- The executions an applied update leaves in the journal. -/
theorem Applied.executions (h : Applied env s s' u key order status) : executionsOf s'.journal =
      executionsOf s.journal ++ executionsOf (executionRecords env s order u) := by
  rw [← executionsOf_ledgerRecords, h.records, executionsOf_append, executionsOf_append,
    executionsOf_snapshotRecords, executionsOf_ledgerRecords, List.append_nil]

/-- An update without a fill changes no book. -/
theorem Applied.untouched
    (h : Applied env s s' u key order status) (hget : s.orders.get? key = some order)
    (hdelta : ¬qtyEps < incomingDelta order u) : Untouched s s' := by
  have hfilled : filledExposure env s order u = s.exposure := by
    unfold filledExposure
    split
    · exact if_neg hdelta
    · rfl
  have hexposure : s'.exposure = s.exposure ∨
      s'.exposure = s.exposure.updateOpenOrders s'.orders := by
    have hcase := h.exposure
    rw [hfilled] at hcase
    cases hresult : (order.applyUpdate env.now u status).2 with
    | ok hadFill =>
      rw [hresult] at hcase
      exact Or.inr hcase
    | error err =>
      rw [hresult] at hcase
      exact Or.inl hcase
  refine ⟨?_, ?_, h.tradeCursors, ?_, ?_, hexposure⟩
  · rw [h.executions]
    unfold executionRecords
    rw [if_neg hdelta]
    exact List.append_nil _
  · rw [h.executionIds]
    exact if_neg hdelta
  · intro other
    rw [h.orders, Dict.get?_set]
    by_cases hother : other = key
    · rw [if_pos hother, hother, hget]
      exact Option.Rel.some (Order.applyUpdate_sameBooks env.now u status hdelta)
    rw [if_neg hother]
    cases s.orders.get? other with
    | none => exact Option.Rel.none
    | some order => exact Option.Rel.some (Order.SameBooks.refl order)
  · rcases hexposure with hsame | hrecomputed
    · rw [hsame]
      exact ⟨rfl, rfl, rfl, rfl⟩
    · rw [hrecomputed]
      exact Exposure.updateOpenOrders_samePositions _ _

/-! ## Fills -/

/-- A clean fill is reflected everywhere. -/
theorem Applied.booked (h : Applied env s s' u key order status) (hfill : status.isFill = true)
    (hdelta : qtyEps < incomingDelta order u) (hclean : order.BooksCleanly u status) :
    Booked s s' u key order := by
  obtain ⟨after, hupdate, hfilled, hbooks, hstatus⟩ :=
    Order.applyUpdate_clean env.now hfill hdelta hclean
  have hget : s'.orders.get? key = some after := by
    rw [h.orders, hupdate]
    exact Dict.get?_set_self _ _ _
  refine ⟨⟨fillCommission env u order (incomingDelta order u * u.filledPrice), ?_⟩, ?_,
    ⟨after, hget, hbooks, hstatus, ?_⟩, ?_, ?_⟩
  · rw [h.executions]
    unfold executionRecords
    rw [if_pos hdelta]
    rfl
  · rw [h.executionIds]
    exact if_pos hdelta
  · exact Order.filledVolume_le_of_check hclean.checks hbooks
  · intro other hother
    rw [h.orders, Dict.get?_set_of_ne _ _ hother]
  · have hexposure := h.exposure
    rw [hupdate] at hexposure
    unfold filledExposure at hexposure
    rw [hfilled] at hexposure
    simp only [hdelta, if_true] at hexposure
    exact hexposure

/-- Booking into the ledgers is not counting open orders. -/
theorem fillLedgers_openQty (e : Exposure) (intent : OrderIntent) {qty price : ℚ} (synced : Bool)
    (hqty : 0 < qty) (hprice : 0 < price) (symbol : String) (reduceOnly : Bool) (side : Side) :
    (e.fillLedgers intent qty price synced).openQty symbol reduceOnly side =
      e.openQty symbol reduceOnly side := by
  have hkeep : ∀ e' : Exposure, e'.openBuyQty = e.openBuyQty → e'.openSellQty = e.openSellQty →
      e'.reduceOnlyBuyQty = e.reduceOnlyBuyQty → e'.reduceOnlySellQty = e.reduceOnlySellQty →
      e'.openQty symbol reduceOnly side = e.openQty symbol reduceOnly side := by
    intro e' hbuy hsell hreduceBuy hreduceSell
    unfold Exposure.openQty
    rw [hbuy, hsell, hreduceBuy, hreduceSell]
  have hpositive : ¬(qty ≤ 0 ∨ price ≤ 0) := by
    push Not
    exact ⟨hqty, hprice⟩
  unfold Exposure.fillLedgers Exposure.onStrategyFill Exposure.onFill Ledger.applyFill
  simp only [hpositive, if_false]
  cases synced <;> exact hkeep _ rfl rfl rfl rfl

/-- The share of an incompletely filled order is smaller than it was, and not
zero. -/
theorem openShare_ne_of_incomplete {qty price : ℚ} (hqty : 0 < qty)
    (hbooks : Order.SameBooks after (order.bookFill qty price))
    (hincomplete : (order.bookFill qty price).filledVolume < order.intent.volume - doneEps)
    (hstatus : after.status = (order.bookFill qty price).fillStatus) :
    Exposure.openShare order.intent.symbol order.intent.reduceOnly order.intent.side after ≠
      Exposure.openShare order.intent.symbol order.intent.reduceOnly order.intent.side
        order := by
  have hpartly : after.status = .partiallyFilled := by
    rw [hstatus]
    exact if_neg (not_le.mpr hincomplete)
  have hactive : after.isActive = true := by
    unfold Order.isActive
    rw [hpartly]
    decide
  have hopen : doneEps < after.openVolume := by
    unfold Order.openVolume
    rw [hbooks.intent, hbooks.filledVolume, Order.bookFill_intent]
    linarith
  have hpos : 0 < after.openVolume := doneEps_pos.trans hopen
  have hsmaller : after.openVolume < order.openVolume := by
    have happlied : 0 < min qty order.remaining := by
      refine lt_min hqty ?_
      by_contra hnone
      have hzero : order.remaining = 0 := le_antisymm (not_lt.mp hnone) (le_max_left _ _)
      rw [Order.bookFill_filledVolume, hzero, min_eq_right hqty.le, add_zero] at hincomplete
      have hle : order.intent.volume - order.filledVolume ≤ order.remaining := le_max_right _ _
      rw [hzero] at hle
      have hdone := doneEps_pos
      linarith
    unfold Order.openVolume
    rw [hbooks.intent, hbooks.filledVolume, Order.bookFill_intent, Order.bookFill_filledVolume]
    linarith
  have hshare : Exposure.openShare order.intent.symbol order.intent.reduceOnly order.intent.side
      after = after.openVolume := by
    unfold Exposure.openShare
    rw [if_pos]
    exact ⟨hactive, hpos, by rw [hbooks.intent, Order.bookFill_intent],
      by rw [hbooks.intent, Order.bookFill_intent], by rw [hbooks.intent, Order.bookFill_intent]⟩
  rw [hshare]
  unfold Exposure.openShare
  split
  · exact hsmaller.ne
  · exact hpos.ne'

/-- Open quantities that were right for the old order are wrong for the new one. -/
theorem stale_openQty {e : Exposure} {orders : Dict String Order}
    (hcoherent : e.OpenQtyOf orders)
    (hget : orders.get? key = some order)
    {symbol : String} {reduceOnly : Bool} {side : Side}
    (hshare : Exposure.openShare symbol reduceOnly side after ≠
      Exposure.openShare symbol reduceOnly side order) : e.openQty symbol reduceOnly side ≠
      (orders.set key after).sumBy fun _ order =>
        Exposure.openShare symbol reduceOnly side order := by
  rw [hcoherent, Dict.sumBy_set]
  unfold Dict.contribution
  rw [hget]
  intro heq
  apply hshare
  simp only at heq
  linarith

/-- A fill whose order-level booking raised, or was not completed, is not reflected
everywhere. -/
theorem Applied.clean_of_booked (h : Applied env s s' u key order status) (hsound : s.Sound)
    (hget : s.orders.get? key = some order) (hprice : 0 < u.filledPrice)
    (hfill : status.isFill = true) (hdelta : qtyEps < incomingDelta order u)
    (hbooked : Booked s s' u key order) : order.BooksCleanly u status := by
  have hqty : 0 < incomingDelta order u := qtyEps_pos.trans hdelta
  obtain ⟨after, hafter, hbooks, hstatus, hreached⟩ := hbooked.books
  have hafter' : (order.applyUpdate env.now u status).1 = after := by
    rw [h.orders, Dict.get?_set_self] at hafter
    exact Option.some.inj hafter
  obtain ⟨hvolume, hfilled, hcost⟩ := hsound.orders key order hget
  have hchecks : order.fillCheck (incomingDelta order u) u.filledPrice = none := by
    cases hcheck : order.fillCheck (incomingDelta order u) u.filledPrice with
    | none => rfl
    | some err =>
      exfalso
      -- The order is as it was, so it never reached the reported quantity.
      have happly : order.applyFill env.now u = (order, .error err) := by
        unfold Order.applyFill
        rw [if_pos hdelta]
        exact Order.addFill_of_check env.now _ hqty hcheck
      have hsame : after = order := by
        rw [← hafter', Order.applyUpdate_of_error hfill happly]
      rw [hsame] at hreached
      have hremaining : 0 ≤ order.remaining := le_max_left _ _
      unfold Order.fillCheck at hcheck
      rw [if_neg (not_le.mpr hprice), if_neg (by push Not; exact ⟨hvolume, hfilled, hcost⟩)]
        at hcheck
      split at hcheck
      · linarith
      · cases hcheck
  have hmoves : (order.bookFill (incomingDelta order u) u.filledPrice).fillStatus =
      order.status ∨
      (order.bookFill (incomingDelta order u) u.filledPrice).fillStatus ∈
        order.status.allowedTransitions := by
    by_contra hstuck
    obtain ⟨err, hadd⟩ := Order.addFill_of_stuck env.now
      { exchangeStatus := u.status, updateTime := u.updateTime,
        seq := u.seq } hqty hchecks hstuck
    have happly : order.applyFill env.now u =
        (order.bookFill (incomingDelta order u) u.filledPrice, .error err) := by
      unfold Order.applyFill
      rw [if_pos hdelta]
      exact hadd
    have hsame : after = order.bookFill (incomingDelta order u) u.filledPrice := by
      rw [← hafter', Order.applyUpdate_of_error hfill happly]
    rw [hsame, Order.bookFill_status] at hstatus
    exact hstuck (Or.inl hstatus.symm)
  refine ⟨hchecks, hmoves, ?_⟩
  intro hfilledStatus
  by_contra hincomplete
  have hincomplete' := not_le.mp hincomplete
  -- The completion raised, so the open quantities are still those of the old order.
  obtain ⟨filledOrder, hadd⟩ := Order.addFill_of_moves env.now
    { exchangeStatus := u.status, updateTime := u.updateTime, seq := u.seq } hqty hchecks hmoves
  have happly : order.applyFill env.now u = (filledOrder, .ok true) := by
    unfold Order.applyFill
    rw [if_pos hdelta]
    exact hadd
  obtain ⟨-, hfilledBooks, -⟩ := Order.addFill_ok hadd hqty
  have hraised : order.applyUpdate env.now u status =
      (filledOrder, .error (.notComplete filledOrder.clientOid)) := by
    rw [hfilledStatus]
    simp only [Order.applyUpdate, happly, Order.complete, Order.markFilled]
    rw [hfilledBooks.intent, hfilledBooks.filledVolume, Order.bookFill_intent,
      if_pos hincomplete']
  have hexposure := h.exposure
  rw [hraised] at hexposure
  unfold filledExposure at hexposure
  rw [happly] at hexposure
  simp only [hdelta, if_true] at hexposure
  have hrecomputed := congrArg
    (fun e => Exposure.openQty e order.intent.symbol order.intent.reduceOnly order.intent.side)
    (hexposure.symm.trans hbooked.exposure)
  simp only [Exposure.updateOpenOrders_openQty, fillLedgers_openQty _ _ _ hqty hprice]
    at hrecomputed
  rw [h.orders, hafter'] at hrecomputed
  exact stale_openQty hsound.coherent hget
    (openShare_ne_of_incomplete hqty hbooks hincomplete' hstatus) hrecomputed

/-! ## Exactly when a fill is atomic -/

theorem atomic_of_clean (env : EventEnv) {raw : RawOrderUpdate}
    (hclean : s.Clean raw) : Atomic env s raw := by
  rcases applyEvent_cases env s raw with hsame | ⟨u, key, order, status, hraw, hjudge, happlied⟩
  · exact Or.inl hsame.untouched
  have hjudged := judge_proceed hjudge
  by_cases hdelta : qtyEps < incomingDelta order u
  · have hgap := gapDetail_none (hjudged.gap hdelta)
    exact Or.inr ⟨u, key, order, hraw, hjudged.found, hdelta,
      happlied.booked hgap.1 hdelta (hclean u key order status hraw hjudge hdelta)⟩
  · exact Or.inl (happlied.untouched (findOrder_get? hjudged.found) hdelta)

theorem clean_of_atomic (env : EventEnv) {raw : RawOrderUpdate}
    (hsound : s.Sound) (hatomic : Atomic env s raw) : s.Clean raw := by
  intro u key order status hraw hjudge hdelta
  have happlied := applyEvent_proceed env hraw hjudge
  have hjudged := judge_proceed hjudge
  have hgap := gapDetail_none (hjudged.gap hdelta)
  rcases hatomic with huntouched | ⟨u', key', order', hraw', hfound', -, hbooked⟩
  · -- The identity has been remembered, so something did change.
    have hids := huntouched.executionIds
    rw [happlied.executionIds] at hids
    unfold idsAfter at hids
    rw [if_pos hdelta] at hids
    have hmem : s.executionId order u ∈ s.executionIds := by
      rw [← hids]
      exact Finset.mem_insert_self _ _
    exact absurd hmem (hjudged.fresh hdelta)
  · have hu : u' = u := Except.ok.inj (hraw'.symm.trans hraw)
    subst hu
    have hentry := hfound'.symm.trans hjudged.found
    cases hentry
    exact happlied.clean_of_booked hsound (findOrder_get? hjudged.found) hgap.2.2.2.1 hgap.1
      hdelta hbooked

/-- **All or nothing, exactly when the order books the fill cleanly.**  The
condition is enough in any state; in a sound state it is also necessary. -/
theorem fill_atomic_iff_clean (env : EventEnv) (s : OmsState) (raw : RawOrderUpdate) :
    (s.Clean raw → Atomic env s raw) ∧ (s.Sound → Atomic env s raw → s.Clean raw) :=
  ⟨atomic_of_clean env, clean_of_atomic env⟩

/-- A clock at zero and no fees. -/
def plainEnv : EventEnv := ⟨0, fun _ _ => 0, fun _ => "USDT"⟩

/-- An order for two contracts, known to the venue as `77`, in a given status. -/
def orderIn (status : OrderStatus) : Order :=
  { clientOid := "a", exchangeOid := "77", status := status
    intent :=
      { strategyId := "mm", symbol := "BTCUSDT", side := .buy, price := 100, volume := 2 } }

/-- A state holding just that order. -/
def stateWith (status : OrderStatus) : OmsState :=
  let orders : Dict String Order := Dict.ofList [("a", orderIn status)]
  { venue := "BINANCE"
    orders := orders
    exchangeIdMap := Dict.ofList [("77", "a")]
    exposure := ({} : Exposure).updateOpenOrders orders }

/-- The first half of the order fills as trade `7`. -/
def halfFill : RawOrderUpdate :=
  { clientOid := "a", exchangeOid := "77", symbol := "BTCUSDT", status := "PARTIALLY_FILLED"
    filledQty := .finite 1, filledPrice := .finite 100, cumFilledQty := .finite 1
    updateTime := .finite 5, tradeId := .finite 7 }

/-- `halfFill` as the normaliser leaves it. -/
def halfFillUpdate : ExchangeOrderUpdate :=
  { clientOid := "a", exchangeOid := "77", symbol := "BTCUSDT", status := "PARTIALLY_FILLED"
    filledQty := 1, filledPrice := 100, cumFilledQty := 1, updateTime := 5, tradeId := 7 }

/-- The same trade in the REST history. -/
def halfTrade : ExchangeTrade :=
  { symbol := "BTCUSDT", id := 7, orderId := "77", qty := .finite 1, price := .finite 100
    time := .finite 5000 }

theorem stateWith_sound (status : OrderStatus) : (stateWith status).Sound where
  coherent := Exposure.updateOpenOrders_openQty _ _
  orders := by
    intro key order hget
    have hmem := Dict.get?_eq_some_iff.mp hget
    have horder : order = orderIn status := by
      simpa [stateWith, Dict.ofList, Dict.setAll, Dict.set, Dict.setIn, Dict.empty] using
        congrArg Prod.snd (List.mem_singleton.mp hmem)
    subst horder
    have hvolume : (0 : ℚ) < 2 := by norm_num
    exact ⟨hvolume, le_refl 0, le_refl 0⟩

theorem normalize_halfFill : halfFill.normalize = .ok halfFillUpdate := by decide +kernel

theorem fill_atomic_iff_clean_newOrder :
    (stateWith .new).Sound ∧ Atomic plainEnv (stateWith .new) halfFill := by
  refine ⟨stateWith_sound .new, (fill_atomic_iff_clean plainEnv (stateWith .new) halfFill).1 ?_⟩
  intro u key order status hraw hjudge hdelta
  have hu : halfFillUpdate = u := Except.ok.inj (normalize_halfFill.symm.trans hraw)
  subst hu
  have hproceed : (stateWith .new).judge halfFillUpdate =
      .proceed "a" (orderIn .new) .partiallyFilled := by decide +kernel
  cases hproceed.symm.trans hjudge
  exact ⟨by decide +kernel, by decide +kernel, by decide⟩

/-- A fill for a rejected order: the execution is journaled and the order counts the
volume, but the ledgers never hear of it, and the REST history then takes the trade
for a confirmed duplicate and moves its cursor past it. -/
theorem rejected_order_fill_half_booked :
    (stateWith .rejected).Sound ∧ ¬Atomic plainEnv (stateWith .rejected) halfFill ∧
      (let booked := (stateWith .rejected).applyEvent plainEnv halfFill
       let replayed := booked.applyExchangeTrade plainEnv halfTrade none
       (booked.orders.get? "a").map Order.filledVolume = some 1 ∧
        replayed.2 = true ∧ cursorOf replayed.1.tradeCursors "BTCUSDT" = 7 ∧
        replayed.1.exposure.netPositions.getD "BTCUSDT" 0 = 0) := by
  refine ⟨stateWith_sound .rejected, ?_, by decide +kernel⟩
  intro hatomic
  have hproceed : (stateWith .rejected).judge halfFillUpdate =
      .proceed "a" (orderIn .rejected) .partiallyFilled := by decide +kernel
  have hclean := clean_of_atomic plainEnv (stateWith_sound .rejected) hatomic halfFillUpdate "a"
    (orderIn .rejected) .partiallyFilled normalize_halfFill hproceed (by decide +kernel)
  have hmoves := hclean.moves
  revert hmoves
  decide +kernel

end OmsState

end ChronosHFT.Oms
