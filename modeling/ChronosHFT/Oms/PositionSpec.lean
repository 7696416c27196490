import ChronosHFT.Oms.Attribution
import ChronosHFT.Oms.FillAtomicity

/-!
# What moves a position

Two things move the position of a symbol: an order update with a fill that no account
update has covered (`applyEvent_netPosition`), and an account update that is not older
than what is known (`onExchangeAccountUpdate_settled`).  Both decisions compare the time
of the message with a clock of the symbol, so the clocks are part of the specification:
`applyEvent_clocks` and `applyAccountPosition_effect` bound how far a message advances
them.
-/

namespace ChronosHFT.Oms

open List

namespace OmsState

/-! ## The position clocks -/

/-- What a step may do to the clocks of the positions: the account's stays, the other one
advances to at most `time`. -/
structure ClocksWithin (time : ℚ) (s s' : OmsState) : Prop where
  exchange : s'.exchangePositionEventTime = s.exchangePositionEventTime
  state : ∀ symbol, s'.positionStateEventTime.getD symbol 0 ≤
    max (s.positionStateEventTime.getD symbol 0) time

namespace ClocksWithin

variable {time : ℚ} {s s' s'' : OmsState}

theorem of_eq (h₁ : s'.exchangePositionEventTime = s.exchangePositionEventTime)
    (h₂ : s'.positionStateEventTime = s.positionStateEventTime) : ClocksWithin time s s' := by
  refine ⟨h₁, fun symbol => ?_⟩
  rw [h₂]
  exact le_max_left _ _

protected theorem refl (s : OmsState) : ClocksWithin time s s := of_eq rfl rfl

protected theorem trans (h₁ : ClocksWithin time s s') (h₂ : ClocksWithin time s' s'') :
    ClocksWithin time s s'' := by
  refine ⟨h₂.exchange.trans h₁.exchange, fun symbol => ?_⟩
  calc s''.positionStateEventTime.getD symbol 0
      ≤ max (s'.positionStateEventTime.getD symbol 0) time := h₂.state symbol
    _ ≤ max (max (s.positionStateEventTime.getD symbol 0) time) time :=
        max_le_max_right time (h₁.state symbol)
    _ = max (s.positionStateEventTime.getD symbol 0) time := by rw [max_assoc, max_self]

end ClocksWithin

section Clocks

variable (time : ℚ) (s : OmsState)

theorem audit_clocks (kind : String) : ClocksWithin time s (s.audit kind) := .of_eq rfl rfl

theorem queueReconcile_clocks (reason oid : String) :
    ClocksWithin time s (s.queueReconcile reason oid) := by
  unfold queueReconcile
  split
  · exact .refl s
  simp only
  split
  · split <;> exact .of_eq rfl rfl
  · split <;> exact .of_eq rfl rfl

theorem freezeUnlessSettling_clocks (reason : String) :
    ClocksWithin time s (s.freezeUnlessSettling reason) := by
  unfold freezeUnlessSettling
  split
  · exact .refl s
  · exact .of_eq rfl rfl

theorem noteMismatch_clocks (order : Order) (u : ExchangeOrderUpdate) :
    ClocksWithin time s (s.noteMismatch order u) := by
  unfold noteMismatch
  split
  · exact .of_eq rfl rfl
  · exact .refl s

theorem quarantineInvalid_clocks (clientOid exchangeOid symbol detail : String) :
    ClocksWithin time s (s.quarantineInvalid clientOid exchangeOid symbol detail) :=
  ((audit_clocks time s _).trans (freezeUnlessSettling_clocks time _ _)).trans
    (queueReconcile_clocks time _ _ _)

theorem quarantineGap_clocks (order : Order) (label : String) :
    ClocksWithin time s (s.quarantineGap order label) :=
  ((audit_clocks time s _).trans (freezeUnlessSettling_clocks time _ _)).trans
    (queueReconcile_clocks time _ _ _)

theorem rememberTerminatedOid_clocks (oid : String) :
    ClocksWithin time s (s.rememberTerminatedOid oid) := by
  unfold rememberTerminatedOid
  split
  · exact .refl s
  · split <;> exact .of_eq rfl rfl

theorem writeTombstone_clocks (order : Order) : ClocksWithin time s (s.writeTombstone order) :=
  (rememberTerminatedOid_clocks time s _).trans (rememberTerminatedOid_clocks time _ _)

theorem bookBalance_clocks (u : ExchangeOrderUpdate) (pnl fee : ℚ) :
    ClocksWithin time s (s.bookBalance u pnl fee) := by
  unfold bookBalance
  split
  · exact .of_eq rfl rfl
  · exact .of_eq rfl rfl

end Clocks

variable {s s' : OmsState} {u : ExchangeOrderUpdate} {raw : RawOrderUpdate}
  {other symbol : String} {eventTime : ℚ} {payload : PositionPayload}
  {entries : List (String × PositionPayload)}

/-- A fill that is added moves the clock of its symbol to its own time. -/
theorem bookPosition_clocks {t : OmsState} {order : Order}
    {delta pnl : ℚ} (h : s.bookPosition order u delta = .ok (t, pnl)) :
    ClocksWithin u.updateTime s t := by
  unfold bookPosition at h
  simp only at h
  split at h
  · cases h
    exact .of_eq rfl rfl
  cases hfill : s.exposure.onFill order.intent.symbol order.intent.side delta u.filledPrice with
  | error err =>
    rw [hfill] at h
    cases h
  | ok booked =>
    rw [hfill] at h
    cases h
    refine ⟨rfl, fun symbol => ?_⟩
    simp only
    split
    · rw [Dict.getD_set]
      split
      · next heq => rw [heq]
      · exact le_max_left _ _
    · exact le_max_left _ _

theorem bookFill_clocks (env : EventEnv) (s : OmsState) (key : String) (order : Order)
    (u : ExchangeOrderUpdate) :
    ClocksWithin u.updateTime s (s.bookFill env key order u).1 := by
  unfold bookFill
  simp only
  split
  · exact .of_eq rfl rfl
  split
  · exact .of_eq rfl rfl
  split
  · exact .of_eq rfl rfl
  next positioned pnl hposition =>
    have hbooked := bookPosition_clocks hposition
    have hreconciled : ClocksWithin u.updateTime s
        (positioned.reconcileStrategy order.intent.symbol) := ⟨hbooked.exchange, hbooked.state⟩
    exact hreconciled.trans (bookBalance_clocks u.updateTime _ u pnl _)

theorem applyFillUpdate_clocks (env : EventEnv) (s : OmsState) (key : String) (order : Order)
    (u : ExchangeOrderUpdate) (complete : Bool) :
    ClocksWithin u.updateTime s (s.applyFillUpdate env key order u complete).1 := by
  unfold applyFillUpdate
  have hbooked : ClocksWithin u.updateTime s
      (if qtyEps < incomingDelta order u then s.bookFill env key order u
        else (s.putOrder key (order.noteExchangeUpdate env.now
          { exchangeStatus := u.status, updateTime := u.updateTime, seq := u.seq,
            exchangeOid := u.exchangeOid }), .ok false)).1 := by
    split
    · exact bookFill_clocks env s key order u
    · exact .of_eq rfl rfl
  generalize (if qtyEps < incomingDelta order u then s.bookFill env key order u
    else (s.putOrder key (order.noteExchangeUpdate env.now
      { exchangeStatus := u.status, updateTime := u.updateTime, seq := u.seq,
        exchangeOid := u.exchangeOid }), .ok false)) = report at hbooked ⊢
  obtain ⟨booked, result⟩ := report
  simp only
  split
  · exact hbooked
  split
  · split
    · exact hbooked
    split
    · exact hbooked.trans (.of_eq rfl rfl)
    next after moved _ =>
      have hmarked : ClocksWithin u.updateTime s (booked.putOrder key after) :=
        ⟨hbooked.exchange, hbooked.state⟩
      exact hmarked.trans (writeTombstone_clocks _ _ _)
  · exact hbooked

theorem applyMove_clocks (time : ℚ) (s : OmsState) (key : String)
    (moved : Order × Except OrderError Bool) {after : OmsState → OmsState}
    (hafter : ∀ t, ClocksWithin time t (after t)) :
    ClocksWithin time s (s.applyMove key moved after).1 := by
  obtain ⟨order, result⟩ := moved
  cases result with
  | error err => exact .of_eq rfl rfl
  | ok changed =>
    have hput : ClocksWithin time s (s.putOrder key order) := .of_eq rfl rfl
    exact hput.trans (hafter _)

theorem applyStatus_clocks (env : EventEnv) (s : OmsState) (key : String) (order : Order)
    (u : ExchangeOrderUpdate) (status : UpdateStatus) :
    ClocksWithin u.updateTime s (s.applyStatus env key order u status).1 := by
  cases status with
  | new =>
    refine applyMove_clocks u.updateTime s key _ ?_
    intro t
    split
    · exact .refl t
    · exact .of_eq rfl rfl
  | canceled => exact applyMove_clocks _ s key _ fun t => writeTombstone_clocks _ t order
  | expired => exact applyMove_clocks _ s key _ fun t => writeTombstone_clocks _ t order
  | rejected => exact applyMove_clocks _ s key _ fun t => writeTombstone_clocks _ t order
  | partiallyFilled => exact applyFillUpdate_clocks env s key order u false
  | filled => exact applyFillUpdate_clocks env s key order u true

theorem finishUpdate_clocks (time : ℚ) (previous : Order) (key : String)
    (report : OmsState × Except BookingError Bool) :
    ClocksWithin time report.1 (finishUpdate previous key report) := by
  obtain ⟨s, result⟩ := report
  cases result with
  | error err =>
    exact (audit_clocks time s _).trans (queueReconcile_clocks time _ _ _)
  | ok hadFill =>
    unfold finishUpdate
    simp only
    split
    · exact .of_eq rfl rfl
    · split
      · exact .of_eq rfl rfl
      · exact .of_eq rfl rfl

/-- **An order update** advances the position clocks to its own time at most. -/
theorem applyEvent_clocks (env : EventEnv) (s : OmsState) (hraw : raw.normalize = .ok u) :
    ClocksWithin u.updateTime s (s.applyEvent env raw) := by
  unfold applyEvent
  simp only [hraw]
  cases s.judge u with
  | lateDuplicate oid => exact .of_eq rfl rfl
  | unknownOrder tombstoned =>
    have hnoted : ClocksWithin u.updateTime s
        (if tombstoned = "" then s else s.audit "late_tombstone_truth_conflict") := by
      split
      · exact .refl s
      · exact .of_eq rfl rfl
    exact hnoted.trans ((audit_clocks _ _ _).trans (queueReconcile_clocks _ _ _ _))
  | staleSeq => exact .of_eq rfl rfl
  | staleTime => exact .of_eq rfl rfl
  | unsupportedStatus label =>
    exact (audit_clocks _ _ _).trans (quarantineInvalid_clocks _ _ _ _ _ _)
  | exchangeOidMismatch order =>
    exact (audit_clocks _ _ _).trans (queueReconcile_clocks _ _ _ _)
  | cumFillRegression key order =>
    exact (noteMismatch_clocks _ s order u).trans
      ((audit_clocks _ _ _).trans (queueReconcile_clocks _ _ _ _))
  | executionGap key order delta detail =>
    exact (noteMismatch_clocks _ s order u).trans (quarantineGap_clocks _ _ _ _)
  | duplicateExecution key order =>
    exact (noteMismatch_clocks _ s order u).trans (audit_clocks _ _ _)
  | proceed key order status =>
    exact ((noteMismatch_clocks _ s order u).trans
      (applyStatus_clocks env _ key order u status)).trans (finishUpdate_clocks _ order key _)

/-! ## The position after an order update -/

/-- The position of a symbol as the OMS has it. -/
def netPosition (s : OmsState) (symbol : String) : ℚ := s.exposure.netPositions.getD symbol 0

/-- A fill changes the position of its own symbol, unless an account update has covered
it. -/
theorem fillLedgers_netPositions (e : Exposure) (intent : OrderIntent) {qty price : ℚ}
    (synced : Bool) (hqty : 0 < qty) (hprice : 0 < price) (symbol : String) :
    (e.fillLedgers intent qty price synced).netPositions.getD symbol 0 =
      if synced = false ∧ symbol = intent.symbol then
        Ledger.snap (e.netPositions.getD intent.symbol 0 + intent.side.signed qty)
      else e.netPositions.getD symbol 0 := by
  obtain ⟨attributed, pnl, hattributed⟩ :=
    onStrategyFill_ok e intent.strategyId intent.symbol intent.side hqty hprice
  have hsame := Exposure.onStrategyFill_netPositions hattributed
  unfold Exposure.fillLedgers
  simp only [hattributed]
  cases synced with
  | true =>
    show attributed.netPositions.getD symbol 0 = _
    rw [hsame, if_neg (by rintro ⟨h, -⟩; cases h)]
  | false =>
    obtain ⟨booked, pnl', hbooked⟩ :=
      onFill_ok attributed intent.symbol intent.side hqty hprice
    simp only [hbooked]
    show booked.netPositions.getD symbol 0 = _
    rw [Exposure.onFill_netPositions hbooked symbol, hsame]
    simp

/-- **An order update** leaves the position of a symbol, or adds a fill of an order for
this symbol that no account update has covered. -/
theorem applyEvent_netPosition (env : EventEnv) (s : OmsState) (hraw : raw.normalize = .ok u)
    (symbol : String) :
    (s.applyEvent env raw).netPosition symbol = s.netPosition symbol ∨
      ∃ key order, s.orders.get? key = some order ∧ order.intent.symbol = symbol ∧
        s.positionAlreadySynced symbol u = false ∧
        (s.applyEvent env raw).netPosition symbol =
          Ledger.snap (s.netPosition symbol +
            order.intent.side.signed (incomingDelta order u)) := by
  rcases applyEvent_cases env s raw with hsame |
    ⟨u', key, order, status, hraw', hjudge, happlied⟩
  · refine Or.inl ?_
    unfold netPosition
    rw [hsame.exposure]
  · rw [hraw] at hraw'
    cases hraw'
    have hjudged := judge_proceed hjudge
    have hfilled : (s.applyEvent env raw).netPosition symbol =
        (filledExposure env s order u).netPositions.getD symbol 0 := by
      unfold netPosition
      rw [happlied.exposure]
      split
      · rw [(Exposure.updateOpenOrders_samePositions _ _).netPositions]
      · rfl
    rw [hfilled]
    unfold filledExposure
    split
    · by_cases hdelta : qtyEps < incomingDelta order u
      · rw [if_pos hdelta]
        obtain ⟨hfill, -, -, hprice, -⟩ := gapDetail_none (hjudged.gap hdelta)
        have hqty : 0 < incomingDelta order u := qtyEps_pos.trans hdelta
        rw [fillLedgers_netPositions s.exposure order.intent _ hqty hprice symbol]
        split
        · next hbooked =>
          obtain ⟨hfresh, rfl⟩ := hbooked
          exact Or.inr ⟨key, order, findOrder_get? hjudged.found, rfl, hfresh, rfl⟩
        · exact Or.inl rfl
      · rw [if_neg hdelta]
        exact Or.inl rfl
    · exact Or.inl rfl

/-- A fill that the account has covered does not move the position. -/
theorem applyEvent_covered (env : EventEnv) (s : OmsState) (hraw : raw.normalize = .ok u)
    (htraded : 0 < u.updateTime)
    (hcovered : u.updateTime ≤ s.exchangePositionEventTime.getD symbol 0) :
    (s.applyEvent env raw).netPosition symbol = s.netPosition symbol := by
  rcases applyEvent_netPosition env s hraw symbol with hsame | ⟨key, order, -, -, hfresh, -⟩
  · exact hsame
  have hsynced : s.positionAlreadySynced symbol u = true := by
    unfold positionAlreadySynced
    refine decide_eq_true ⟨htraded.ne', hcovered.trans ?_⟩
    exact le_add_of_nonneg_right fillEps_pos.le
  rw [hsynced] at hfresh
  cases hfresh

/-! ## The position after an account update -/

/-- Two states that know the same about a symbol. -/
structure SameFor (symbol : String) (s s' : OmsState) : Prop where
  netPosition : s'.netPosition symbol = s.netPosition symbol
  state : s'.positionStateEventTime.getD symbol 0 = s.positionStateEventTime.getD symbol 0
  exchange : s'.exchangePositionEventTime.getD symbol 0 =
    s.exchangePositionEventTime.getD symbol 0

protected theorem SameFor.refl (symbol : String) (s : OmsState) : SameFor symbol s s :=
  ⟨rfl, rfl, rfl⟩

protected theorem SameFor.trans {s'' : OmsState}
    (h₁ : SameFor symbol s s') (h₂ : SameFor symbol s' s'') : SameFor symbol s s'' :=
  ⟨h₂.netPosition.trans h₁.netPosition, h₂.state.trans h₁.state, h₂.exchange.trans h₁.exchange⟩

/-- What is known about a symbol after an account update that was not ignored. -/
structure Settled (symbol : String) (volume eventTime : ℚ) (s : OmsState) : Prop where
  position : |s.netPosition symbol - volume| ≤ qtyEps
  covered : eventTime ≤ s.exchangePositionEventTime.getD symbol 0
  within : s.positionStateEventTime.getD symbol 0 ≤ eventTime

theorem Settled.of_sameFor {volume : ℚ}
    (h : Settled symbol volume eventTime s) (hsame : SameFor symbol s s') :
    Settled symbol volume eventTime s' := by
  refine ⟨?_, ?_, ?_⟩
  · rw [hsame.netPosition]
    exact h.position
  · rw [hsame.exchange]
    exact h.covered
  · rw [hsame.state]
    exact h.within

/-- The venue names the entry price of a position. -/
def Priced (payload : PositionPayload) : Prop :=
  qtyEps < |payload.volume| → 0 < payload.entryPrice

theorem noteAccountTime_sameFor (s : OmsState) (h : symbol ≠ other)
    (eventTime : ℚ) : SameFor symbol s (s.noteAccountTime other eventTime) := by
  unfold noteAccountTime
  split
  · exact .refl symbol s
  · exact ⟨rfl, Dict.getD_set_of_ne _ _ _ h, Dict.getD_set_of_ne _ _ _ h⟩

theorem noteAccountTime_clocks (s : OmsState) (symbol : String) (hevent : eventTime ≠ 0) :
    (s.noteAccountTime symbol eventTime).exchangePositionEventTime.getD symbol 0 =
        max (s.exchangePositionEventTime.getD symbol 0) eventTime ∧
      (s.noteAccountTime symbol eventTime).positionStateEventTime.getD symbol 0 =
        max (s.positionStateEventTime.getD symbol 0) eventTime := by
  unfold noteAccountTime
  rw [if_neg hevent]
  exact ⟨Dict.getD_set_self _ _ _ _, Dict.getD_set_self _ _ _ _⟩

/-- A checked position that names its price can be taken over. -/
theorem forceSync_ok
    (hread : ReadPosition (symbol, payload)) (hpriced : Priced payload) (e : Exposure) :
    ∃ synced, e.forceSync symbol payload.volume payload.entryPrice = .ok synced ∧
      synced.netPositions = e.netPositions.set symbol payload.volume := by
  have hcanonical : Text.strip symbol.toUpper = symbol := hread.canonical
  unfold Exposure.forceSync
  simp only [hcanonical]
  rw [if_neg]
  · exact ⟨_, rfl, rfl⟩
  rintro (hempty | hprice | ⟨hvolume, hprice⟩)
  · exact hread.named hempty
  · exact absurd hread.price (not_le.mpr hprice)
  · exact absurd (hpriced hvolume) (not_lt.mpr hprice)

/-- The position of another symbol is of no concern. -/
theorem applyAccountPosition_sameFor
    (hother : symbol ≠ other) (hread : ReadPosition (other, payload)) (hpriced : Priced payload)
    (s : OmsState) (eventTime : ℚ) :
    ∃ next, s.applyAccountPosition eventTime other payload = .ok next ∧
      SameFor symbol s next := by
  unfold applyAccountPosition
  split
  · exact ⟨_, rfl, rfl, rfl, rfl⟩
  split
  · obtain ⟨synced, hsync, hpositions⟩ := forceSync_ok hread hpriced s.exposure
    simp only [hsync]
    refine ⟨_, rfl, SameFor.trans ?_ (noteAccountTime_sameFor _ hother eventTime)⟩
    refine ⟨?_, rfl, rfl⟩
    show synced.netPositions.getD symbol 0 = _
    rw [hpositions, Dict.getD_set_of_ne _ _ _ hother]
    rfl
  · exact ⟨_, rfl, noteAccountTime_sameFor s hother eventTime⟩

/-- **The position of an account update that is not ignored is the position.** -/
theorem applyAccountPosition_settled
    (hread : ReadPosition (symbol, payload)) (hpriced : Priced payload) (hevent : 0 < eventTime)
    (hfresh : s.positionStateEventTime.getD symbol 0 ≤ eventTime) :
    ∃ next, s.applyAccountPosition eventTime symbol payload = .ok next ∧
      Settled symbol payload.volume eventTime next := by
  have hnotStale : s.stalePosition symbol eventTime = false := by
    unfold stalePosition
    refine decide_eq_false ?_
    rintro ⟨-, -, hstale⟩
    linarith [fillEps_pos]
  have hclocks : ∀ t : OmsState, t.exchangePositionEventTime = s.exchangePositionEventTime →
      t.positionStateEventTime = s.positionStateEventTime →
      |t.netPosition symbol - payload.volume| ≤ qtyEps →
      Settled symbol payload.volume eventTime (t.noteAccountTime symbol eventTime) := by
    intro t hexchange hstate hposition
    obtain ⟨hexchange', hstate'⟩ := noteAccountTime_clocks t symbol hevent.ne'
    refine ⟨?_, ?_, ?_⟩
    · unfold netPosition
      rw [(noteAccountTime_sameOrders t symbol eventTime).2]
      exact hposition
    · rw [hexchange']
      exact le_max_right _ _
    · rw [hstate', hstate]
      exact max_le hfresh le_rfl
  unfold applyAccountPosition
  rw [hnotStale]
  simp only [Bool.false_eq_true, if_false]
  by_cases hdiffers : s.differs symbol payload = true
  · rw [if_pos hdiffers]
    obtain ⟨synced, hsync, hpositions⟩ := forceSync_ok hread hpriced s.exposure
    simp only [hsync]
    refine ⟨_, rfl, hclocks _ rfl rfl ?_⟩
    show |synced.netPositions.getD symbol 0 - payload.volume| ≤ qtyEps
    rw [hpositions, Dict.getD_set_self, sub_self, abs_zero]
    exact qtyEps_pos.le
  · rw [if_neg hdiffers]
    refine ⟨_, rfl, hclocks s rfl rfl ?_⟩
    unfold differs at hdiffers
    exact not_lt.mp (fun hlt => hdiffers (decide_eq_true hlt))

/-- The positions of an update that does not name the symbol. -/
theorem applyAccountPositions_sameFor (env : AccountEnv) (eventTime : ℚ)
    (habsent : symbol ∉ entries.map Prod.fst)
    (hread : ∀ entry ∈ entries, ReadPosition entry) (hpriced : ∀ entry ∈ entries, Priced entry.2)
    (s : OmsState) :
    ∃ t, applyAccountPositions env eventTime s entries = (t, .ok ()) ∧ SameFor symbol s t := by
  induction entries generalizing s with
  | nil => exact ⟨s, rfl, .refl symbol s⟩
  | cons entry rest ih =>
    obtain ⟨other, payload⟩ := entry
    simp only [map_cons, mem_cons, not_or] at habsent
    have hhead : ReadPosition (other, payload) := hread _ mem_cons_self
    have hheadPriced : Priced payload := hpriced (other, payload) mem_cons_self
    have hrest := ih habsent.2 (fun entry hmem => hread entry (mem_cons_of_mem _ hmem))
      (fun entry hmem => hpriced entry (mem_cons_of_mem _ hmem))
    rw [applyAccountPositions]
    split
    · obtain ⟨next, hnext, hsame⟩ := applyAccountPosition_sameFor habsent.1 hhead
        hheadPriced s eventTime
      simp only [hnext]
      obtain ⟨t, ht, hsame'⟩ := hrest next
      exact ⟨t, ht, hsame.trans hsame'⟩
    · exact hrest s

/-- The positions of an update that names the symbol once. -/
theorem applyAccountPositions_settled (env : AccountEnv)
    (hmem : (symbol, payload) ∈ entries) (hnodup : (entries.map Prod.fst).Nodup)
    (hread : ∀ entry ∈ entries, ReadPosition entry) (hpriced : ∀ entry ∈ entries, Priced entry.2)
    (htracked : tracked env symbol = true) (hevent : 0 < eventTime) (s : OmsState)
    (hfresh : s.positionStateEventTime.getD symbol 0 ≤ eventTime) :
    ∃ t, applyAccountPositions env eventTime s entries = (t, .ok ()) ∧
      Settled symbol payload.volume eventTime t := by
  induction entries generalizing s with
  | nil => cases hmem
  | cons entry rest ih =>
    obtain ⟨other, stated⟩ := entry
    obtain ⟨habsent, hnodup⟩ := nodup_cons.mp hnodup
    have hhead : ReadPosition (other, stated) := hread _ mem_cons_self
    have hheadPriced : Priced stated := hpriced (other, stated) mem_cons_self
    have hread' := fun entry hmem => hread entry (mem_cons_of_mem _ hmem)
    have hpriced' := fun entry hmem => hpriced entry (mem_cons_of_mem _ hmem)
    rw [applyAccountPositions]
    rcases mem_cons.mp hmem with heq | hlater
    · -- The symbol's own entry settles it; the entries after it are of other symbols.
      cases heq
      rw [if_pos htracked]
      obtain ⟨next, hnext, hsettled⟩ := applyAccountPosition_settled hhead
        hheadPriced hevent hfresh
      simp only [hnext]
      obtain ⟨t, ht, hsame⟩ :=
        applyAccountPositions_sameFor env eventTime habsent hread' hpriced' next
      exact ⟨t, ht, hsettled.of_sameFor hsame⟩
    · have hother : symbol ≠ other := by
        rintro rfl
        exact habsent (mem_map.mpr ⟨_, hlater, rfl⟩)
      split
      · obtain ⟨next, hnext, hsame⟩ := applyAccountPosition_sameFor hother hhead
          hheadPriced s eventTime
        simp only [hnext]
        exact ih hlater hnodup hread' hpriced' next (by rw [hsame.state]; exact hfresh)
      · exact ih hlater hnodup hread' hpriced' s hfresh

/-- Two states with the same orders, ledgers and position clocks. -/
structure SameTruth (s s' : OmsState) : Prop where
  orders : s'.orders = s.orders
  exposure : s'.exposure = s.exposure
  state : s'.positionStateEventTime = s.positionStateEventTime
  exchange : s'.exchangePositionEventTime = s.exchangePositionEventTime

theorem SameTruth.sameFor (h : SameTruth s s') (symbol : String) : SameFor symbol s s' := by
  refine ⟨?_, ?_, ?_⟩
  · unfold netPosition
    rw [h.exposure]
  · rw [h.state]
  · rw [h.exchange]

theorem applyAccountBalance_sameTruth (env : AccountEnv) (s : OmsState)
    (update : AccountUpdate) :
    SameTruth s (s.applyAccountBalance env update) := by
  unfold applyAccountBalance
  split
  · exact ⟨rfl, rfl, rfl, rfl⟩
  split
  · exact ⟨rfl, rfl, rfl, rfl⟩
  · exact ⟨rfl, rfl, rfl, rfl⟩

/-- **An account update** keeps what each of its positions keeps. -/
theorem onExchangeAccountUpdate_preserves (env : AccountEnv) {raw : RawAccountUpdate}
    {update : AccountUpdate} (hraw : raw.normalize = .ok update) {I : OmsState → Prop}
    (hframe : ∀ s t, SameTruth s t → I s → I t)
    (hposition : ∀ entry ∈ update.positions.items, ∀ s next, I s →
      s.applyAccountPosition update.eventTime entry.1 entry.2 = .ok next →
      I next) (hI : I s) : I (s.onExchangeAccountUpdate env raw) := by
  have hpositions : ∀ (entries : List (String × PositionPayload)) (t : OmsState),
      (∀ entry ∈ entries, entry ∈ update.positions.items) → I t →
      I (applyAccountPositions env update.eventTime t entries).1 := by
    intro entries
    induction entries with
    | nil => exact fun t _ ht => ht
    | cons entry rest ih =>
      intro t hmem ht
      have hrest := fun t' => ih t' fun entry hentry => hmem entry (mem_cons_of_mem _ hentry)
      rw [applyAccountPositions]
      split
      · cases happly : t.applyAccountPosition update.eventTime entry.1 entry.2 with
        | error err => exact ht
        | ok next =>
          exact hrest next (hposition entry (hmem entry mem_cons_self) t next ht happly)
      · exact hrest t ht
  have hpositioned := hpositions update.positions.items s (fun _ hmem => hmem) hI
  unfold onExchangeAccountUpdate
  simp only [hraw]
  generalize applyAccountPositions env update.eventTime s update.positions.items = result
    at hpositioned ⊢
  obtain ⟨positioned, outcome⟩ := result
  cases outcome with
  | error err => exact hpositioned
  | ok finished =>
    have hbalanced := hframe _ _ (applyAccountBalance_sameTruth env positioned update)
      hpositioned
    simp only
    split
    · exact hbalanced
    · exact hframe (positioned.applyAccountBalance env update) _ ⟨rfl, rfl, rfl, rfl⟩ hbalanced

/-- What one position of an account update does to its own symbol and to the others. -/
theorem applyAccountPosition_effect {next : OmsState} (hread : ReadPosition (other, payload))
    (h : s.applyAccountPosition eventTime other payload = .ok next) (symbol : String) :
    next.positionStateEventTime.getD symbol 0 ≤
        max (s.positionStateEventTime.getD symbol 0) eventTime ∧
      (next.netPosition symbol = s.netPosition symbol ∨
        (symbol = other ∧ next.netPosition symbol = payload.volume)) := by
  have hclock : ∀ t : OmsState, t.positionStateEventTime = s.positionStateEventTime →
      (t.noteAccountTime other eventTime).positionStateEventTime.getD symbol 0 ≤
        max (s.positionStateEventTime.getD symbol 0) eventTime := by
    intro t hstate
    unfold noteAccountTime
    split
    · rw [hstate]
      exact le_max_left _ _
    show (t.positionStateEventTime.set other _).getD symbol 0 ≤ _
    rw [hstate, Dict.getD_set]
    split
    · next heq => rw [heq]
    · exact le_max_left _ _
  unfold applyAccountPosition at h
  split at h
  · cases h
    exact ⟨le_max_left _ _, Or.inl rfl⟩
  split at h
  · cases hsync : s.exposure.forceSync other payload.volume payload.entryPrice with
    | error err =>
      rw [hsync] at h
      cases h
    | ok synced =>
      rw [hsync] at h
      cases h
      have hcanonical : Text.strip other.toUpper = other := hread.canonical
      refine ⟨hclock _ rfl, ?_⟩
      unfold netPosition
      rw [(noteAccountTime_sameOrders _ other eventTime).2]
      show synced.netPositions.getD symbol 0 = _ ∨ (_ ∧ synced.netPositions.getD symbol 0 = _)
      unfold Exposure.forceSync at hsync
      simp only [hcanonical] at hsync
      split at hsync
      · cases hsync
      cases hsync
      simp only [Dict.getD_set]
      by_cases heq : symbol = other
      · exact Or.inr ⟨heq, if_pos heq⟩
      · exact Or.inl (if_neg heq)
  · cases h
    refine ⟨hclock s rfl, Or.inl ?_⟩
    unfold netPosition
    rw [(noteAccountTime_sameOrders s other eventTime).2]

/-- **An account update that is not older than what is known** settles a symbol it
names. -/
theorem onExchangeAccountUpdate_settled (env : AccountEnv) {raw : RawAccountUpdate}
    {update : AccountUpdate} (hraw : raw.normalize = .ok update)
    (hstates : update.positions.get? symbol = some payload)
    (hpriced : ∀ entry ∈ update.positions.items, Priced entry.2)
    (htracked : tracked env symbol = true) (hevent : 0 < update.eventTime)
    (hfresh : s.positionStateEventTime.getD symbol 0 ≤ update.eventTime) :
    Settled symbol payload.volume update.eventTime (s.onExchangeAccountUpdate env raw) := by
  obtain ⟨positioned, hpositioned, hsettled⟩ := applyAccountPositions_settled env
    (Dict.get?_eq_some_iff.mp hstates) update.positions.nodup (normalize_positions hraw) hpriced
    htracked hevent s hfresh
  have hbalanced := hsettled.of_sameFor
    ((applyAccountBalance_sameTruth env positioned update).sameFor symbol)
  unfold onExchangeAccountUpdate
  simp only [hraw, hpositioned]
  split
  · exact hbalanced
  · exact hbalanced.of_sameFor ⟨rfl, rfl, rfl⟩

end OmsState

end ChronosHFT.Oms
