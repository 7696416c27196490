import ChronosHFT.Oms.EngineSpec
import ChronosHFT.Oms.PositionSpec

/-!
# Two streams, one position

A fill reaches the OMS twice: as an order update, which adds it to the position, and
inside an account update, which states the position after it.  Nothing orders the two
streams against each other, so a fill that an account update has already covered must
not be added again, and one that no update has covered must not be left out.

The decision rests on two clocks per symbol.  `exchangePositionEventTime` is the time of
the newest account update; an order update that is not younger is covered.
`positionStateEventTime` also counts the fills that were added; an account update that is
older is ignored.

**The last account update settles the matter.**  When the account updates come in the
order of their times, nothing the OMS has seen is younger than the last of them, so it is
never ignored and leaves the position it states; every order update that arrives after it
is covered by it.  What happened before plays no role.
-/

namespace ChronosHFT.Oms

open List

/-! ## Interleaved streams -/

/-- A fill as the venue reports it, once in each stream: the order update carries its
trade time, the account update the position after it. -/
structure ReportedFill (symbol : String) where
  orderEnv : EventEnv
  order : RawOrderUpdate
  trade : ExchangeOrderUpdate
  order_reads : order.normalize = .ok trade
  accountEnv : AccountEnv
  account : RawAccountUpdate
  update : AccountUpdate
  account_reads : account.normalize = .ok update
  /-- The position after the fill. -/
  position : PositionPayload
  states : update.positions.get? symbol = some position
  priced : ∀ entry ∈ update.positions.items, OmsState.Priced entry.2
  tracked : OmsState.tracked accountEnv symbol = true
  traded : 0 < trade.updateTime
  after_trade : trade.updateTime ≤ update.eventTime

namespace ReportedFill

variable {symbol : String}

/-- What arrives: the order update of a fill or its account update. -/
abbrev Message (symbol : String) := ReportedFill symbol ⊕ ReportedFill symbol

/-- The event a message is. -/
def event : Message symbol → OmsEvent
  | .inl fill => .orderUpdate fill.orderEnv fill.order
  | .inr fill => .account fill.accountEnv fill.account

/-- Each of the two streams delivers the fills in their order. -/
structure Interleaves (fills : List (ReportedFill symbol)) (messages : List (Message symbol)) :
    Prop where
  orderStream : messages.filterMap Sum.getLeft? = fills
  accountStream : messages.filterMap Sum.getRight? = fills

/-- The transaction times do not decrease. -/
def TradesOrdered (fills : List (ReportedFill symbol)) : Prop :=
  fills.Pairwise fun a b => a.trade.updateTime ≤ b.trade.updateTime

/-- The event times of the account updates do not decrease. -/
def UpdatesOrdered (fills : List (ReportedFill symbol)) : Prop :=
  fills.Pairwise fun a b => a.update.eventTime ≤ b.update.eventTime

/-- The time a message carries. -/
def time : Message symbol → ℚ
  | .inl fill => fill.trade.updateTime
  | .inr fill => fill.update.eventTime

/-- The last account update cuts an interleaving in two: before it come messages that are
no younger, after it only order updates. -/
theorem Interleaves.cut {earlier : List (ReportedFill symbol)} {last : ReportedFill symbol}
    {messages : List (Message symbol)} (h : Interleaves (earlier ++ [last]) messages)
    (htrades : TradesOrdered (earlier ++ [last]))
    (hupdates : UpdatesOrdered (earlier ++ [last])) :
    ∃ before after, messages = before ++ .inr last :: after ∧
      (∀ message ∈ before, time message ≤ last.update.eventTime) ∧
      ∀ message ∈ after, ∃ fill, message = .inl fill ∧
        fill.trade.updateTime ≤ last.update.eventTime := by
  have htrade : ∀ fill, .inl fill ∈ messages →
      fill.trade.updateTime ≤ last.update.eventTime := by
    intro fill hmem
    have hfill : fill ∈ earlier ++ [last] := by
      rw [← h.orderStream]
      exact mem_filterMap.mpr ⟨_, hmem, rfl⟩
    rcases mem_append.mp hfill with hearlier | hlast
    · have hordered := (pairwise_append.mp htrades).2.2 fill hearlier last
        (mem_singleton_self _)
      exact hordered.trans last.after_trade
    · rw [mem_singleton.mp hlast]
      exact last.after_trade
  obtain ⟨first, rest, rfl, hfirst, hrest⟩ := filterMap_eq_append_iff.mp h.accountStream
  obtain ⟨skipped, message, after, rfl, hskipped, hlast, hafter⟩ :=
    filterMap_eq_cons_iff.mp hrest
  cases message with
  | inl fill => cases hlast
  | inr fill =>
    cases hlast
    refine ⟨first ++ skipped, after, by rw [append_assoc], ?_, ?_⟩
    · intro message hmessage
      cases message with
      | inl fill =>
        refine htrade fill ?_
        rw [← append_assoc]
        exact mem_append_left _ hmessage
      | inr fill =>
        rcases mem_append.mp hmessage with hmem | hmem
        · have hearlier : fill ∈ earlier := by
            rw [← hfirst]
            exact mem_filterMap.mpr ⟨_, hmem, rfl⟩
          exact (pairwise_append.mp hupdates).2.2 fill hearlier last
            (mem_singleton_self _)
        · cases hskipped _ hmem
    · intro message hmessage
      cases message with
      | inl fill =>
        refine ⟨fill, rfl, htrade fill ?_⟩
        exact mem_append_right _
          (mem_append_right _ (mem_cons_of_mem _ hmessage))
      | inr fill => cases filterMap_eq_nil_iff.mp hafter _ hmessage

/-- The venue's position after the fills. -/
def finalPosition (start : ℚ) (fills : List (ReportedFill symbol)) : ℚ :=
  (fills.getLast?.map fun fill => fill.position.volume).getD start

end ReportedFill

namespace OmsState

open ReportedFill

variable {symbol : String}

/-- A message advances the clock to the event time of its account update at most. -/
theorem step_within {time : ℚ} {s t : OmsState} {message : Message symbol}
    (hstate : s.positionStateEventTime.getD symbol 0 ≤ time)
    (htime : ReportedFill.time message ≤ time) (hstep : s.step (event message) = some t) :
    t.positionStateEventTime.getD symbol 0 ≤ time := by
  cases message with
  | inl fill =>
    cases hstep
    calc (s.applyEvent fill.orderEnv fill.order).positionStateEventTime.getD symbol 0
        ≤ max (s.positionStateEventTime.getD symbol 0) fill.trade.updateTime :=
          (applyEvent_clocks fill.orderEnv s fill.order_reads).state symbol
      _ ≤ time := max_le hstate htime
  | inr fill =>
    cases hstep
    refine @onExchangeAccountUpdate_preserves s fill.accountEnv _ _ fill.account_reads
      (fun t => t.positionStateEventTime.getD symbol 0 ≤ time) ?_ ?_ hstate
    · intro a b hsame ha
      simp only [hsame.state]
      exact ha
    · intro entry hmem a next ha happly
      have hread := normalize_positions fill.account_reads entry hmem
      exact (applyAccountPosition_effect hread happly symbol).1.trans (max_le ha htime)

/-- The last account update settles the symbol. -/
theorem step_settles {s t : OmsState} (fill : ReportedFill symbol)
    (hstate : s.positionStateEventTime.getD symbol 0 ≤ fill.update.eventTime)
    (hstep : s.step (event (.inr fill)) = some t) :
    Settled symbol fill.position.volume fill.update.eventTime t := by
  cases hstep
  exact onExchangeAccountUpdate_settled fill.accountEnv fill.account_reads fill.states
    fill.priced
    fill.tracked (fill.traded.trans_le fill.after_trade) hstate

/-- After it, the order updates of the fills before it change nothing. -/
theorem step_settled {volume time : ℚ} {s t : OmsState} {fill : ReportedFill symbol}
    (hsettled : Settled symbol volume time s) (htrade : fill.trade.updateTime ≤ time)
    (hstep : s.step (event (.inl fill)) = some t) : Settled symbol volume time t := by
  cases hstep
  have hclocks := applyEvent_clocks fill.orderEnv s fill.order_reads
  have hcovered := applyEvent_covered fill.orderEnv s fill.order_reads fill.traded
    (htrade.trans hsettled.covered)
  refine ⟨?_, ?_, ?_⟩
  · rw [hcovered]
    exact hsettled.position
  · rw [hclocks.exchange]
    exact hsettled.covered
  · exact (hclocks.state symbol).trans (max_le hsettled.within htrade)

/-- **The run lemma**: whatever the interleaving, the last account update settles the
symbol for good. -/
theorem run_settles {s t : OmsState} {earlier : List (ReportedFill symbol)}
    {last : ReportedFill symbol} {messages : List (Message symbol)}
    (hfresh : s.positionStateEventTime.getD symbol 0 ≤ last.update.eventTime)
    (htrades : TradesOrdered (earlier ++ [last])) (hupdates : UpdatesOrdered (earlier ++ [last]))
    (hmessages : Interleaves (earlier ++ [last]) messages)
    (hexec : Run.exec step s (messages.map event) = some t) :
    Settled symbol last.position.volume last.update.eventTime t := by
  obtain ⟨before, after, rfl, hbefore, hafter⟩ := hmessages.cut htrades hupdates
  rw [map_append, map_cons] at hexec
  obtain ⟨s₁, hs₁, hexec⟩ := Run.exec_append_eq_some.mp hexec
  obtain ⟨s₂, hs₂, hexec⟩ := Run.exec_cons_eq_some.mp hexec
  have hstate : s₁.positionStateEventTime.getD symbol 0 ≤ last.update.eventTime := by
    refine Run.exec_invariant_of_forall
      (P := fun e => ∃ message : Message symbol, e = event message ∧
        ReportedFill.time message ≤ last.update.eventTime)
      (I := fun s => s.positionStateEventTime.getD symbol 0 ≤ last.update.eventTime) ?_
      hfresh ?_ hs₁
    · rintro s e s' hs ⟨message, rfl, htime⟩ hstep
      exact step_within hs htime hstep
    · intro e hmem
      obtain ⟨message, hmessage, rfl⟩ := mem_map.mp hmem
      exact ⟨message, rfl, hbefore message hmessage⟩
  have hsettled := step_settles last hstate hs₂
  refine Run.exec_invariant_of_forall
    (P := fun e => ∃ fill : ReportedFill symbol, e = event (.inl fill) ∧
      fill.trade.updateTime ≤ last.update.eventTime)
    (I := Settled symbol last.position.volume last.update.eventTime) ?_ hsettled ?_ hexec
  · rintro s e s' hs ⟨fill, rfl, htime⟩ hstep
    exact step_settled hs htime hstep
  intro e hmem
  obtain ⟨message, hmessage, rfl⟩ := mem_map.mp hmem
  obtain ⟨fill, rfl, htime⟩ := hafter message hmessage
  exact ⟨fill, rfl, htime⟩

/-! ## Whole lots -/

theorem min_mem_lots {lot x y : ℚ} (hx : x ∈ AddSubgroup.zmultiples lot)
    (hy : y ∈ AddSubgroup.zmultiples lot) : min x y ∈ AddSubgroup.zmultiples lot := by
  rcases min_choice x y with h | h
  · rw [h]
    exact hx
  · rw [h]
    exact hy

theorem remaining_mem_lots {lot : ℚ} {order : Order}
    (hvolume : order.intent.volume ∈ AddSubgroup.zmultiples lot)
    (hfilled : order.filledVolume ∈ AddSubgroup.zmultiples lot) :
    order.remaining ∈ AddSubgroup.zmultiples lot := by
  unfold Order.remaining
  rcases max_choice 0 (order.intent.volume - order.filledVolume) with h | h
  · rw [h]
    exact zero_mem _
  · rw [h]
    exact sub_mem hvolume hfilled

theorem snap_mem_lots {lot x : ℚ} (hx : x ∈ AddSubgroup.zmultiples lot) :
    Ledger.snap x ∈ AddSubgroup.zmultiples lot := by
  unfold Ledger.snap
  split
  · exact zero_mem _
  · exact hx

/-- Two numbers of whole lots that are less than a lot apart are the same. -/
theorem eq_of_mem_lots {lot x y : ℚ} (hx : x ∈ AddSubgroup.zmultiples lot)
    (hy : y ∈ AddSubgroup.zmultiples lot) (hclose : |x - y| < lot) : x = y := by
  obtain ⟨n, hn⟩ := AddSubgroup.mem_zmultiples_iff.mp (sub_mem hx hy)
  have hlot : 0 < lot := (abs_nonneg _).trans_lt hclose
  rw [← hn, zsmul_eq_mul, abs_mul, abs_of_pos hlot] at hclose
  have hcount : |n| < 1 := by
    have hlt : ((|n| : ℤ) : ℚ) * lot < 1 * lot := by
      rw [Int.cast_abs, one_mul]
      exact hclose
    exact_mod_cast lt_of_mul_lt_mul_right hlt hlot.le
  rw [Int.abs_lt_one_iff.mp hcount, zero_smul] at hn
  exact sub_eq_zero.mp hn.symm

/-- What an update does to the filled volume of its order. -/
theorem applyUpdate_filledVolume (order : Order) (now : ℚ) (u : ExchangeOrderUpdate)
    (status : UpdateStatus) :
    (order.applyUpdate now u status).1.filledVolume = order.filledVolume ∨
      (order.applyUpdate now u status).1.filledVolume =
        order.filledVolume + min (incomingDelta order u) order.remaining := by
  have hfilled : (order.applyFill now u).1.filledVolume = order.filledVolume ∨
      (order.applyFill now u).1.filledVolume =
        order.filledVolume + min (incomingDelta order u) order.remaining := by
    unfold Order.applyFill
    split
    · unfold Order.addFill
      split
      · exact Or.inl rfl
      split
      · exact Or.inl rfl
      have hmove := (Order.transition_sameBooks
        (order.bookFill (incomingDelta order u) u.filledPrice) now
        (order.bookFill (incomingDelta order u) u.filledPrice).fillStatus ""
        { exchangeStatus := u.status, updateTime := u.updateTime, seq := u.seq }).filledVolume
      refine Or.inr ?_
      simp only
      split
      · next after moved heq =>
        rw [heq] at hmove
        exact hmove
      · next after err heq =>
        rw [heq] at hmove
        exact hmove
    · exact Or.inl (Order.noteExchangeUpdate_sameBooks order now _).filledVolume
  cases status with
  | new =>
    rw [Order.applyUpdate, Order.withoutFill_fst]
    exact Or.inl (Order.transition_sameBooks order now .new "" _).filledVolume
  | canceled =>
    rw [Order.applyUpdate, Order.withoutFill_fst]
    exact Or.inl (Order.transition_sameBooks order now .cancelled "" _).filledVolume
  | expired =>
    rw [Order.applyUpdate, Order.withoutFill_fst]
    exact Or.inl (Order.transition_sameBooks order now .expired "" _).filledVolume
  | rejected =>
    rw [Order.applyUpdate, Order.withoutFill_fst]
    exact Or.inl (Order.transition_sameBooks order now .rejected "exchange_rejected"
      _).filledVolume
  | partiallyFilled => exact hfilled
  | filled =>
    rw [Order.applyUpdate, (Order.complete_sameBooks now u _).filledVolume]
    exact hfilled

/-- The quantities the OMS holds for a symbol are whole lots. -/
structure InLots (lot : ℚ) (symbol : String) (s : OmsState) : Prop where
  position : s.netPosition symbol ∈ AddSubgroup.zmultiples lot
  orders : ∀ key order, s.orders.get? key = some order → order.intent.symbol = symbol →
    order.intent.volume ∈ AddSubgroup.zmultiples lot ∧
      order.filledVolume ∈ AddSubgroup.zmultiples lot

theorem applyEvent_inLots {lot : ℚ} (env : EventEnv) {s : OmsState} {raw : RawOrderUpdate}
    {u : ExchangeOrderUpdate} (hraw : raw.normalize = .ok u) (h : InLots lot symbol s)
    (hcum : u.cumFilledQty ∈ AddSubgroup.zmultiples lot) :
    InLots lot symbol (s.applyEvent env raw) := by
  have hdelta : ∀ key order, s.orders.get? key = some order → order.intent.symbol = symbol →
      incomingDelta order u ∈ AddSubgroup.zmultiples lot := fun key order hget hsymbol =>
    sub_mem hcum (h.orders key order hget hsymbol).2
  refine ⟨?_, ?_⟩
  · rcases applyEvent_netPosition env s hraw symbol with
      hsame | ⟨key, order, hget, hsymbol, -, hbooked⟩
    · rw [hsame]
      exact h.position
    rw [hbooked]
    refine snap_mem_lots (add_mem h.position ?_)
    cases order.intent.side with
    | buy => exact hdelta key order hget hsymbol
    | sell => exact neg_mem (hdelta key order hget hsymbol)
  · rcases applyEvent_cases env s raw with
      hsame | ⟨u', key, order, status, hraw', hjudge, happlied⟩
    · rw [hsame.orders]
      exact h.orders
    rw [hraw] at hraw'
    cases hraw'
    intro k after hafter hsymbol
    rw [happlied.orders] at hafter
    by_cases hkey : k = key
    · rw [hkey, Dict.get?_set_self] at hafter
      cases hafter
      have hget := findOrder_get? (judge_proceed hjudge).found
      have hidentity := order.applyUpdate_identity env.now u status
      rw [hidentity.intent] at hsymbol ⊢
      obtain ⟨hvolume, hfilled⟩ := h.orders key order hget hsymbol
      refine ⟨hvolume, ?_⟩
      rcases applyUpdate_filledVolume order env.now u status with hsame | hmoved
      · rw [hsame]
        exact hfilled
      · rw [hmoved]
        exact add_mem hfilled (min_mem_lots (hdelta key order hget hsymbol)
          (remaining_mem_lots hvolume hfilled))
    · rw [Dict.get?_set_of_ne _ _ hkey] at hafter
      exact h.orders k after hafter hsymbol

theorem account_inLots {lot : ℚ} {s : OmsState} (fill : ReportedFill symbol)
    (h : InLots lot symbol s) (hposition : fill.position.volume ∈ AddSubgroup.zmultiples lot) :
    InLots lot symbol (s.onExchangeAccountUpdate fill.accountEnv fill.account) := by
  refine onExchangeAccountUpdate_preserves fill.accountEnv fill.account_reads ?_ ?_ h
  · intro a b hsame ha
    refine ⟨?_, ?_⟩
    · rw [(hsame.sameFor symbol).netPosition]
      exact ha.position
    · rw [hsame.orders]
      exact ha.orders
  · intro entry hmem a next ha happly
    have hread := normalize_positions fill.account_reads entry hmem
    refine ⟨?_, ?_⟩
    · rcases (applyAccountPosition_effect hread happly symbol).2 with hsame | ⟨rfl, hstated⟩
      · rw [hsame]
        exact ha.position
      have hpayload : fill.update.positions.get? entry.1 = some entry.2 :=
        Dict.get?_eq_some_iff.mpr hmem
      rw [fill.states] at hpayload
      rw [hstated, ← Option.some.inj hpayload]
      exact hposition
    · rw [(applyAccountPosition_cases happly).1.orders]
      exact ha.orders

end OmsState

namespace ReportedFill

/-- The quantities the venue reports are whole lots. -/
structure InLots (lot : ℚ) (fill : ReportedFill symbol) : Prop where
  cumulative : fill.trade.cumFilledQty ∈ AddSubgroup.zmultiples lot
  position : fill.position.volume ∈ AddSubgroup.zmultiples lot

end ReportedFill

namespace OmsState

open ReportedFill

variable {symbol : String}

/-- No message brings a fraction of a lot. -/
theorem run_inLots {lot : ℚ} {s t : OmsState} {fills : List (ReportedFill symbol)}
    {messages : List (Message symbol)} (hmessages : Interleaves fills messages)
    (hs : InLots lot symbol s) (hfills : ∀ fill ∈ fills, fill.InLots lot)
    (hexec : Run.exec step s (messages.map event) = some t) : InLots lot symbol t := by
  refine Run.exec_invariant_of_forall
    (P := fun e => ∃ message : Message symbol, e = event message ∧
      message.elim (ReportedFill.InLots lot) (ReportedFill.InLots lot))
    (I := InLots lot symbol) ?_ hs ?_ hexec
  · rintro a e next ha ⟨message, rfl, hlots⟩ hstep
    cases message with
    | inl fill =>
      cases hstep
      exact applyEvent_inLots fill.orderEnv fill.order_reads ha hlots.cumulative
    | inr fill =>
      cases hstep
      exact account_inLots fill ha hlots.position
  · intro e hmem
    obtain ⟨message, hmessage, rfl⟩ := mem_map.mp hmem
    refine ⟨message, rfl, ?_⟩
    cases message with
    | inl fill =>
      refine hfills fill ?_
      rw [← hmessages.orderStream]
      exact mem_filterMap.mpr ⟨_, hmessage, rfl⟩
    | inr fill =>
      refine hfills fill ?_
      rw [← hmessages.accountStream]
      exact mem_filterMap.mpr ⟨_, hmessage, rfl⟩

/-- **Convergence.**  Let the OMS know nothing about the symbol that is younger than the
fills, and hold the position the venue had before them.  When trades and account updates
are each in the order of their times, every interleaving of the two streams ends with the
venue's position, up to the difference the OMS does not correct; and exactly with it when
all quantities are whole lots and a lot is larger than that difference. -/
theorem position_converges {start : ℚ} {s t : OmsState} {fills : List (ReportedFill symbol)}
    {messages : List (Message symbol)}
    (hstart : |s.netPosition symbol - start| ≤ qtyEps)
    (hfresh : ∀ fill ∈ fills, s.positionStateEventTime.getD symbol 0 ≤ fill.trade.updateTime)
    (htrades : TradesOrdered fills) (hupdates : UpdatesOrdered fills)
    (hmessages : Interleaves fills messages)
    (hexec : Run.exec step s (messages.map event) = some t) :
    |t.netPosition symbol - finalPosition start fills| ≤ qtyEps ∧
      ∀ lot, qtyEps < lot → InLots lot symbol s → start ∈ AddSubgroup.zmultiples lot →
        (∀ fill ∈ fills, fill.InLots lot) →
        t.netPosition symbol = finalPosition start fills := by
  have hclose : |t.netPosition symbol - finalPosition start fills| ≤ qtyEps := by
    rcases eq_nil_or_concat' fills with rfl | ⟨earlier, last, rfl⟩
    · have hnone : messages = [] := by
        cases messages with
        | nil => rfl
        | cons message rest =>
          cases message with
          | inl fill => cases hmessages.orderStream
          | inr fill => cases hmessages.accountStream
      rw [hnone] at hexec
      cases hexec
      exact hstart
    · have hfresh' := (hfresh last (by simp)).trans last.after_trade
      have hsettled := run_settles hfresh' htrades hupdates hmessages hexec
      have hfinal : finalPosition start (earlier ++ [last]) = last.position.volume := by
        unfold finalPosition
        rw [List.getLast?_concat]
        rfl
      rw [hfinal]
      exact hsettled.position
  refine ⟨hclose, ?_⟩
  intro lot hlot hs hstartLots hfills
  have hposition := (run_inLots hmessages hs hfills hexec).position
  refine eq_of_mem_lots hposition ?_ (hclose.trans_lt hlot)
  unfold finalPosition
  cases hlast : fills.getLast? with
  | none => exact hstartLots
  | some last => exact (hfills last (mem_of_getLast? hlast)).position

/-! ## Two fills of one order -/

/-- A fill of the order `a`, as the user stream reports it. -/
def rawTrade (tradeId : ℤ) (status : String) (qty cum time : ℚ) : RawOrderUpdate :=
  { clientOid := "a", exchangeOid := "77", symbol := "BTCUSDT", status := status
    filledQty := .finite qty, filledPrice := .finite 100, cumFilledQty := .finite cum
    updateTime := .finite time, tradeId := .finite tradeId }

/-- `rawTrade` as the normaliser leaves it. -/
def readTrade (tradeId : ℤ) (status : String) (qty cum time : ℚ) : ExchangeOrderUpdate :=
  { clientOid := "a", exchangeOid := "77", symbol := "BTCUSDT", status := status
    filledQty := qty, filledPrice := 100, cumFilledQty := cum, updateTime := time
    tradeId := tradeId }

/-- An account update with one position. -/
def rawPosition (volume time : ℚ) : RawAccountUpdate :=
  { eventTime := .finite time
    positions := [("BTCUSDT", { volume := .finite volume, entryPrice := .finite 100 })] }

/-- `rawPosition` as the normaliser leaves it. -/
def readPosition (volume time : ℚ) : AccountUpdate :=
  { eventTime := time, walletBalance := 0, hasBalance := false
    positions :=
      Dict.ofList [("BTCUSDT", { volume := volume, entryPrice := 100, unrealizedPnl := 0 })] }

theorem readPosition_priced (volume time : ℚ) :
    ∀ entry ∈ (readPosition volume time).positions.items, Priced entry.2 := by
  intro entry hmem _
  rw [mem_singleton.mp hmem]
  show (0 : ℚ) < 100
  norm_num

/-- Nothing is left out, and the balance is of no concern. -/
def plainAccountEnv : AccountEnv := { trackedSymbols := [], syncedBalance := fun _ => 0 }

/-- The first half of the order at time `1`; the account reports it at time `10`. -/
def firstHalf : ReportedFill "BTCUSDT" where
  orderEnv := plainEnv
  order := rawTrade 7 "PARTIALLY_FILLED" 1 1 1
  trade := readTrade 7 "PARTIALLY_FILLED" 1 1 1
  order_reads := by decide +kernel
  accountEnv := plainAccountEnv
  account := rawPosition 1 10
  update := readPosition 1 10
  account_reads := by decide +kernel
  position := { volume := 1, entryPrice := 100, unrealizedPnl := 0 }
  states := by decide +kernel
  priced := readPosition_priced 1 10
  tracked := rfl
  traded := by decide +kernel
  after_trade := by decide +kernel

/-- The second half at time `2`; the account reports it at time `11`. -/
def secondHalf : ReportedFill "BTCUSDT" where
  orderEnv := plainEnv
  order := rawTrade 8 "FILLED" 1 2 2
  trade := readTrade 8 "FILLED" 1 2 2
  order_reads := by decide +kernel
  accountEnv := plainAccountEnv
  account := rawPosition 2 11
  update := readPosition 2 11
  account_reads := by decide +kernel
  position := { volume := 2, entryPrice := 100, unrealizedPnl := 0 }
  states := by decide +kernel
  priced := readPosition_priced 2 11
  tracked := rfl
  traded := by decide +kernel
  after_trade := by decide +kernel

/-- The second half again, reported by the account with the time `9`. -/
def secondHalfEarly : ReportedFill "BTCUSDT" :=
  { secondHalf with
    account := rawPosition 2 9
    update := readPosition 2 9
    account_reads := by decide +kernel
    states := by decide +kernel
    priced := readPosition_priced 2 9
    after_trade := by decide +kernel }

/-- A fill smaller than the difference the OMS corrects. -/
def dustFill : ReportedFill "BTCUSDT" where
  orderEnv := plainEnv
  order := rawTrade 7 "PARTIALLY_FILLED" (qtyEps / 2) (qtyEps / 2) 1
  trade := readTrade 7 "PARTIALLY_FILLED" (qtyEps / 2) (qtyEps / 2) 1
  order_reads := by decide +kernel
  accountEnv := plainAccountEnv
  account := rawPosition (qtyEps / 2) 1
  update := readPosition (qtyEps / 2) 1
  account_reads := by decide +kernel
  position := { volume := qtyEps / 2, entryPrice := 100, unrealizedPnl := 0 }
  states := by decide +kernel
  priced := readPosition_priced (qtyEps / 2) 1
  tracked := rfl
  traded := by decide +kernel
  after_trade := by decide +kernel

/-- The account is ahead of the first fill and behind the second. -/
theorem position_converges_twoHalves :
    ∃ t, Run.exec step (stateWith .new)
        ([.inr firstHalf, .inl firstHalf, .inl secondHalf, .inr secondHalf].map event) = some t ∧
      t.netPosition "BTCUSDT" = 2 := by
  obtain ⟨t, ht⟩ := Option.isSome_iff_exists.mp
    (show (Run.exec step (stateWith .new)
      ([.inr firstHalf, .inl firstHalf, .inl secondHalf, .inr secondHalf].map event)).isSome =
        true
      by decide +kernel)
  have hone : ∀ n : ℤ, (n : ℚ) ∈ AddSubgroup.zmultiples (1 : ℚ) := by
    intro n
    exact AddSubgroup.mem_zmultiples_iff.mpr ⟨n, by rw [zsmul_eq_mul, mul_one]⟩
  have hlots : InLots 1 "BTCUSDT" (stateWith .new) := by
    have hflat : (stateWith .new).netPosition "BTCUSDT" = 0 := by decide +kernel
    refine ⟨by rw [hflat]; exact zero_mem _, ?_⟩
    intro key order hget _
    have hmem := Dict.get?_eq_some_iff.mp hget
    have horder : order = orderIn .new := congrArg Prod.snd (mem_singleton.mp hmem)
    rw [horder]
    exact ⟨by exact_mod_cast hone 2, by exact_mod_cast hone 0⟩
  have hfresh : ∀ fill ∈ [firstHalf, secondHalf],
      (stateWith .new).positionStateEventTime.getD "BTCUSDT" 0 ≤ fill.trade.updateTime := by
    intro fill _
    exact fill.traded.le
  have hconverges := @position_converges "BTCUSDT" 0 _ t [firstHalf, secondHalf] _
    (by decide +kernel) hfresh (pairwise_pair.mpr (by decide +kernel))
    (pairwise_pair.mpr (by decide +kernel)) ⟨rfl, rfl⟩ ht
  refine ⟨t, ht, hconverges.2 1 (by decide +kernel) hlots (zero_mem _) ?_⟩
  intro fill hmem
  rcases mem_pair.mp hmem with rfl | rfl
  · exact ⟨by exact_mod_cast hone 1, by exact_mod_cast hone 1⟩
  · exact ⟨by exact_mod_cast hone 2, by exact_mod_cast hone 2⟩

/-- The event times of the account updates are needed: each update carries a time at or
after its trade, the second of them an earlier one than the first, and it is ignored.
And the position is not corrected by less than `1e-9`. -/
theorem late_account_update_ignored :
    (TradesOrdered [firstHalf, secondHalfEarly] ∧
      Interleaves [firstHalf, secondHalfEarly]
        [.inl firstHalf, .inr firstHalf, .inl secondHalfEarly, .inr secondHalfEarly] ∧
      finalPosition 0 [firstHalf, secondHalfEarly] = 2 ∧
      (Run.exec step (stateWith .new)
        ([.inl firstHalf, .inr firstHalf, .inl secondHalfEarly, .inr secondHalfEarly].map
          event)).map (netPosition · "BTCUSDT") = some 1) ∧
    (TradesOrdered [dustFill] ∧ Interleaves [dustFill] [.inl dustFill, .inr dustFill] ∧
      finalPosition 0 [dustFill] = qtyEps / 2 ∧
      (Run.exec step (stateWith .new) ([.inl dustFill, .inr dustFill].map event)).map
        (netPosition · "BTCUSDT") = some 0) := by
  refine ⟨⟨pairwise_pair.mpr (by decide +kernel), ⟨rfl, rfl⟩, by decide +kernel,
    by decide +kernel⟩, pairwise_singleton _ _, ⟨rfl, rfl⟩, by decide +kernel, by decide +kernel⟩

end OmsState

end ChronosHFT.Oms
