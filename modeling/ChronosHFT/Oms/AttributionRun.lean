import ChronosHFT.Lib.Run
import ChronosHFT.Oms.Attribution
import ChronosHFT.Oms.EngineSpec

/-!
# Attribution over runs

Every event of the engine settles what it touches, with two exceptions: a restart,
and a reset that a position of its snapshot stops half-way.  A run is therefore in
one of two situations for any symbol.  Either the symbol is accounted for, or there
was such an exception, and neither ledger of the symbol has changed since and no
completed reset has covered it.
-/

namespace ChronosHFT.Oms

open List

namespace OmsState

variable {s t : OmsState}

/-! ## Trades and account updates -/

theorem createRecoveredOrder_leads {remote : RemoteOrder} {now : ℚ} {created : OmsState}
    (h : s.WellSpelled) (hcreate : s.createRecoveredOrder remote now = .ok created) :
    Leads s created := by
  obtain ⟨hsymbol, -, -, -, -, -, hexposure, horders, -, hrecords⟩ :=
    createRecoveredOrder_ok hcreate
  have hspelled : Spelled (remote.order now).intent.symbol := by
    have hintent : (remote.order now).intent = remote.intent := by
      unfold RemoteOrder.order Order.markNew Order.markSubmitting
      rw [(Order.transition_sameBooks _ now _ _ _).intent,
        (Order.transition_sameBooks _ now _ _ _).intent]
      rfl
    rw [hintent]
    unfold RemoteOrder.intent
    rw [Order.postInit_symbol]
    exact ⟨toUpper_ne_empty hsymbol, Text.toUpper_toUpper remote.symbol⟩
  have hmoves : Exposure.Moves s.exposure created.exposure := by
    rw [hexposure]
    exact Exposure.Moves.refl _
  refine ⟨?_, hmoves⟩
  refine h.step [] (get?_set_spelled hspelled) (fun _ _ hmem => ?_) horders
    (hrecords.trans (append_nil _).symm) hmoves
  cases hmem

theorem advanceTradeCursor_leads (h : Leads s t) (symbol : String) (tradeId : ℤ)
    (source : String) : Leads s (t.advanceTradeCursor symbol tradeId source) := by
  rcases advanceTradeCursor_cases t symbol tradeId source with heq | ⟨-, -, heq⟩
  · rw [heq]
    exact h
  rw [heq]
  refine ⟨?_, h.moves⟩
  refine h.spelled.step [.tradeCursorAdvanced symbol.toUpper tradeId source]
    (fun _ _ hget => Or.inl hget) ?_ rfl ?_ (Exposure.Moves.refl _)
  · intro record other hmem
    cases mem_singleton.mp hmem
  · show ledgerRecords (t.journal ++ [_]) = _
    rw [ledgerRecords_append, ledgerRecords_of_not_isQuiet rfl]

theorem restoreTerminal_leads (h : Leads s t) (key : String) (before : Order) (now time : ℚ) :
    Leads s (t.restoreTerminal key before now time) := by
  rcases restoreTerminal_cases t key before now time with
    heq | ⟨order, after, hfound, hrestored, hrecorded⟩
  · rw [heq]
    exact h
  have hspelled : Spelled after.intent.symbol := by
    rw [hrestored.books.intent]
    exact h.spelled.orders key order hfound
  refine ⟨?_, h.moves.trans hrecorded.positions.moves⟩
  refine h.spelled.step _ (get?_set_spelled hspelled) ?_ hrecorded.orders hrecorded.records
    hrecorded.positions.moves
  intro record source hmem
  cases mem_singleton.mp hmem
  exact Or.inl hspelled

/-- A REST trade. -/
theorem applyExchangeTrade_leads (env : EventEnv) (trade : ExchangeTrade)
    (remote : Option RemoteOrder) (h : s.WellSpelled) :
    Leads s (s.applyExchangeTrade env trade remote).1 := by
  refine applyExchangeTrade_preserves env trade remote ⟨h, Exposure.Moves.refl _⟩
    (fun hsame ht => ht.sameLedgers hsame) ?_ ?_ ?_ ?_
  · intro r created _ hcreate
    exact createRecoveredOrder_leads h hcreate
  · intro t source _ ht
    exact advanceTradeCursor_leads ht _ _ source
  · intro target _ ht
    exact applyEvent_leads env _ ht
  · intro t key before time _ ht
    exact restoreTerminal_leads ht key before env.now time

/-- The venue's answer about one order. -/
theorem applyExchangeOrderSnapshot_leads (env : EventEnv) (snapshot : OrderSnapshot)
    (h : s.WellSpelled) : Leads s (s.applyExchangeOrderSnapshot env snapshot).1 := by
  refine applyExchangeOrderSnapshot_preserves env snapshot ⟨h, Exposure.Moves.refl _⟩
    (fun hsame ht => ht.sameLedgers hsame) ?_ ?_
  · intro created hcreate _
    exact createRecoveredOrder_leads h hcreate
  · intro t order executed avgPrice timeMs ht
    exact applyEvent_leads env _ ht

/-- An account update. -/
theorem onExchangeAccountUpdate_leads (env : AccountEnv) (raw : RawAccountUpdate)
    (h : s.WellSpelled) : Leads s (s.onExchangeAccountUpdate env raw) := by
  obtain ⟨hsame, hmoves⟩ := onExchangeAccountUpdate_spec env s raw Exposure.Moves.refl
    (fun h₁ h₂ => Exposure.Moves.trans h₁ h₂)
    (fun symbol volume price hsymbol e synced hsync =>
      Exposure.forceSync_reconcile_moves hsymbol hsync price)
  refine ⟨?_, hmoves⟩
  refine h.step [] (fun _ _ hget => Or.inl hget) (fun _ _ hmem => ?_) hsame.orders
    (hsame.records.trans (append_nil _).symm) hmoves
  cases hmem

/-! ## Full reset -/

/-- What the snapshot's positions do to the ledgers. -/
theorem syncPositions_spec (positions : List SnapshotPosition) (e : Exposure) :
    (syncPositions e positions).1.strategyNetPositions = e.strategyNetPositions ∧
      (∀ symbol ∈ (syncPositions e positions).1.netPositions.keys,
        symbol ∈ e.netPositions.keys ∨ Spelled symbol) ∧
      (∀ symbol, (∀ position ∈ positions, position.symbol = "" ∨ position.symbol ≠ symbol) →
        (syncPositions e positions).1.netPositions.getD symbol 0 =
          e.netPositions.getD symbol 0) := by
  induction positions generalizing e with
  | nil => exact ⟨rfl, fun _ hmem => Or.inl hmem, fun _ _ => rfl⟩
  | cons position rest ih =>
    have hrest : ∀ symbol, (∀ p ∈ position :: rest, p.symbol = "" ∨ p.symbol ≠ symbol) →
        ∀ p ∈ rest, p.symbol = "" ∨ p.symbol ≠ symbol :=
      fun symbol hall p hmem => hall p (mem_cons_of_mem _ hmem)
    rw [syncPositions]
    split
    · obtain ⟨hstrategy, hkeys, hnet⟩ := ih e
      exact ⟨hstrategy, hkeys, fun symbol hall => hnet symbol (hrest symbol hall)⟩
    cases hsync : e.forceSync position.symbol position.positionAmt position.entryPrice with
    | error err => exact ⟨rfl, fun _ hmem => Or.inl hmem, fun _ _ => rfl⟩
    | ok next =>
      obtain ⟨hne, hset, hkept⟩ := Exposure.forceSync_ok hsync
      obtain ⟨hstrategy, hkeys, hnet⟩ := ih next
      refine ⟨hstrategy.trans hkept, ?_, ?_⟩
      · intro symbol hmem
        rcases hkeys symbol hmem with hold | hspelled
        · rw [hset] at hold
          rcases Dict.mem_keys_set.mp hold with rfl | hold
          · exact Or.inr ⟨hne, Text.toUpper_strip_toUpper _⟩
          · exact Or.inl hold
        · exact Or.inr hspelled
      · intro symbol hall
        rw [hnet symbol (hrest symbol hall), hset, position.normalized]
        rw [position.normalized] at hne
        rcases hall position mem_cons_self with hempty | hother
        · exact absurd hempty hne
        · exact Dict.getD_set_of_ne _ _ _ (Ne.symm hother)

/-- Booking the residuals of a list of symbols accounts for each of them. -/
theorem foldl_reconcileReset_spec (floor : ℚ) {symbols : List String}
    (hsymbols : ∀ symbol ∈ symbols, symbol.toUpper = symbol) (t : OmsState) :
    (symbols.foldl (reconcileReset floor) t).exposure.netPositions = t.exposure.netPositions ∧
      ∀ symbol,
        (symbol ∈ symbols →
          (symbols.foldl (reconcileReset floor) t).exposure.Accounted symbol) ∧
        (symbol ∉ symbols →
          Exposure.SameFor symbol t.exposure
            (symbols.foldl (reconcileReset floor) t).exposure) := by
  induction symbols generalizing t with
  | nil =>
    refine ⟨rfl, fun symbol => ⟨?_, fun _ => Exposure.SameFor.refl symbol _⟩⟩
    intro hmem
    cases hmem
  | cons first rest ih =>
    obtain ⟨hnet, hrest⟩ := ih (fun symbol hmem => hsymbols symbol (mem_cons_of_mem _ hmem))
      (reconcileReset floor t first)
    have hupper := hsymbols first mem_cons_self
    have hfirst : (reconcileReset floor t first).exposure.Accounted first :=
      Exposure.reconcile_accounted t.exposure hupper rfl _
    refine ⟨hnet, fun symbol => ⟨?_, ?_⟩⟩
    · intro hmem
      by_cases hlater : symbol ∈ rest
      · exact (hrest symbol).1 hlater
      · rcases mem_cons.mp hmem with rfl | habsurd
        · exact ((hrest symbol).2 hlater).accounted hfirst
        · exact absurd habsurd hlater
    · intro hmem
      rw [mem_cons, not_or] at hmem
      have hstep : Exposure.SameFor symbol t.exposure (reconcileReset floor t first).exposure :=
        Exposure.reconcileStrategyPosition_sameFor t.exposure (by rw [hupper]; exact hmem.1) _ _
      exact hstep.trans ((hrest symbol).2 hmem.2)

/-- Every symbol a reset reconciles is upper case. -/
theorem resetSymbols_upper (h : s.WellSpelled) (snapshot : ResetSnapshot) {symbol : String}
    (hmem : symbol ∈ resetSymbols s.exposure snapshot) : symbol.toUpper = symbol := by
  unfold resetSymbols at hmem
  simp only [mem_append, mem_map] at hmem
  rcases hmem with ((htracked | ⟨read, -, rfl⟩) | ⟨name, -, rfl⟩) | ⟨position, -, rfl⟩
  · exact (h.positions symbol htracked).2
  · exact read.2
  · exact Text.toUpper_toUpper name
  · exact Text.toUpper_toUpper position.symbol

theorem resetRecords_spelled (h : s.WellSpelled) (now : ℚ) (record : OrderRecord)
    (source : String) (hmem : .orderSnapshot record source ∈ resetRecords now s.orders.items) :
    Spelled record.intent.symbol := by
  unfold resetRecords at hmem
  obtain ⟨⟨key, order⟩, hentry, heq⟩ := mem_map.mp hmem
  cases heq
  have hfound := Dict.get?_eq_some_iff.mpr (mem_filter.mp hentry).1
  have hspelled := h.orders key order hfound
  show Spelled (resetOrder now order).intent.symbol
  unfold resetOrder Order.markCancelled
  rw [(Order.transition_sameBooks order now _ _ _).intent]
  exact hspelled

theorem clearedExposure_samePositions (e : Exposure) :
    Exposure.SamePositions { e with netPositions := ∅, avgPrices := ∅ } (clearedExposure e) := by
  have hclear : Exposure.SamePositions { e with netPositions := ∅, avgPrices := ∅ }
      { e with netPositions := ∅, avgPrices := ∅, openBuyQty := ∅, openSellQty := ∅ } :=
    ⟨rfl, rfl, rfl, rfl⟩
  exact hclear.trans (Exposure.updateOpenOrders_samePositions _ _)

/-- A reset keeps the spelling, whether it is carried through or not. -/
theorem fullReset_wellSpelled (h : s.WellSpelled) (snapshot : ResetSnapshot) :
    (s.fullReset snapshot).1.WellSpelled := by
  have heffect := fullReset_effect s snapshot
  have hcleared := clearedExposure_samePositions s.exposure
  have hpositions : ∀ symbol ∈ (s.fullReset snapshot).1.exposure.netPositions.keys,
      Spelled symbol := by
    have hsync : ∀ symbol ∈ (syncPositions (clearedExposure s.exposure)
        snapshot.positions).1.netPositions.keys, Spelled symbol := by
      intro symbol hmem
      rcases (syncPositions_spec snapshot.positions (clearedExposure s.exposure)).2.1 symbol
        hmem with habsurd | hspelled
      · rw [hcleared.netPositions] at habsurd
        cases habsurd
      · exact hspelled
    rcases fullReset_cases s snapshot with ⟨_, _, _, heq, _⟩ | ⟨_, _, t, ht, _, heq⟩
    · rw [heq]
      exact hsync
    have hnet := (foldl_reconcileReset_spec snapshot.positionsFloor
      (fun symbol => resetSymbols_upper h snapshot) t).1
    rw [heq]
    show ∀ symbol ∈ (List.foldl _ t _).exposure.netPositions.keys, Spelled symbol
    rw [hnet, ht]
    exact hsync
  refine ⟨?_, hpositions, ?_⟩
  · intro key order hget
    rw [heffect.orders] at hget
    cases hget
  · intro record source hmem
    rw [heffect.records, mem_append] at hmem
    rcases hmem with hold | hnew
    · exact h.journal record source hold
    · exact Or.inl (resetRecords_spelled h snapshot.now record source hnew)

/-- **A completed reset** accounts for every symbol it covers and leaves the others
as they were. -/
theorem fullReset_accounted (h : s.WellSpelled) (snapshot : ResetSnapshot)
    (hok : (s.fullReset snapshot).2 = .ok ()) (symbol : String) :
    (symbol ∈ resetSymbols s.exposure snapshot →
      (s.fullReset snapshot).1.exposure.Accounted symbol) ∧
    (symbol ∉ resetSymbols s.exposure snapshot →
      Exposure.SameFor symbol s.exposure (s.fullReset snapshot).1.exposure) := by
  rcases fullReset_cases s snapshot with ⟨err, herr, _⟩ | ⟨_, _, t, ht, _, heq⟩
  · rw [herr] at hok
    cases hok
  obtain ⟨-, hspec⟩ := foldl_reconcileReset_spec snapshot.positionsFloor
    (fun symbol => resetSymbols_upper h snapshot) t
  rw [heq]
  refine ⟨fun hmem => (hspec symbol).1 hmem, ?_⟩
  intro hmem
  refine Exposure.SameFor.trans ?_ ((hspec symbol).2 hmem)
  have hcleared := clearedExposure_samePositions s.exposure
  obtain ⟨hstrategy, -, hnet⟩ :=
    syncPositions_spec snapshot.positions (clearedExposure s.exposure)
  rw [ht]
  constructor
  · unfold Exposure.strategyTotal
    rw [hstrategy, hcleared.strategyNetPositions]
  -- The symbol was not tracked before and is not in the snapshot: both are zero.
  have hbefore : s.exposure.netPositions.getD symbol 0 = 0 := by
    unfold Dict.getD
    rw [Dict.get?_eq_none_iff.mpr]
    · rfl
    intro htracked
    apply hmem
    unfold resetSymbols
    simp only [mem_append]
    exact Or.inl (Or.inl (Or.inl htracked))
  rw [hbefore, hnet symbol, hcleared.netPositions]
  · rfl
  intro position hposition
  by_cases hempty : position.symbol = ""
  · exact Or.inl hempty
  refine Or.inr ?_
  rintro rfl
  apply hmem
  unfold resetSymbols
  simp only [mem_append]
  refine Or.inr (mem_map.mpr ⟨position, ?_, ?_⟩)
  · exact mem_filter.mpr ⟨hposition, by simpa using hempty⟩
  · rw [← position.normalized]
    exact Text.toUpper_strip_toUpper position.symbol

/-! ## Recovery -/

/-- What recovery keeps of a snapshot: its symbol, and that it was rejected. -/
structure StillRejected (record : OrderRecord) (order : Order) : Prop where
  symbol : order.intent.symbol = record.intent.symbol
  status : record.status = OrderStatus.rejectedLocally.value → order.status = .rejectedLocally

theorem recoverOrder_stillRejected {r : OrderReplay} {now : ℚ} {oid : String}
    {record : OrderRecord} {order : Order} (h : r.recoverOrder now oid record = .ok order) :
    StillRejected record order := by
  refine OrderReplay.recoverOrder_induct h ?_ ?_ ?_ ?_
  · intro o hread
    obtain ⟨-, hsymbol, -, -, hstatus, -⟩ := Order.fromRecord_ok hread
    refine ⟨hsymbol, ?_⟩
    intro hrejected
    rw [hrejected, OrderStatus.ofValue?_value] at hstatus
    exact (Option.some.inj hstatus).symm
  · intro o result ho
    refine ⟨?_, ?_⟩
    · rw [(Order.applyRecoveredCommandResult_sameBooks o now result).intent]
      exact ho.symbol
    · intro hrejected
      rw [Order.applyRecoveredCommandResult_rejectedLocally (ho.status hrejected)]
      exact ho.status hrejected
  · intro o o' execution ho happly
    refine ⟨?_, ?_⟩
    · rw [(Order.applyRecoveredExecution_identity happly).intent]
      exact ho.symbol
    · intro hrejected
      exact Order.applyRecoveredExecution_rejectedLocally happly (ho.status hrejected)
  · intro o ho
    refine ⟨?_, ?_⟩
    · rw [(Order.markInflightUnknown_sameBooks o now).intent]
      exact ho.symbol
    · intro hrejected
      rw [Order.markInflightUnknown_rejectedLocally (ho.status hrejected)]
      exact ho.status hrejected

/-- **A restart keeps the spelling**: what is filed again was filed before. -/
theorem restart_wellSpelled (h : s.WellSpelled) {now : ℚ} (hrestart : s.restart now = .ok t) :
    t.WellSpelled := by
  unfold restart at hrestart
  cases hrebuild : OrderReplay.rebuild s.tombstoneMax now s.journal with
  | error err =>
    rw [hrebuild] at hrestart
    cases hrestart
  | ok recovered =>
    rw [hrebuild] at hrestart
    cases hrestart
    refine ⟨?_, ?_, h.journal⟩
    · intro key order hget
      obtain ⟨r, record, source, -, hmem, -, hrecover, hactive, -⟩ :=
        OrderReplay.rebuild_orders hrebuild hget
      have hstill := recoverOrder_stillRejected hrecover
      have hloud : .orderSnapshot record source ∈ ledgerRecords s.journal :=
        mem_filter.mpr ⟨hmem, rfl⟩
      rw [hstill.symbol]
      rcases h.journal record source hloud with hspelled | hrejected
      · exact hspelled
      -- A rejected order is not active, so it is not on file.
      unfold Order.isActive at hactive
      rw [hstill.status hrejected] at hactive
      cases hactive
    · intro symbol hmem
      have hsame := Exposure.updateOpenOrders_samePositions
        { ({} : Exposure) with
          strategyNetPositions := recovered.strategy.positions
          strategyAvgPrices := recovered.strategy.averagePrices } recovered.orders
      have hempty : symbol ∈ (∅ : Dict String ℚ).keys := by
        rw [← show _ = (∅ : Dict String ℚ) from hsame.netPositions]
        exact hmem
      cases hempty

/-! ## Runs -/

/-- The events that may leave a symbol unaccounted for. -/
def Recovers (s : OmsState) : OmsEvent → Prop
  | .restart _ => True
  | .reset snapshot => (s.fullReset snapshot).2 ≠ .ok ()
  | _ => False

/-- A completed reset that covers the symbol. -/
def Covers (symbol : String) (s : OmsState) : OmsEvent → Prop
  | .reset snapshot =>
    (s.fullReset snapshot).2 = .ok () ∧ symbol ∈ resetSymbols s.exposure snapshot
  | _ => False

/-- **One event.**  The spelling is kept; unless it is a recovery, the event settles
what it touches; and a reset accounts for what it covers. -/
theorem step_attribution {event : OmsEvent} (h : s.WellSpelled)
    (hstep : s.step event = some t) :
    t.WellSpelled ∧ (¬Recovers s event → Exposure.Settling s.exposure t.exposure) ∧
      ∀ symbol, Covers symbol s event → t.exposure.Accounted symbol := by
  have hleads : Leads s t → (∀ symbol, ¬Covers symbol s event) → t.WellSpelled ∧
      (¬Recovers s event → Exposure.Settling s.exposure t.exposure) ∧
      ∀ symbol, Covers symbol s event → t.exposure.Accounted symbol :=
    fun hl hnot => ⟨hl.spelled, fun _ => hl.moves.settling,
      fun symbol hcovers => absurd hcovers (hnot symbol)⟩
  cases stepView hstep with
  | command hown heffect =>
    refine hleads (heffect.leads h) ?_
    intro symbol hcovers
    cases event with
    | reset snapshot => cases hown
    | _ => exact hcovers
  | orderUpdate env raw =>
    exact hleads (applyEvent_leads env raw ⟨h, Exposure.Moves.refl _⟩) fun _ => id
  | trade env trade remote =>
    exact hleads (applyExchangeTrade_leads env trade remote h) fun _ => id
  | orderSnapshot env snapshot =>
    exact hleads (applyExchangeOrderSnapshot_leads env snapshot h) fun _ => id
  | account env raw => exact hleads (onExchangeAccountUpdate_leads env raw h) fun _ => id
  | reset snapshot =>
    refine ⟨fullReset_wellSpelled h snapshot, ?_, ?_⟩
    · intro hdone symbol
      have hok : (s.fullReset snapshot).2 = .ok () := not_not.mp hdone
      by_cases hmem : symbol ∈ resetSymbols s.exposure snapshot
      · exact Or.inr ((fullReset_accounted h snapshot hok symbol).1 hmem)
      · exact Or.inl ((fullReset_accounted h snapshot hok symbol).2 hmem)
    · intro symbol hcovers
      exact (fullReset_accounted h snapshot hcovers.1 symbol).1 hcovers.2
  | restart hrestart =>
    exact ⟨restart_wellSpelled h hrestart, fun hnot => absurd trivial hnot, fun _ => False.elim⟩

/-- Nothing has touched the symbol on the way from `s` to `t`. -/
structure LeftAlone (symbol : String) (s : OmsState) (events : List OmsEvent) (t : OmsState) :
    Prop where
  run : Run.exec step s events = some t
  same : Exposure.SameFor symbol s.exposure t.exposure
  uncovered : Run.Along step (fun s event => ¬Covers symbol s event) s events

/-- The last recovery of a run has not been made good for the symbol: both ledgers are
as it left them, and no completed reset has covered the symbol since. -/
def Unrestored (symbol : String) (s : OmsState) (events : List OmsEvent) (t : OmsState) : Prop :=
  ∃ before event after s₀ s₁, events = before ++ event :: after ∧
    Run.exec step s before = some s₀ ∧ Recovers s₀ event ∧ s₀.step event = some s₁ ∧
    LeftAlone symbol s₁ after t

theorem Unrestored.cons {symbol : String} {s s' t : OmsState} {event : OmsEvent}
    {events : List OmsEvent} (hstep : s.step event = some s')
    (h : Unrestored symbol s' events t) : Unrestored symbol s (event :: events) t := by
  obtain ⟨before, recovery, after, s₀, s₁, rfl, hbefore, hrest⟩ := h
  exact ⟨event :: before, recovery, after, s₀, s₁, rfl,
    Run.exec_cons_eq_some.mpr ⟨s', hstep, hbefore⟩, hrest⟩

/-- **A run** ends accounted for, or has left the symbol alone, or has not made its
last recovery good. -/
theorem exec_attribution (symbol : String) {events : List OmsEvent} {s t : OmsState}
    (h : s.WellSpelled) (hrun : Run.exec step s events = some t) :
    t.exposure.Accounted symbol ∨ LeftAlone symbol s events t ∨
    Unrestored symbol s events t := by
  induction events generalizing s with
  | nil =>
    cases hrun
    exact Or.inr (Or.inl ⟨rfl, Exposure.SameFor.refl symbol _, trivial⟩)
  | cons event rest ih =>
    obtain ⟨s', hstep, hrest⟩ := Run.exec_cons_eq_some.mp hrun
    obtain ⟨hspelled, hsettling, hcovers⟩ := step_attribution h hstep
    rcases ih hspelled hrest with haccounted | halone | hunrestored
    · exact Or.inl haccounted
    · -- The rest left the symbol alone: what the first event did decides.
      by_cases hrecovers : Recovers s event
      · exact Or.inr (Or.inr ⟨[], event, rest, s, s', rfl, rfl, hrecovers, hstep, halone⟩)
      by_cases hcovered : Covers symbol s event
      · exact Or.inl (halone.same.accounted (hcovers symbol hcovered))
      rcases hsettling hrecovers symbol with hsame | haccounted
      · refine Or.inr (Or.inl ⟨hrun, hsame.trans halone.same, hcovered, ?_⟩)
        intro s'' hstep'
        rw [hstep] at hstep'
        cases hstep'
        exact halone.uncovered
      · exact Or.inl (halone.same.accounted haccounted)
    · exact Or.inr (Or.inr (hunrestored.cons hstep))

/-- A new OMS. -/
def fresh (venue : String) (tombstoneMax : ℕ) : OmsState :=
  { venue := venue, tombstoneMax := tombstoneMax }

theorem fresh_wellSpelled (venue : String) (tombstoneMax : ℕ) :
    (fresh venue tombstoneMax).WellSpelled := by
  refine ⟨?_, ?_, ?_⟩
  · intro key order hget
    cases hget
  · intro symbol hmem
    cases hmem
  · intro record source hmem
    cases hmem

/-- **The strategies account for every position** in every state a new OMS reaches,
except for symbols whose last recovery has not been made good. -/
theorem strategies_account_for_positions (venue : String) (tombstoneMax : ℕ)
    (events : List OmsEvent) (t : OmsState)
    (hrun : Run.exec step (fresh venue tombstoneMax) events = some t) (symbol : String) :
    |t.exposure.strategyTotal symbol - t.exposure.netPositions.getD symbol 0| < qtyEps ∨
      Unrestored symbol (fresh venue tombstoneMax) events t := by
  rcases exec_attribution symbol (fresh_wellSpelled venue tombstoneMax) hrun with
    haccounted | halone | hunrestored
  · exact Or.inl haccounted
  · have hfresh : (fresh venue tombstoneMax).exposure.Accounted symbol := by
      show |(0 : ℚ) - 0| < qtyEps
      decide +kernel
    exact Or.inl (halone.same.accounted hfresh)
  · exact Or.inr hunrestored

/-- A trade of an order placed elsewhere. -/
def outsideTrade : OmsEvent :=
  .trade ⟨1, fun _ _ => 0, fun _ => "USDT"⟩
    { symbol := "BTCUSDT", id := 7, orderId := "77", qty := .finite 1, price := .finite 100,
      time := .finite 1000 }
    (some { symbol := "BTCUSDT", orderId := "77", clientOrderId := "web-1", side := .buy,
            volume := 2, price := 100 })

/-- The reset that follows a restart: the venue holds what the order has bought. -/
def venueTruth : OmsEvent :=
  .reset { positions := [⟨"BTCUSDT", 1, 100, by decide +kernel⟩], configuredSymbols := [],
           readSymbols := [],
           walletBalance := 1000, accountFloor := 3, positionsFloor := 3, now := 4 }

/-- **The equation holds again** after the reset. -/
theorem strategies_account_for_positions_outsideTrade :
    ∃ t, Run.exec step (fresh "BINANCE" 10) [outsideTrade, .restart 2, venueTruth] = some t ∧
      t.exposure.netPositions.getD "BTCUSDT" 0 = 1 ∧ t.exposure.strategyTotal "BTCUSDT" = 1 ∧
      (|t.exposure.strategyTotal "BTCUSDT" - t.exposure.netPositions.getD "BTCUSDT" 0| < qtyEps ∨
        Unrestored "BTCUSDT" (fresh "BINANCE" 10) [outsideTrade, .restart 2, venueTruth] t) := by
  have hvalues : (Run.exec step (fresh "BINANCE" 10) [outsideTrade, .restart 2, venueTruth]).map
      (fun t => (t.exposure.netPositions.getD "BTCUSDT" 0, t.exposure.strategyTotal "BTCUSDT")) =
        some (1, 1) := by
    decide +kernel
  obtain ⟨t, ht, hpair⟩ := Option.map_eq_some_iff.mp hvalues
  obtain ⟨hnet, htotal⟩ := Prod.mk.inj hpair
  exact ⟨t, ht, hnet, htotal, strategies_account_for_positions "BINANCE" 10 _ t ht "BTCUSDT"⟩

/-- Recovery gives the strategy its contract back and the symbol no position. -/
theorem recovery_leaves_position_unaccounted :
    ∃ events t, Run.exec step (fresh "BINANCE" 10) events = some t ∧
      ¬|t.exposure.strategyTotal "BTCUSDT" - t.exposure.netPositions.getD "BTCUSDT" 0| <
        qtyEps := by
  have hvalues : (Run.exec step (fresh "BINANCE" 10) [outsideTrade, .restart 2]).map
      (fun t => (t.exposure.strategyTotal "BTCUSDT",
        t.exposure.netPositions.getD "BTCUSDT" 0)) = some (1, 0) := by
    decide +kernel
  obtain ⟨t, ht, hpair⟩ := Option.map_eq_some_iff.mp hvalues
  refine ⟨_, t, ht, ?_⟩
  rw [(Prod.mk.inj hpair).1, (Prod.mk.inj hpair).2]
  decide +kernel

end OmsState

end ChronosHFT.Oms
