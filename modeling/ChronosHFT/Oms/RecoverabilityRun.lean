import ChronosHFT.Oms.Recoverability

/-!
# Every run that records soundly can be restarted

The run half of the recovery argument.  `Recordable` is a condition on an event and
the state before it, and `Readable` the invariant it keeps; a readable state can be
rebuilt at any time, with any limit on remembered terminal orders, so a restart is
never refused.
-/

namespace ChronosHFT.Oms

/-! ## The condition -/

/-- The last snapshot of an order has room for an execution that its order may
refuse: a rebuild replays the execution there. -/
def Absorbs (journal : List JournalRecord) (oid : String) (cumFilledQty : ℚ) : Prop :=
  ∀ record, OrderReplay.lastSnapshot oid journal = some record →
    record.status ∉ [OrderStatus.created.value, OrderStatus.rejected.value,
      OrderStatus.rejectedLocally.value] ∧
    qtyEps < record.intent.volume ∧ cumFilledQty ≤ record.intent.volume + fillEps

namespace OmsState

/-- The new fill of an update, if it has one, can be read back: its order is large
enough to be filled at all, and either books the fill or has a last snapshot with
room for it. -/
def RecordableFill (s : OmsState) (raw : RawOrderUpdate) : Prop :=
  ∀ u key order status, raw.normalize = .ok u → s.judge u = .proceed key order status →
    qtyEps < incomingDelta order u →
    qtyEps < order.intent.volume ∧
      (order.BooksCleanly u status ∨ Absorbs s.journal order.clientOid u.cumFilledQty)

/-- The fill an event reports, if it reports one, can be read back. -/
def RecordableFills (s : OmsState) : OmsEvent → Prop
  | .orderUpdate _ raw => s.RecordableFill raw
  | .trade env trade remote =>
    ∀ target, tradeTarget env s trade remote = some target →
      target.state.RecordableFill (target.update trade)
  | _ => True

/-- What an event must meet so that its records can be read back. -/
structure Recordable (s : OmsState) (event : OmsEvent) : Prop where
  clock : 0 ≤ event.clock
  refused : ∀ intent, event.Refuses s intent →
    intent.symbol ≠ "" ∧ 0 < intent.price ∧ 0 < intent.volume
  fills : s.RecordableFills event

/-! ## The invariant -/

/-- Every order on file is well formed and the journal can be resumed. -/
structure Readable (s : OmsState) : Prop where
  orders : ∀ key order, s.orders.get? key = some order → order.WellFormed
  journal : ∀ limit, ∃ r, OrderReplay.replay limit {} s.journal = .ok r ∧ r.Sound

variable {s t : OmsState}

/-- The rule every event is checked with. -/
theorem Readable.extend (h : s.Readable) {records : List JournalRecord}
    (horders : ∀ key order, t.orders.get? key = some order → order.WellFormed)
    (hrecords : ledgerRecords t.journal = ledgerRecords s.journal ++ records)
    (hreplay : ∀ limit r, OrderReplay.replay limit {} s.journal = .ok r → r.Sound →
      ∃ r', OrderReplay.replay limit r records = .ok r' ∧ r'.Sound) : t.Readable := by
  refine ⟨horders, fun limit => ?_⟩
  obtain ⟨r, hok, hsound⟩ := h.journal limit
  obtain ⟨r', hok', hsound'⟩ := hreplay limit r hok hsound
  refine ⟨r', ?_, hsound'⟩
  rw [← OrderReplay.replay_ledgerRecords, hrecords, OrderReplay.replay_append,
    OrderReplay.replay_ledgerRecords, hok]
  exact hok'

/-- Nothing recovery reads has changed. -/
theorem Readable.same (h : s.Readable) (horders : t.orders = s.orders)
    (hrecords : ledgerRecords t.journal = ledgerRecords s.journal) : t.Readable := by
  have hnothing : ledgerRecords t.journal = ledgerRecords s.journal ++ [] := by
    rw [hrecords, List.append_nil]
  refine h.extend ?_ hnothing ?_
  · rw [horders]
    exact h.orders
  · intro limit r _ hsound
    exact ⟨r, rfl, hsound⟩

variable {field key : String} {now : ℚ}

theorem get?_set_wellFormed {orders : Dict String Order} {after : Order}
    (horders : ∀ key order, orders.get? key = some order → order.WellFormed)
    (hafter : after.WellFormed) (k : String) (order : Order)
    (hget : (orders.set key after).get? k = some order) : order.WellFormed := by
  rw [Dict.get?_set] at hget
  split at hget
  · rw [← Option.some.inj hget]
    exact hafter
  · exact horders k order hget

/-! ## Commands -/

theorem init_wellFormed (clientOid : String) {intent : OrderIntent} (hnow : 0 ≤ now)
    (hsymbol : intent.symbol ≠ "") (hprice : 0 < intent.price) (hvolume : 0 < intent.volume) :
    (Order.init clientOid intent now).WellFormed where
  symbol := hsymbol
  price := hprice
  volume := hvolume
  books := Or.inl ⟨rfl, rfl, rfl⟩
  createdAt := hnow
  updatedAt := hnow
  lastExchangeUpdateTime := le_refl 0
  lastUpdateSeq := le_refl 0
  complete := fun hfilled => by cases hfilled

theorem timed_empty : Order.Timed {} := ⟨le_refl 0, le_refl 0⟩

/-- **A command keeps the journal readable** when the intents it rejects are worth an
order. -/
theorem CommandEffect.readable {Refused : OrderIntent → Prop}
    (heffect : CommandEffect now Refused s t) (hnow : 0 ≤ now)
    (hrefused : ∀ intent, Refused intent →
      intent.symbol ≠ "" ∧ 0 < intent.price ∧ 0 < intent.volume)
    (hspelled : s.WellSpelled) (h : s.Readable) : t.Readable := by
  have hleads := heffect.leads hspelled
  cases heffect with
  | quiet hsame => exact h.same hsame.orders hsame.records
  | rejected clientOid intent reason hintent hrecorded =>
    obtain ⟨hsymbol, hprice, hvolume⟩ := hrefused intent hintent
    have hwell := (init_wellFormed clientOid hnow hsymbol hprice hvolume).transition
      hnow .rejectedLocally (fun heq => by cases heq) reason timed_empty
    refine h.extend ?_ hrecorded.records ?_
    · rw [hrecorded.orders]
      exact h.orders
    · intro limit r _ hsound
      exact OrderReplay.replay_results_snapshot hwell limit _ own_nil (hsound.but _)
  | filed clientOid intent source hfileable hrecorded =>
    have hsymbol : intent.symbol ≠ "" := by
      have hget : t.orders.get? clientOid =
          some ((Order.init clientOid intent now).markSubmitting now).1 := by
        rw [hrecorded.orders, Dict.get?_set_self]
      have hspelled' := hleads.spelled.orders _ _ hget
      unfold Order.markSubmitting at hspelled'
      rw [(Order.transition_sameBooks _ now _ _ _).intent] at hspelled'
      exact hspelled'.1
    have hwell := (init_wellFormed clientOid hnow hsymbol hfileable.price
      hfileable.volume).transition hnow .submitting (fun heq => by cases heq) "" timed_empty
    refine h.extend ?_ hrecorded.records ?_
    · rw [hrecorded.orders]
      exact get?_set_wellFormed h.orders hwell
    · intro limit r _ hsound
      exact OrderReplay.replay_results_snapshot hwell limit _ own_nil (hsound.but _)
  | moved key before after orders ids results source hfound hown hmove htable hmapped
    hrecorded =>
    have hwell := (h.orders key before hfound).moved hnow hmove
    refine h.extend ?_ hrecorded.records ?_
    · rw [hrecorded.orders]
      intro k order hget
      rcases htable with rfl | rfl | ⟨-, rfl⟩
      · exact get?_set_wellFormed h.orders hwell k order hget
      · rw [Dict.get?_erase] at hget
        split at hget
        · cases hget
        · exact get?_set_wellFormed h.orders hwell k order hget
      · exact h.orders k order hget
    · intro limit r _ hsound
      rw [← hmove.books.clientOid] at hown
      exact OrderReplay.replay_results_snapshot hwell limit _ hown (hsound.but _)
  | noted key before result hfound hown hcancel hrecorded =>
    refine h.extend ?_ hrecorded.records ?_
    · rw [hrecorded.orders]
      exact h.orders
    · intro limit r _ hsound
      exact ⟨_, rfl, OrderReplay.onCommandResult_sound hsound hcancel⟩

/-! ## Order updates -/

theorem nonnegative_ok {raw : RawNum} {value : ℚ}
    (h : RawOrderUpdate.nonnegative field raw = .ok value) : 0 ≤ value := by
  unfold RawOrderUpdate.nonnegative at h
  split at h
  · cases h
  · cases h
  split at h
  · cases h
  · next hneg =>
    cases h
    exact not_lt.mp hneg

theorem integer_ok {minimum value : ℤ} {raw : RawNum}
    (h : RawOrderUpdate.integer field minimum raw = .ok value) : minimum ≤ value := by
  unfold RawOrderUpdate.integer at h
  split at h
  · split at h
    · cases h
    split at h
    · cases h
    · next hmin =>
      cases h
      exact not_lt.mp hmin
  · cases h

/-- What the normaliser establishes about times and numbers. -/
theorem normalize_times {raw : RawOrderUpdate} {u : ExchangeOrderUpdate}
    (h : raw.normalize = .ok u) : 0 ≤ u.updateTime ∧ 0 ≤ u.seq := by
  unfold RawOrderUpdate.normalize at h
  iterate 3 obtain ⟨_, -, h⟩ := Run.except_bind_eq_ok.mp h
  obtain ⟨updateTime, htime, h⟩ := Run.except_bind_eq_ok.mp h
  iterate 8 obtain ⟨_, -, h⟩ := Run.except_bind_eq_ok.mp h
  obtain ⟨seq, hseq, h⟩ := Run.except_bind_eq_ok.mp h
  obtain ⟨_, -, h⟩ := Run.except_bind_eq_ok.mp h
  simp only at h
  split at h
  · cases h
  · cases h
    exact ⟨nonnegative_ok htime, integer_ok hseq⟩

theorem executionIdOf_ne_empty (venue symbol : String) (tradeId : ℕ) :
    executionIdOf venue symbol tradeId ≠ "" := by
  intro hempty
  have hchars := congrArg String.toList hempty
  unfold executionIdOf at hchars
  rw [String.toList_ofList] at hchars
  simp [List.intercalate, List.intersperse] at hchars

/-- The execution record of a new fill is sound. -/
theorem executionRecord_sound {u : ExchangeOrderUpdate} {order : Order}
    {status : UpdateStatus} (hjudged : Judged s u key order status) (hwell : order.WellFormed)
    (hdelta : qtyEps < incomingDelta order u) (htime : 0 ≤ u.updateTime) (fee : ℚ) :
    (s.executionRecord order u (incomingDelta order u) fee).Sound := by
  obtain ⟨-, -, -, hprice, -⟩ := gapDetail_none (hjudged.gap hdelta)
  have hqty : 0 < incomingDelta order u := qtyEps_pos.trans hdelta
  refine ⟨executionIdOf_ne_empty _ _ _, hwell.symbol, ⟨order.intent.side, rfl⟩, hqty, hprice, ?_,
    htime⟩
  have hfilled := hwell.filledVolume_nonneg
  show 0 < u.cumFilledQty
  unfold incomingDelta at hqty
  linarith

theorem snapshotRecords_cases (before : Order) (update : Order × Except OrderError Bool) :
    snapshotRecords before update = [] ∨
      snapshotRecords before update = [.orderSnapshot update.1.toRecord "exchange_update"] := by
  obtain ⟨after, result⟩ := update
  cases result with
  | error err => exact Or.inl rfl
  | ok hadFill =>
    simp only [snapshotRecords]
    split
    · exact Or.inr rfl
    · exact Or.inl rfl

/-- The room the condition speaks of is room in the pass over the journal. -/
theorem room_of_absorbs {limit : ℕ} {r : OrderReplay} {oid : String} {cum : ℚ}
    (h : Absorbs s.journal oid cum) (hreplay : OrderReplay.replay limit {} s.journal = .ok r)
    (order : Order) (hget : r.latestOrderRecords.get? oid = some order.toRecord) :
    order.TakesFills ∧ qtyEps < order.intent.volume ∧ cum ≤ order.intent.volume + fillEps := by
  obtain ⟨-, -, hlast⟩ := OrderReplay.replay_latest hreplay hget
  obtain ⟨hstatus, hvolume, hfits⟩ := h _ hlast
  refine ⟨?_, hvolume, hfits⟩
  intro hclosed
  apply hstatus
  have hvalue := List.mem_map_of_mem (f := OrderStatus.value) hclosed
  exact hvalue

/-- **An update keeps the journal readable** when its fill can be read back. -/
theorem applyEvent_readable (env : EventEnv) (hnow : 0 ≤ env.now) {raw : RawOrderUpdate}
    (hfill : s.RecordableFill raw) (h : s.Readable) : (s.applyEvent env raw).Readable := by
  rcases applyEvent_cases env s raw with hsame | ⟨u, key, order, status, hraw, hjudge, happlied⟩
  · exact h.same hsame.orders hsame.records
  obtain ⟨htime, hseq⟩ := normalize_times hraw
  have hjudged := judge_proceed hjudge
  have hwell := h.orders key order (findOrder_get? hjudged.found)
  have hafter : (order.applyUpdate env.now u status).1.WellFormed :=
    hwell.applyUpdate hnow htime hseq status fun hdelta =>
      ⟨(hfill u key order status hraw hjudge hdelta).1,
        (gapDetail_none (hjudged.gap hdelta)).2.2.2.1⟩
  have hown := (Order.applyUpdate_identity order env.now u status).clientOid
  refine h.extend ?_ (by rw [happlied.records, List.append_assoc]) ?_
  · rw [happlied.orders]
    exact get?_set_wellFormed h.orders hafter
  intro limit r hreplay hsound
  by_cases hdelta : qtyEps < incomingDelta order u
  · obtain ⟨-, hroom⟩ := hfill u key order status hraw hjudge hdelta
    have hexecution := executionRecord_sound hjudged hwell hdelta htime
      (fillCommission env u order (incomingDelta order u * u.filledPrice))
    unfold executionRecords
    rw [if_pos hdelta]
    rcases snapshotRecords_cases order (order.applyUpdate env.now u status) with hnone | hsome
    · -- No snapshot follows, so the order refused the fill and the last snapshot takes it.
      have habsorbs : Absorbs s.journal order.clientOid u.cumFilledQty := by
        rcases hroom with hclean | habsorbs
        · exfalso
          obtain ⟨after, hupdate, -⟩ := Order.applyUpdate_clean env.now
            (gapDetail_none (hjudged.gap hdelta)).1 hdelta hclean
          rw [hupdate] at hnone
          simp [snapshotRecords] at hnone
        · exact habsorbs
      rw [hnone, List.append_nil]
      obtain ⟨r', hok, hsound'⟩ := OrderReplay.onExecution_sound hsound hexecution
        (room_of_absorbs habsorbs hreplay)
      exact ⟨r', by simp only [OrderReplay.replay, OrderReplay.step, hok], hsound'⟩
    · obtain ⟨next, hok, hbut⟩ := OrderReplay.onExecution_soundBut (hsound.but _) hexecution
      have hbut' : next.SoundBut (order.applyUpdate env.now u status).1.clientOid := by
        rw [hown]
        exact hbut
      obtain ⟨r', hok', hsound'⟩ := OrderReplay.onSnapshot_sound hbut' hafter limit
      refine ⟨r', ?_, hsound'⟩
      rw [hsome]
      simp only [List.cons_append, List.nil_append, OrderReplay.replay, OrderReplay.step, hok,
        hok']
  · unfold executionRecords
    rw [if_neg hdelta, List.nil_append]
    rcases snapshotRecords_cases order (order.applyUpdate env.now u status) with hnone | hsome
    · rw [hnone]
      exact ⟨r, rfl, hsound⟩
    · rw [hsome]
      exact OrderReplay.replay_results_snapshot hafter limit _ own_nil (hsound.but _)

/-! ## Trades, resets and restarts -/

theorem remoteOrder_wellFormed {remote : RemoteOrder} (hnow : 0 ≤ now)
    (hsymbol : remote.symbol ≠ "") (hvolume : 0 < remote.volume) (hprice : 0 < remote.price) :
    (remote.order now).WellFormed := by
  have hintent : remote.intent.symbol ≠ "" ∧ 0 < remote.intent.price ∧
      0 < remote.intent.volume := by
    unfold RemoteOrder.intent
    rw [Order.postInit_symbol, Order.postInit_price, Order.postInit_volume]
    exact ⟨toUpper_ne_empty hsymbol, hprice, hvolume⟩
  have hfirst := (init_wellFormed remote.clientOid hnow hintent.1 hintent.2.1
    hintent.2.2).transition hnow .submitting (fun heq => by cases heq) "" timed_empty
  exact hfirst.transition hnow .new (fun heq => by cases heq) "" ⟨le_refl 0, le_refl 0⟩

theorem createRecoveredOrder_readable {remote : RemoteOrder} (hnow : 0 ≤ now)
    (h : s.Readable) (hcreate : s.createRecoveredOrder remote now = .ok t) : t.Readable := by
  obtain ⟨hsymbol, hvolume, hprice, -, -, -, -, horders, -, hrecords⟩ :=
    createRecoveredOrder_ok hcreate
  refine h.extend ?_ (hrecords.trans (List.append_nil _).symm) ?_
  · rw [horders]
    exact get?_set_wellFormed h.orders (remoteOrder_wellFormed hnow hsymbol hvolume hprice)
  · intro limit replayed _ hsound
    exact ⟨replayed, rfl, hsound⟩

/-- The venue's answer about one order books no fill, so there is nothing to ask. -/
theorem applyExchangeOrderSnapshot_readable (env : EventEnv) (hnow : 0 ≤ env.now)
    (snapshot : OrderSnapshot) (h : s.Readable) :
    (s.applyExchangeOrderSnapshot env snapshot).1.Readable := by
  refine applyExchangeOrderSnapshot_preserves env snapshot h
    (fun hsame ht => ht.same hsame.orders hsame.records) ?_ ?_
  · intro created hcreate _
    exact createRecoveredOrder_readable hnow h hcreate
  intro t order executed avgPrice timeMs ht
  refine applyEvent_readable env hnow ?_ ht
  intro u key found status hraw hjudge hdelta
  exact absurd hdelta (snapshotUpdate_noFill hraw hjudge)

/-- A REST trade. -/
theorem applyExchangeTrade_readable (env : EventEnv) (hnow : 0 ≤ env.now) (trade : ExchangeTrade)
    (remote : Option RemoteOrder) (hfill : s.RecordableFills (.trade env trade remote))
    (h : s.Readable) : (s.applyExchangeTrade env trade remote).1.Readable := by
  refine applyExchangeTrade_preserves env trade remote h
    (fun hsame ht => ht.same hsame.orders hsame.records) ?_ ?_ ?_ ?_
  · intro r created _ hcreate
    exact createRecoveredOrder_readable hnow h hcreate
  · intro t source _ ht
    rcases advanceTradeCursor_cases t trade.symbol.toUpper trade.id source with heq | ⟨-, -, heq⟩
    · rw [heq]
      exact ht
    rw [heq]
    have hrecords : ledgerRecords (t.journal ++
        [.tradeCursorAdvanced trade.symbol.toUpper.toUpper trade.id source]) =
        ledgerRecords t.journal ++
          [.tradeCursorAdvanced trade.symbol.toUpper.toUpper trade.id source] := by
      rw [ledgerRecords_append, ledgerRecords_of_not_isQuiet rfl]
    refine ht.extend ht.orders hrecords ?_
    intro limit r _ hsound
    exact ⟨_, rfl, OrderReplay.onCursor_sound hsound _ _ _⟩
  · intro target htarget ht
    exact applyEvent_readable env hnow (hfill target htarget) ht
  · intro t key before time htime ht
    rcases restoreTerminal_cases t key before env.now time with
      heq | ⟨order, after, hfound, hrestored, hrecorded⟩
    · rw [heq]
      exact ht
    have hwell := (ht.orders key order hfound).restored hnow (le_max_of_le_right htime) hrestored
    refine ht.extend ?_ hrecorded.records ?_
    · rw [hrecorded.orders]
      exact get?_set_wellFormed ht.orders hwell
    · intro limit r _ hsound
      exact OrderReplay.replay_results_snapshot hwell limit _ own_nil (hsound.but _)

/-- A full reset. -/
theorem fullReset_readable (snapshot : ResetSnapshot) (hnow : 0 ≤ snapshot.now)
    (h : s.Readable) :
    (s.fullReset snapshot).1.Readable := by
  have heffect := fullReset_effect s snapshot
  refine h.extend ?_ heffect.records ?_
  · intro key order hget
    rw [heffect.orders] at hget
    cases hget
  · intro limit r _ hsound
    have hwell : ∀ order ∈ (s.orders.items.filter fun entry => entry.2.isActive).map
        (fun entry => resetOrder snapshot.now entry.2), order.WellFormed := by
      intro order hmem
      obtain ⟨entry, hentry, rfl⟩ := List.mem_map.mp hmem
      have hfound := Dict.get?_eq_some_iff.mpr (List.mem_filter.mp hentry).1
      exact (h.orders _ _ hfound).transition hnow .cancelled (fun heq => by cases heq) ""
        ⟨hnow, le_refl 0⟩
    have hreplay := OrderReplay.replay_snapshots limit "full_reset_terminalized" hwell hsound
    rw [List.map_map] at hreplay
    exact hreplay

/-- **A readable state can be restarted**, and what comes back is readable. -/
theorem restart_readable (hnow : 0 ≤ now) (h : s.Readable) :
    ∃ t, s.restart now = .ok t ∧ t.Readable := by
  obtain ⟨r, hreplay, hsound⟩ := h.journal s.tombstoneMax
  obtain ⟨recovered, hrebuild⟩ := hsound.rebuild hreplay hnow
  refine ⟨recover s.venue s.tombstoneMax s.journal recovered, ?_, ?_, h.journal⟩
  · unfold restart
    rw [hrebuild]
  intro key order hget
  obtain ⟨r', record, source, hreplay', -, hlatest, hrecover, -, -⟩ :=
    OrderReplay.rebuild_orders hrebuild hget
  rw [hreplay] at hreplay'
  cases hreplay'
  obtain ⟨order', hrecover', hwell⟩ := hsound.recoverOrder hreplay hnow hlatest
  rw [hrecover] at hrecover'
  cases hrecover'
  exact hwell

/-! ## Runs -/

/-- **One event** that meets the condition is possible and keeps the journal
readable. -/
theorem step_readable {event : OmsEvent} (hspelled : s.WellSpelled) (h : s.Readable)
    (hrecordable : s.Recordable event) :
    ∃ t, s.step event = some t ∧ t.WellSpelled ∧ t.Readable := by
  have hpossible : ∃ t, s.step event = some t := by
    cases event with
    | restart now =>
      have hnow : 0 ≤ now := hrecordable.clock
      obtain ⟨t, hrestart, -⟩ := restart_readable hnow h
      refine ⟨t, ?_⟩
      show (s.restart now).toOption = some t
      rw [hrestart]
      rfl
    | _ => exact ⟨_, rfl⟩
  obtain ⟨t, hstep⟩ := hpossible
  refine ⟨t, hstep, (step_attribution hspelled hstep).1, ?_⟩
  cases stepView hstep with
  | command hown heffect =>
    exact heffect.readable hrecordable.clock hrecordable.refused hspelled h
  | orderUpdate env raw => exact applyEvent_readable env hrecordable.clock hrecordable.fills h
  | trade env trade remote =>
    exact applyExchangeTrade_readable env hrecordable.clock trade remote hrecordable.fills h
  | orderSnapshot env snapshot =>
    exact applyExchangeOrderSnapshot_readable env hrecordable.clock snapshot h
  | account env raw =>
    obtain ⟨hsame, -⟩ := onExchangeAccountUpdate_spec env s raw Exposure.Moves.refl
      (fun h₁ h₂ => Exposure.Moves.trans h₁ h₂)
      (fun symbol volume price hsymbol e synced hsync =>
        Exposure.forceSync_reconcile_moves hsymbol hsync price)
    exact h.same hsame.orders hsame.records
  | reset snapshot => exact fullReset_readable snapshot hrecordable.clock h
  | @restart now _ hrestart =>
    have hnow : 0 ≤ now := hrecordable.clock
    obtain ⟨t', hrestart', hreadable⟩ := restart_readable hnow h
    rw [hrestart] at hrestart'
    cases hrestart'
    exact hreadable

theorem fresh_readable (venue : String) (tombstoneMax : ℕ) :
    (fresh venue tombstoneMax).Readable := by
  refine ⟨?_, fun limit => ⟨{}, rfl, rfl, ?_⟩⟩
  · intro key order hget
    cases hget
  · intro oid _ record hget
    cases hget

/-- **Every journal the OMS writes can be read back**: a run whose events all meet the
condition goes through to its end, restarts included, and the journal it leaves is
accepted at any later start. -/
theorem recordable_run_rebuilds (venue : String) (tombstoneMax : ℕ) (events : List OmsEvent)
    (halong : Run.Along step Recordable (fresh venue tombstoneMax) events) :
    ∃ t, Run.exec step (fresh venue tombstoneMax) events = some t ∧
      ∀ limit now, 0 ≤ now →
        ∃ recovered, OrderReplay.rebuild limit now t.journal = .ok recovered := by
  obtain ⟨t, hrun, -, hreadable⟩ := Run.exec_progress
    (fun s event hs hrecordable => step_readable hs.1 hs.2 hrecordable)
    (⟨fresh_wellSpelled venue tombstoneMax, fresh_readable venue tombstoneMax⟩ :
      (fresh venue tombstoneMax).WellSpelled ∧ (fresh venue tombstoneMax).Readable) halong
  refine ⟨t, hrun, ?_⟩
  intro limit now hnow
  obtain ⟨r, hreplay, hsound⟩ := hreadable.journal limit
  exact hsound.rebuild hreplay hnow

/-! ## The condition can be evaluated -/

instance (journal : List JournalRecord) (oid : String) (cum : ℚ) :
    Decidable (Absorbs journal oid cum) :=
  inferInstanceAs (Decidable (∀ record ∈ OrderReplay.lastSnapshot oid journal, _ ∧ _ ∧ _))

instance (order : Order) (u : ExchangeOrderUpdate) (status : UpdateStatus) :
    Decidable (order.BooksCleanly u status) :=
  decidable_of_iff (_ ∧ (_ ∨ _) ∧ (_ → _))
    ⟨fun h => ⟨h.1, h.2.1, h.2.2⟩, fun h => ⟨h.checks, h.moves, h.completes⟩⟩

/-- The order an update that reaches the booking is about. -/
def proceeding : Judgement → Option (Order × UpdateStatus)
  | .proceed _ order status => some (order, status)
  | _ => none

instance (s : OmsState) (raw : RawOrderUpdate) : Decidable (s.RecordableFill raw) :=
  decidable_of_iff (∀ u ∈ raw.normalize.toOption, ∀ p ∈ proceeding (s.judge u),
      qtyEps < incomingDelta p.1 u → qtyEps < p.1.intent.volume ∧
        (p.1.BooksCleanly u p.2 ∨ Absorbs s.journal p.1.clientOid u.cumFilledQty)) <| by
    constructor
    · intro h u key order status hraw hjudge
      refine h u (by rw [hraw]; rfl) (order, status) (by rw [hjudge]; rfl)
    rintro h u hraw ⟨order, status⟩ hp
    have hok : raw.normalize = .ok u := by
      revert hraw
      cases raw.normalize with
      | error detail => exact fun habsurd => by cases habsurd
      | ok u' =>
        intro heq
        rw [Option.mem_some_iff.mp heq]
    revert hp
    cases hjudge : s.judge u with
    | proceed key order' status' =>
      intro hp
      cases Option.mem_some_iff.mp hp
      exact h u key order status hok hjudge
    | _ => exact fun habsurd => by cases habsurd

instance (s : OmsState) (event : OmsEvent) : Decidable (s.RecordableFills event) :=
  match event with
  | .orderUpdate _ raw => inferInstanceAs (Decidable (s.RecordableFill raw))
  | .trade env trade remote =>
    inferInstanceAs (Decidable (∀ target ∈ tradeTarget env s trade remote,
      target.state.RecordableFill (target.update trade)))
  | .submit .. | .emergency .. | .submitResult .. | .absent .. | .cancel .. | .cancelResult ..
  | .orderSnapshot .. | .account .. | .reset .. | .restart .. => isTrue trivial

/-- The intent an event rejects, if it rejects one. -/
def refusedIntent (s : OmsState) : OmsEvent → Option OrderIntent
  | .submit env _ intent _ =>
    match admission env s.exposure intent with
    | .error (refused, _) => some refused
    | .ok _ => none
  | _ => none

theorem refuses_iff (s : OmsState) (event : OmsEvent) (intent : OrderIntent) :
    event.Refuses s intent ↔ intent ∈ s.refusedIntent event := by
  cases event with
  | submit env clientOid submitted reasonText =>
    show (∃ reason, admission env s.exposure submitted = .error (intent, reason)) ↔
      (match admission env s.exposure submitted with
        | .error (refused, _) => some refused
        | .ok _ => none) = some intent
    cases admission env s.exposure submitted with
    | error rejection =>
      obtain ⟨refused, reason⟩ := rejection
      simp
    | ok admitted => simp
  | _ => exact ⟨False.elim, fun habsurd => by cases habsurd⟩

instance (s : OmsState) (event : OmsEvent) : Decidable (s.Recordable event) :=
  decidable_of_iff (0 ≤ event.clock ∧
      (∀ intent ∈ s.refusedIntent event,
        intent.symbol ≠ "" ∧ 0 < intent.price ∧ 0 < intent.volume) ∧
      s.RecordableFills event)
    ⟨fun h => ⟨h.1, fun intent hintent => h.2.1 intent ((refuses_iff s event intent).mp hintent),
      h.2.2⟩,
    fun h => ⟨h.clock, fun intent hintent =>
      h.refused intent ((refuses_iff s event intent).mpr hintent), h.fills⟩⟩

/-! ## One run that can be read back, and one that cannot -/

/-- A quiet market in one symbol, and a configuration without limits. -/
def openDesk : SubmitEnv where
  now := 1
  market :=
    { markPrice := fun symbol => if symbol = "BTCUSDT" then 100 else 0
      bestQuote := fun _ => (0, 0)
      canonical := by
        intro symbol hmark
        by_cases heq : symbol = "BTCUSDT"
        · rw [heq]
          decide +kernel
        · rw [if_neg heq] at hmark
          exact absurd hmark (lt_irrefl 0) }
  contract := fun _ => some { minNotional := 0, supportsRpi := false }
  validator :=
    { maxOrderQty := 1000, maxOrderNotional := 1000000, maxDeviationPct := 1, maxSpreadPct := 1,
      freshnessEnabled := false, freshnessError := "", snapshotMark := 100, snapshotBid := 100,
      snapshotAsk := 100, rateLimit := "" }
  limits := { maxPosNotional := 1000000 }
  mode := .live
  degradedAggressiveToPassive := false
  blockReason := ""
  safetyReason := ""
  marginAvailable := true
  budgetReason := ""
  permitReason := ""
  calibrationReason := ""

/-- `submit_order` for `volume` contracts. -/
def buyOrder (clientOid : String) (volume : ℚ) : OmsEvent :=
  .submit openDesk clientOid
    { strategyId := "mm", symbol := "BTCUSDT", side := .buy, price := 100, volume := volume }
    fun _ => "refused"

/-- An order is sent, acknowledged and half filled, a second one is too large, and the
process is restarted. -/
def tradingDay : List OmsEvent :=
  [buyOrder "c1" 2, .submitResult 2 "c1" { outcome := .acknowledged, exchangeOid := "77" },
    .orderUpdate ⟨3, fun _ _ => 0, fun _ => "USDT"⟩ halfFill, buyOrder "c2" 5000, .restart 4]

theorem recordable_run_rebuilds_tradingDay :
    ∃ t, Run.exec step (fresh "BINANCE" 10) tradingDay = some t ∧
      ∀ limit now, 0 ≤ now →
        ∃ recovered, OrderReplay.rebuild limit now t.journal = .ok recovered := by
  have hrecordable : Run.Along step Recordable (fresh "BINANCE" 10) tradingDay := by
    decide +kernel
  exact recordable_run_rebuilds "BINANCE" 10 tradingDay hrecordable

/-- Why a rebuild is refused. -/
def refusal (result : Except RebuildError Recovered) : Option RebuildError :=
  match result with
  | .error err => some err
  | .ok _ => none

/-- An intent without volume is refused, journaled, and refused again at the next
start. -/
theorem refused_intent_blocks_rebuild :
    ∃ events t, Run.exec step (fresh "BINANCE" 10) events = some t ∧
      OrderReplay.rebuild 10 2 t.journal =
        .error (.invalidSnapshot "c1" (.invalidIntentValues "c1")) := by
  have hresult : (Run.exec step (fresh "BINANCE" 10) [buyOrder "c1" 0]).map
      (fun t => refusal (OrderReplay.rebuild 10 2 t.journal)) =
      some (some (.invalidSnapshot "c1" (.invalidIntentValues "c1"))) := by
    decide +kernel
  obtain ⟨t, ht, herror⟩ := Option.map_eq_some_iff.mp hresult
  refine ⟨_, t, ht, ?_⟩
  revert herror
  cases OrderReplay.rebuild 10 2 t.journal with
  | error err =>
    intro herror
    rw [Option.some.inj herror]
  | ok recovered => exact fun habsurd => by cases habsurd

end OmsState

end ChronosHFT.Oms
